import Mathlib.Data.List.Forall2
import LineSieve.Indexed

/-!
# Results

When what is made of a result succeeds, and with which error it fails. A walk over a list succeeds
if each element is accepted, and fails with the error of the first that is not.
-/

namespace LineSieve.Results

variable {ε α β : Type} {result : Except ε α} {e : ε} {y : β}

theorem map_eq_ok_iff {g : α → β} : result.map g = .ok y ↔ ∃ x, result = .ok x ∧ y = g x := by
  cases result <;> simp [Except.map, eq_comm]

theorem map_eq_error_iff {g : α → β} : result.map g = .error e ↔ result = .error e := by
  cases result <;> simp [Except.map]

theorem mapError_eq_ok_iff {ε' : Type} {f : ε → ε'} {x : α} :
    result.mapError f = .ok x ↔ result = .ok x := by
  cases result with
  | ok y =>
    have hok : (Except.ok y : Except ε α).mapError f = .ok y := rfl
    rw [hok, Except.ok.injEq, Except.ok.injEq]
  | error e =>
    have herror : (Except.error e : Except ε α).mapError f = .error (f e) := rfl
    rw [herror]
    simp only [reduceCtorEq]

theorem mapError_eq_error_iff {ε' : Type} {f : ε → ε'} {fault : ε'} :
    result.mapError f = .error fault ↔ ∃ e, result = .error e ∧ fault = f e := by
  cases result with
  | ok y =>
    have hok : (Except.ok y : Except ε α).mapError f = .ok y := rfl
    rw [hok]
    simp only [reduceCtorEq, false_and, exists_false]
  | error e =>
    have herror : (Except.error e : Except ε α).mapError f = .error (f e) := rfl
    rw [herror]
    simp [eq_comm]

theorem bind_eq_ok_iff {g : α → Except ε β} :
    result.bind g = .ok y ↔ ∃ x, result = .ok x ∧ g x = .ok y := by
  cases result <;> simp [Except.bind]

theorem bind_eq_error_iff {g : α → Except ε β} :
    result.bind g = .error e ↔ result = .error e ∨ ∃ x, result = .ok x ∧ g x = .error e := by
  cases result <;> simp [Except.bind]

/-! ### Walks over lists -/

variable {f : Nat → α → Except ε β} {xs : List α} {ys : List β} {index : Nat}

/-- Only the first element that is refused counts. -/
theorem mapFrom_eq_error_iff :
    mapFrom f index xs = .error e ↔
      ∃ i x, xs[i]? = some x ∧ f (index + i) x = .error e ∧
        ∀ j < i, ∀ y, xs[j]? = some y → ∃ b, f (index + j) y = .ok b := by
  induction xs generalizing index with
  | nil => simp [mapFrom]
  | cons x rest ih =>
    unfold mapFrom
    constructor
    · intro h
      cases hx : f index x with
      | error fault =>
        rw [hx] at h
        cases h
        exact ⟨0, x, rfl, hx, fun j hj => absurd hj (Nat.not_lt_zero j)⟩
      | ok b =>
        rw [hx] at h
        obtain ⟨i, y, hy, he, hbefore⟩ := ih.mp (map_eq_error_iff.mp h)
        refine ⟨i + 1, y, hy, by rwa [Nat.add_right_comm, Nat.add_assoc] at he, ?_⟩
        intro j hj z hz
        cases j with
        | zero =>
          obtain rfl : x = z := by simpa using hz
          exact ⟨b, hx⟩
        | succ j =>
          have hok := hbefore j (Nat.lt_of_succ_lt_succ hj) z hz
          rwa [Nat.add_right_comm, Nat.add_assoc] at hok
    · rintro ⟨i, y, hy, he, hbefore⟩
      cases i with
      | zero =>
        obtain rfl : x = y := by simpa using hy
        rw [Nat.add_zero] at he
        rw [he]
      | succ i =>
        obtain ⟨b, hb⟩ := hbefore 0 (Nat.succ_pos i) x rfl
        rw [Nat.add_zero] at hb
        rw [hb]
        refine map_eq_error_iff.mpr (ih.mpr ⟨i, y, hy, ?_, ?_⟩)
        · rwa [Nat.add_right_comm, Nat.add_assoc]
        · intro j hj z hz
          have hok := hbefore (j + 1) (Nat.succ_lt_succ hj) z hz
          rwa [Nat.add_right_comm, Nat.add_assoc]

theorem mapFrom_congr {related : α → α → Prop} {more : List α} (h : List.Forall₂ related xs more)
    (hf : ∀ i x y, related x y → f i x = f i y) (index : Nat) :
    mapFrom f index xs = mapFrom f index more := by
  induction h generalizing index with
  | nil => rfl
  | cons hxy _ ih => rw [mapFrom, mapFrom, hf index _ _ hxy, ih]

/-- Each element that is got was made of the one at its place. -/
theorem forall₂_of_mapFrom (h : mapFrom f index xs = .ok ys) :
    List.Forall₂ (fun x y => ∃ i, f i x = .ok y) xs ys := by
  induction xs generalizing index ys with
  | nil =>
    cases h
    exact .nil
  | cons x rest ih =>
    rw [mapFrom] at h
    cases hx : f index x with
    | error e =>
      rw [hx] at h
      cases h
    | ok y =>
      rw [hx] at h
      obtain ⟨more, hmore, rfl⟩ := map_eq_ok_iff.mp h
      exact .cons ⟨index, hx⟩ (ih hmore)

theorem exists_of_mem_mapFrom (h : mapFrom f index xs = .ok ys) (hy : y ∈ ys) :
    ∃ i, ∃ x ∈ xs, f i x = .ok y := by
  have hall := forall₂_of_mapFrom h
  clear h
  induction hall with
  | nil => cases hy
  | cons hx _ ih =>
    rcases List.mem_cons.mp hy with rfl | hy
    · obtain ⟨i, hi⟩ := hx
      exact ⟨i, _, List.mem_cons_self, hi⟩
    · obtain ⟨i, x, hmem, hi⟩ := ih hy
      exact ⟨i, x, List.mem_cons_of_mem _ hmem, hi⟩

theorem mapFrom_of_forall₂ (h : List.Forall₂ (fun x y => ∀ i, f i x = .ok y) xs ys)
    (index : Nat) : mapFrom f index xs = .ok ys := by
  induction h generalizing index with
  | nil => rfl
  | cons hx _ ih =>
    rw [mapFrom, hx index, ih (index + 1)]
    rfl

theorem mapFrom_eq_ok_iff {p : α → β → Prop} (hp : ∀ {n x y}, f n x = .ok y ↔ p x y) :
    mapFrom f index xs = .ok ys ↔ List.Forall₂ p xs ys := by
  constructor
  · intro h
    exact (forall₂_of_mapFrom h).imp fun _ _ ⟨_, hf⟩ => hp.mp hf
  · intro h
    exact mapFrom_of_forall₂ (h.imp fun _ _ hxy _ => hp.mpr hxy) index

end LineSieve.Results
