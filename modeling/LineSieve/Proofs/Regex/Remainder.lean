import Mathlib.Tactic.IntervalCases
import LineSieve.Proofs.Regex.Layout
import LineSieve.Proofs.Regex.Threads

/-!
# A group for the rest of a line

A program that ends with a group which prefers to take more characters, and takes any that the line
has, cannot stop within the line. Where a thread accepts, a thread that it less preferred waits in
the group for one more character, and behind this character it accepts again. What comes before the
group does not matter, since it is left only for the group.
-/

namespace LineSieve.Regex

open Program (Starts Within)

/-! ### The code of the group -/

/-- The code that takes the rest of a line in group `k`: the group starts at 6, takes its characters
at 5 and, by preference, more of them at 4, and it is closed at 3. -/
def Program.restCode (members : CharSet) (k : Nat) : Code :=
  #[.stuck, .accept, .save 1 1, .save (2 * k + 1) 2, .fork [5, 3], .consume members 4,
    .save (2 * k) 5]

/-- A program that ends with a group for the rest of a line. -/
structure EndsWithRest (p : Program) (members : CharSet) (k : Nat) : Prop where
  starts : Starts (Program.restCode members k) 6 (p.start, p.code)
  pos : 0 < k
  lt : k < p.groups
  four_le_reach : 4 ≤ p.reach

variable {p : Program} {members : CharSet} {k offset fuel : Nat} {place : Place}
  {threads next : Threads} {t : Thread} {ts stack : List Thread} {slots : Slots} {c : Option Char}

namespace EndsWithRest

theorem getElem?_code (h : EndsWithRest p members k) {address : Nat} (ha : address < 7) :
    p.code[address]? = (Program.restCode members k)[address]? := h.starts.onTop.below address ha

theorem seven_le_size (h : EndsWithRest p members k) : 7 ≤ p.code.size := h.starts.onTop.size_le

theorem six_le_start (h : EndsWithRest p members k) : 6 ≤ p.start := by
  rcases h.starts.within with heq | hle
  · exact Nat.le_of_eq heq.symm
  · exact Nat.le_trans (Nat.le_succ 6) hle

/-- What is before the group goes on before the group or at its start. -/
theorem six_le_of_mem_targets (h : EndsWithRest p members k) {address target : Nat} {i : Inst}
    (ha : 7 ≤ address) (hi : p.code[address]? = some i) (htarget : target ∈ i.targets) :
    6 ≤ target := by
  rcases (h.starts.onTop.above address i ha hi).2 target htarget with heq | hle
  · exact Nat.le_of_eq heq.symm
  · exact Nat.le_trans (Nat.le_succ 6) hle

theorem eq_one_of_accept (h : EndsWithRest p members k) {address : Nat}
    (haccept : p.code[address]? = some .accept) : address = 1 := by
  by_cases ha : 7 ≤ address
  · exact absurd rfl (h.starts.onTop.above address _ ha haccept).1
  · rw [h.getElem?_code (by omega)] at haccept
    interval_cases address <;> first | rfl | cases haccept

end EndsWithRest

/-! ### One thread -/

section Group

variable (h : EndsWithRest p members k) (place : Place) (slots : Slots)
include h

/-- In the group only its own code counts. -/
theorem EndsWithRest.onwards?_eq {address : Nat} (ha : address < 7) :
    (⟨address, slots⟩ : Thread).onwards? p place =
      (⟨address, slots⟩ : Thread).onwards? ⟨Program.restCode members k, 6, 0, 0⟩ place := by
  unfold Thread.onwards?
  rw [h.getElem?_code ha]

theorem EndsWithRest.onwards?_zero : (⟨0, slots⟩ : Thread).onwards? p place = some [] :=
  h.onwards?_eq place slots (show 0 < 7 by decide)

theorem EndsWithRest.onwards?_one : (⟨1, slots⟩ : Thread).onwards? p place = none :=
  h.onwards?_eq place slots (show 1 < 7 by decide)

theorem EndsWithRest.onwards?_two :
    (⟨2, slots⟩ : Thread).onwards? p place = some [⟨1, slots.set 1 (some place.offset)⟩] :=
  h.onwards?_eq place slots (show 2 < 7 by decide)

theorem EndsWithRest.onwards?_three : (⟨3, slots⟩ : Thread).onwards? p place =
    some [⟨2, slots.set (2 * k + 1) (some place.offset)⟩] :=
  h.onwards?_eq place slots (show 3 < 7 by decide)

theorem EndsWithRest.onwards?_four :
    (⟨4, slots⟩ : Thread).onwards? p place = some [⟨5, slots⟩, ⟨3, slots⟩] :=
  h.onwards?_eq place slots (show 4 < 7 by decide)

theorem EndsWithRest.onwards?_five : (⟨5, slots⟩ : Thread).onwards? p place = none :=
  h.onwards?_eq place slots (show 5 < 7 by decide)

theorem EndsWithRest.onwards?_six : (⟨6, slots⟩ : Thread).onwards? p place =
    some [⟨5, slots.set (2 * k) (some place.offset)⟩] :=
  h.onwards?_eq place slots (show 6 < 7 by decide)

end Group

/-- Threads before the group go on before it or at its start, and keep their number of slots. -/
theorem EndsWithRest.onwards?_above (h : EndsWithRest p members k) (ha : 7 ≤ t.address)
    (honwards : t.onwards? p place = some ts) :
    ∀ u ∈ ts, 6 ≤ u.address ∧ u.slots.length = t.slots.length := by
  unfold Thread.onwards? at honwards
  split at honwards <;> cases honwards
  · next look target heq =>
    intro u hu
    split at hu
    · rw [List.mem_singleton] at hu
      exact hu ▸ ⟨h.six_le_of_mem_targets ha heq List.mem_cons_self, rfl⟩
    · cases hu
  · next slot target heq =>
    intro u hu
    rw [List.mem_singleton] at hu
    exact hu ▸ ⟨h.six_le_of_mem_targets ha heq List.mem_cons_self, List.length_set⟩
  · next branches heq =>
    intro u hu
    obtain ⟨target, htarget, rfl⟩ := List.mem_map.mp hu
    exact ⟨h.six_le_of_mem_targets ha heq htarget, rfl⟩
  · exact nofun
  · exact nofun

/-- What a thread has saved at a place: behind the start of the group where this was, before the
place if a character was taken, and behind the group where it ended, which is the place. -/
structure Thread.Saved (groups k offset : Nat) (t : Thread) : Prop where
  length_slots : t.slots.length = 2 * groups
  start : t.address ≤ 5 →
    ∃ a, t.slots[2 * k]? = some (some a) ∧ a ≤ offset ∧ (t.address ≤ 4 → a < offset)
  stop : t.address ≤ 2 → t.slots[2 * k + 1]? = some (some offset)

theorem Thread.saved_above (ha : 6 ≤ t.address) {groups : Nat}
    (hlength : t.slots.length = 2 * groups) : t.Saved groups k offset :=
  ⟨hlength, fun h => absurd h (by omega), fun h => absurd h (by omega)⟩

/-- A thread that has taken a character saves a place other than the start of the group. -/
theorem Thread.Saved.set {groups slot address : Nat} {slots : Slots}
    (h : (⟨address, slots⟩ : Thread).Saved groups k offset) (haddress : address ≤ 4)
    (hslot : slot ≠ 2 * k) (target : Nat)
    (hstop : target ≤ 2 → (slots.set slot (some offset))[2 * k + 1]? = some (some offset)) :
    (⟨target, slots.set slot (some offset)⟩ : Thread).Saved groups k offset := by
  obtain ⟨a, hstart, -, hless⟩ := h.start (Nat.le_succ_of_le haddress)
  have ha : a < offset := hless haddress
  refine ⟨?_, fun _ => ⟨a, ?_, ha.le, fun _ => ha⟩, hstop⟩
  · rw [List.length_set]
    exact h.length_slots
  · rw [List.getElem?_set_ne hslot]
    exact hstart

theorem EndsWithRest.saved_onwards (h : EndsWithRest p members k)
    (ht : t.Saved p.groups k place.offset) (honwards : t.onwards? p place = some ts) :
    ∀ u ∈ ts, u.Saved p.groups k place.offset := by
  by_cases ha : 7 ≤ t.address
  · intro u hu
    obtain ⟨haddress, hlength⟩ := h.onwards?_above ha honwards u hu
    exact Thread.saved_above haddress (hlength.trans ht.length_slots)
  · have hk := h.pos
    have hlt := h.lt
    obtain ⟨address, slots⟩ := t
    have hlength : slots.length = 2 * p.groups := ht.length_slots
    dsimp only at ha
    interval_cases address
    · rw [h.onwards?_zero] at honwards
      cases honwards
      exact nofun
    · rw [h.onwards?_one] at honwards
      cases honwards
    · rw [h.onwards?_two] at honwards
      cases honwards
      refine List.forall_mem_singleton.mpr (ht.set (by decide) (by omega) 1 fun _ => ?_)
      rw [List.getElem?_set_ne (by omega)]
      exact ht.stop (Nat.le_refl 2)
    · rw [h.onwards?_three] at honwards
      cases honwards
      refine List.forall_mem_singleton.mpr (ht.set (by decide) (by omega) 2 fun _ => ?_)
      rw [List.getElem?_set_self (by omega)]
    · rw [h.onwards?_four] at honwards
      cases honwards
      obtain ⟨a, hslot, hle, hless⟩ := ht.start (Nat.le_succ 4)
      have hboth : ∀ address, 3 ≤ address →
          (⟨address, slots⟩ : Thread).Saved p.groups k place.offset := fun address hge =>
        ⟨hlength, fun _ => ⟨a, hslot, hle, fun _ => hless (Nat.le_refl 4)⟩,
          fun htwo => absurd (Nat.le_trans hge htwo) (by decide)⟩
      simpa using ⟨hboth 5 (by decide), hboth 3 (by decide)⟩
    · rw [h.onwards?_five] at honwards
      cases honwards
    · rw [h.onwards?_six] at honwards
      cases honwards
      refine List.forall_mem_singleton.mpr ⟨by simpa using hlength, fun _ => ?_, fun htwo => ?_⟩
      · refine ⟨place.offset, ?_, le_rfl, fun hfour => absurd hfour (by simp)⟩
        rw [List.getElem?_set_self (by omega)]
      · exact absurd htwo (by simp)

/-! ### The threads of a place -/

/-- Before each thread that accepts there is a preferred one that waits in the group. -/
def Preferred (ts : List Thread) : Prop :=
  ∀ before t behind, ts = before ++ t :: behind → t.address = 1 → ∃ u ∈ before, u.address = 5

theorem Preferred.concat (h : Preferred ts)
    (ht : t.address = 1 → ∃ u ∈ ts, u.address = 5) : Preferred (ts ++ [t]) := by
  intro before u behind heq hu
  rcases List.eq_nil_or_concat behind with rfl | ⟨more, last, rfl⟩
  · obtain ⟨rfl, hlast⟩ := List.append_inj' heq rfl
    rw [List.cons.injEq] at hlast
    exact ht (hlast.1 ▸ hu)
  · rw [List.concat_eq_append, ← List.cons_append, ← List.append_assoc] at heq
    obtain ⟨rfl, -⟩ := List.append_inj' heq rfl
    exact h before u more rfl hu

theorem Preferred.tail (h : Preferred (t :: ts)) (ht : t.address ≠ 5) : Preferred ts := by
  intro before u behind heq hu
  obtain ⟨w, hw, haddress⟩ := h (t :: before) u behind (by rw [heq, List.cons_append]) hu
  rcases List.mem_cons.mp hw with rfl | hw
  · exact absurd haddress ht
  · exact ⟨w, hw, haddress⟩

/-- The threads of a place, where the group was entered at most by one of them: if one takes
another character there, one accepts, and a preferred one waits for the next character. -/
structure Threads.Kept (threads : Threads) : Prop where
  preferred : Preferred threads.waiting.reverse
  accepting : threads.hasMet 4 = true → ∃ t ∈ threads.waiting, t.address = 1
  repeating : threads.hasMet 5 = true → ∃ t ∈ threads.waiting, t.address = 5
  together : ∀ address, 1 ≤ address → address ≤ 3 → threads.hasMet address = threads.hasMet 4

theorem EndsWithRest.kept_none (h : EndsWithRest p members k) : (Threads.none p).Kept := by
  have hsize := h.seven_le_size
  have hmet : ∀ address, address < 7 → (Threads.none p).hasMet address = false :=
    fun address ha => Threads.hasMet_none (by omega)
  refine ⟨?_, fun h4 => ?_, fun h5 => ?_, fun address _ hle => ?_⟩
  · intro before t behind heq
    simp [Threads.waiting_none] at heq
  · rw [hmet 4 (by decide)] at h4
    cases h4
  · rw [hmet 5 (by decide)] at h5
    cases h5
  · rw [hmet 4 (by decide), hmet address (by omega)]

theorem Threads.Kept.wait (h : threads.Kept) (ha : 5 ≤ t.address) :
    ((threads.meet t.address).wait t).Kept := by
  have hother : ∀ address, address ≤ 4 →
      ((threads.meet t.address).wait t).hasMet address = threads.hasMet address := by
    intro address hle
    have hne : t.address ≠ address := by omega
    rw [Threads.hasMet_wait, Threads.hasMet_meet, decide_eq_false hne, Bool.false_or]
  refine ⟨?_, fun h4 => ?_, fun h5 => ?_, fun address hge hle => ?_⟩
  · rw [Threads.waiting_wait, Threads.waiting_meet, List.reverse_cons]
    exact h.preferred.concat fun hone => absurd ha (by omega)
  · rw [hother 4 le_rfl] at h4
    obtain ⟨u, hu, haddress⟩ := h.accepting h4
    exact ⟨u, List.mem_cons_of_mem _ hu, haddress⟩
  · by_cases hfive : t.address = 5
    · exact ⟨t, List.mem_cons_self, hfive⟩
    · have hmet : threads.hasMet 5 = true := by simpa [hfive] using h5
      obtain ⟨u, hu, haddress⟩ := h.repeating hmet
      exact ⟨u, List.mem_cons_of_mem _ hu, haddress⟩
  · rw [hother address (by omega), hother 4 le_rfl]
    exact h.together address hge hle

theorem Threads.Kept.meet (h : threads.Kept) {address : Nat} (ha : 6 ≤ address) :
    (threads.meet address).Kept := by
  have hother : ∀ other, other ≤ 5 →
      (threads.meet address).hasMet other = threads.hasMet other := by
    intro other hle
    simp [show address ≠ other by omega]
  refine ⟨h.preferred, fun h4 => ?_, fun h5 => ?_, fun other hge hle => ?_⟩
  · exact h.accepting (hother 4 (by decide) ▸ h4)
  · exact h.repeating (hother 5 le_rfl ▸ h5)
  · rw [hother other (by omega), hother 4 (by decide)]
    exact h.together other hge hle

/-- Threads before the group, or at its start, are followed without leaving it. -/
theorem EndsWithRest.kept_follow (h : EndsWithRest p members k) (place : Place) (fuel : Nat)
    (hkept : threads.Kept) (hstack : ∀ t ∈ stack, 5 ≤ t.address) :
    (threads.follow p place fuel stack).Kept ∧
      (threads.follow p place fuel stack).hasMet 4 = threads.hasMet 4 := by
  refine Threads.follow_induction
    (P := fun s => s.Kept ∧ s.hasMet 4 = threads.hasMet 4) (Q := fun t => 5 ≤ t.address)
    ?_ ?_ ⟨hkept, rfl⟩ hstack
  · rintro s t ⟨hs, hmet⟩ ha - -
    refine ⟨hs.wait ha, ?_⟩
    simp [hmet, show t.address ≠ 4 by omega]
  · rintro s t ts ⟨hs, hmet⟩ ha - honwards
    obtain ⟨address, slots⟩ := t
    dsimp only at ha ⊢
    have hfive : address ≠ 5 := by
      rintro rfl
      rw [h.onwards?_five] at honwards
      cases honwards
    refine ⟨⟨hs.meet (by omega), by simp [hmet, show address ≠ 4 by omega]⟩, ?_⟩
    by_cases hsix : address = 6
    · subst hsix
      rw [h.onwards?_six] at honwards
      cases honwards
      exact List.forall_mem_singleton.mpr le_rfl
    · intro u hu
      have hfollows : 6 ≤ u.address :=
        (h.onwards?_above (show 7 ≤ address by omega) honwards u hu).1
      exact Nat.le_of_succ_le hfollows

/-- Behind a character that was taken in the group, the thread at 5 waits, or one that is preferred
does already. -/
theorem EndsWithRest.exists_follow_five (h : EndsWithRest p members k) (place : Place) (fuel : Nat)
    (slots : Slots) (stack : List Thread) (hkept : threads.Kept) :
    ∃ s : Threads,
      (threads.meet 4).follow p place (fuel + 1) (⟨5, slots⟩ :: stack) =
        s.follow p place fuel stack ∧
      Preferred s.waiting.reverse ∧ (∃ u ∈ s.waiting, u.address = 5) ∧
      ∀ a, a ≤ 4 → s.hasMet a = (threads.meet 4).hasMet a := by
  cases hfive : (threads.meet 4).hasMet 5 with
  | true =>
    refine ⟨_, Threads.follow_of_hasMet hfive, hkept.preferred, ?_, fun _ _ => rfl⟩
    exact hkept.repeating (by simpa using hfive)
  | false =>
    refine ⟨_, Threads.follow_of_waits hfive (h.onwards?_five place slots), ?_,
      ⟨_, List.mem_cons_self, rfl⟩, fun a ha => ?_⟩
    · rw [Threads.waiting_wait, List.reverse_cons]
      exact hkept.preferred.concat fun hone => absurd hone (by simp)
    · simp [show 5 ≠ a by omega]

/-- A thread that has taken a character in the group waits there for the next one and is
followed to where it accepts, unless another one did both before. -/
theorem EndsWithRest.kept_add_four (h : EndsWithRest p members k) (place : Place)
    (hkept : threads.Kept) (ht : t.address = 4) :
    (threads.add p place t).Kept ∧ (threads.add p place t).hasMet 4 = true := by
  obtain ⟨fuel, hfuel⟩ : ∃ fuel, p.reach + 1 = fuel + 5 :=
    ⟨p.reach - 4, by have := h.four_le_reach; omega⟩
  rw [Threads.add, hfuel]
  cases hfour : threads.hasMet 4 with
  | true =>
    rw [Threads.follow_of_hasMet (ht ▸ hfour), Threads.follow_nil]
    exact ⟨hkept, hfour⟩
  | false =>
    obtain ⟨address, slots⟩ := t
    dsimp only at ht
    subst ht
    rw [Threads.follow_of_goes hfour (h.onwards?_four place slots)]
    rw [List.append_nil]
    obtain ⟨s, hs, hpreferred, hfive, hmet⟩ :=
      h.exists_follow_five place (fuel + 3) slots [⟨3, slots⟩] hkept
    have hnot : ∀ a, 1 ≤ a → a ≤ 3 → s.hasMet a = false := by
      intro a hge hle
      rw [hmet a (by omega), Threads.hasMet_meet, hkept.together a hge hle, hfour]
      simp [show 4 ≠ a by omega]
    rw [hs, Threads.follow_of_goes (hnot 3 (by decide) (by decide))
      (h.onwards?_three place slots), List.append_nil,
      Threads.follow_of_goes (by simp [hnot 2]) (h.onwards?_two place _), List.append_nil,
      Threads.follow_of_waits (by simp [hnot 1]) (h.onwards?_one place _), Threads.follow_nil]
    obtain ⟨u, hu, haddress⟩ := hfive
    refine ⟨⟨?_, fun _ => ⟨_, List.mem_cons_self, rfl⟩,
      fun _ => ⟨u, List.mem_cons_of_mem _ hu, haddress⟩, fun a hge hle => ?_⟩, ?_⟩
    · rw [Threads.waiting_wait, List.reverse_cons]
      exact hpreferred.concat fun _ => ⟨u, List.mem_reverse.mpr hu, haddress⟩
    · interval_cases a <;> simp [hmet]
    · simp [hmet]

/-! ### From place to place -/

theorem EndsWithRest.saved_add (h : EndsWithRest p members k)
    (hsaved : ∀ u ∈ threads.waiting, u.Saved p.groups k place.offset)
    (ht : t.Saved p.groups k place.offset) :
    ∀ u ∈ (threads.add p place t).waiting, u.Saved p.groups k place.offset := by
  refine Threads.follow_induction
    (P := fun s => ∀ u ∈ s.waiting, u.Saved p.groups k place.offset)
    (Q := fun t => t.Saved p.groups k place.offset) ?_ ?_ hsaved (List.forall_mem_singleton.mpr ht)
  · intro s t hs ht _ _
    exact List.forall_mem_cons.mpr ⟨ht, hs⟩
  · intro s t ts hs ht _ honwards
    exact ⟨hs, h.saved_onwards ht honwards⟩

/-- The threads of a place in a search, all of which have saved what they should. -/
structure Threads.KeptAt (threads : Threads) (groups k offset : Nat) : Prop where
  kept : threads.Kept
  saved : ∀ t ∈ threads.waiting, t.Saved groups k offset

/-- A thread that takes a character goes on in the group if it was there, and before it if not. -/
theorem EndsWithRest.keptAt_add (h : EndsWithRest p members k) {taken : CharSet} {target : Nat}
    (hnext : next.KeptAt p.groups k place.offset) (ht : t.Saved p.groups k offset)
    (hplace : place.offset = offset + 1)
    (hcode : p.code[t.address]? = some (.consume taken target)) :
    let added := next.add p place { t with address := target }
    added.KeptAt p.groups k place.offset ∧
      (t.address = 5 ∨ next.hasMet 4 = true → added.hasMet 4 = true) := by
  by_cases ha : 7 ≤ t.address
  · have htarget : 6 ≤ target := h.six_le_of_mem_targets ha hcode List.mem_cons_self
    have hstack : ∀ u ∈ [{ t with address := target }], 5 ≤ u.address :=
      List.forall_mem_singleton.mpr (Nat.le_of_succ_le htarget)
    obtain ⟨hkept, hmet⟩ := h.kept_follow place (p.reach + 1) hnext.kept hstack
    refine ⟨⟨hkept, h.saved_add hnext.saved (Thread.saved_above htarget ht.length_slots)⟩, ?_⟩
    rintro (hfive | hfour)
    · omega
    · exact hmet.trans hfour
  · rw [h.getElem?_code (by omega)] at hcode
    obtain ⟨address, slots⟩ := t
    dsimp only at ha hcode ⊢
    interval_cases address <;> cases hcode
    obtain ⟨a, hslot, hle, -⟩ := ht.start (by simp)
    have hsaved : (⟨4, slots⟩ : Thread).Saved p.groups k place.offset :=
      ⟨ht.length_slots, fun _ => ⟨a, hslot, by omega, fun _ => by omega⟩,
        fun htwo => absurd htwo (by simp)⟩
    obtain ⟨hkept, hmet⟩ := h.kept_add_four (t := ⟨4, slots⟩) place hnext.kept rfl
    exact ⟨⟨hkept, h.saved_add hnext.saved hsaved⟩, fun _ => hmet⟩

theorem EndsWithRest.keptAt_advance (h : EndsWithRest p members k)
    (hnext : next.KeptAt p.groups k place.offset) (hts : ∀ t ∈ ts, t.Saved p.groups k offset)
    (hplace : place.offset = offset + 1) :
    (advance p c place ts next).1.KeptAt p.groups k place.offset := by
  induction ts generalizing next with
  | nil => exact hnext
  | cons t rest ih =>
    obtain ⟨ht, hrest⟩ := List.forall_mem_cons.mp hts
    unfold advance
    split
    · exact hnext
    · next taken target hcode =>
      split
      · exact ih (h.keptAt_add hnext ht hplace hcode).1 hrest
      · exact ih hnext hrest
    · exact ih hnext hrest

/-- If a thread accepts before a character that the group takes, a preferred one has taken it. -/
theorem EndsWithRest.hasMet_advance (h : EndsWithRest p members k) {c : Char}
    (hc : members.contains c = true) (hnext : next.KeptAt p.groups k place.offset)
    (hts : ∀ t ∈ ts, t.Saved p.groups k offset) (hplace : place.offset = offset + 1)
    (hpreferred : next.hasMet 4 = true ∨ Preferred ts)
    (hsome : (advance p (some c) place ts next).2.isSome = true) :
    (advance p (some c) place ts next).1.hasMet 4 = true := by
  induction ts generalizing next with
  | nil => cases hsome
  | cons t rest ih =>
    obtain ⟨ht, hrest⟩ := List.forall_mem_cons.mp hts
    have hbehind : next.hasMet 4 = true ∨ t.address ≠ 5 →
        next.hasMet 4 = true ∨ Preferred rest := by
      rintro (hmet | hfive)
      · exact Or.inl hmet
      · exact hpreferred.imp_right fun hall => hall.tail hfive
    unfold advance at hsome ⊢
    split at hsome
    · next haccept =>
      refine hpreferred.elim id fun hall => ?_
      obtain ⟨u, hu, -⟩ := hall [] t rest rfl (h.eq_one_of_accept haccept)
      cases hu
    · next taken target hcode =>
      obtain ⟨hadded, hmet⟩ := h.keptAt_add hnext ht hplace hcode
      simp only [Option.any_some] at hsome ⊢
      split at hsome
      · next htakes =>
        rw [if_pos htakes]
        refine ih hadded hrest ?_ hsome
        by_cases hfive : t.address = 5
        · exact Or.inl (hmet (Or.inl hfive))
        · exact (hbehind (Or.inr hfive)).imp_left fun hfour => hmet (Or.inr hfour)
      · next htakes =>
        rw [if_neg htakes]
        refine ih hnext hrest (hbehind (Or.inr fun hfive => ?_)) hsome
        rw [hfive, h.getElem?_code (by decide)] at hcode
        cases hcode
        exact htakes hc
    · next hother =>
      refine ih hnext hrest (hbehind (Or.inr fun hfive => ?_)) hsome
      rw [hfive, h.getElem?_code (by decide)] at hother
      exact hother _ _ rfl

/-- What is found before the next character are the slots of a thread that accepts. -/
theorem EndsWithRest.exists_of_advance (h : EndsWithRest p members k)
    (hsome : (advance p c place ts next).2 = some slots) :
    ∃ t ∈ ts, t.address = 1 ∧ t.slots = slots := by
  induction ts generalizing next with
  | nil => cases hsome
  | cons t rest ih =>
    have hbehind : ∀ {next : Threads}, (advance p c place rest next).2 = some slots →
        ∃ u ∈ t :: rest, u.address = 1 ∧ u.slots = slots := fun hrest =>
      have ⟨u, hu, hslots⟩ := ih hrest
      ⟨u, List.mem_cons_of_mem _ hu, hslots⟩
    unfold advance at hsome
    split at hsome
    · next haccept =>
      exact ⟨t, List.mem_cons_self, h.eq_one_of_accept haccept, Option.some.inj hsome⟩
    · split at hsome
      · exact hbehind hsome
      · exact hbehind hsome
    · exact hbehind hsome

theorem EndsWithRest.isSome_advance (h : EndsWithRest p members k)
    (haccept : ∃ t ∈ ts, t.address = 1) : (advance p c place ts next).2.isSome = true := by
  induction ts generalizing next with
  | nil =>
    obtain ⟨t, ht, -⟩ := haccept
    cases ht
  | cons t rest ih =>
    unfold advance
    by_cases hone : t.address = 1
    · rw [hone, h.getElem?_code (by decide)]
      rfl
    · have hrest : ∃ u ∈ rest, u.address = 1 := by
        obtain ⟨u, hu, haddress⟩ := haccept
        rcases List.mem_cons.mp hu with rfl | hu
        · exact absurd haddress hone
        · exact ⟨u, hu, haddress⟩
      split
      · rfl
      · split
        · exact ih hrest
        · exact ih hrest
      · exact ih hrest

/-! ### Searches -/

/-- A search with what it has found so far: if that is something, it is found again here. -/
structure Searching (p : Program) (k offset : Nat) (threads : Threads) (found : Option Slots) :
    Prop where
  keptAt : threads.KeptAt p.groups k offset
  accepting : found.isSome = true → threads.hasMet 4 = true

/-- A search goes on with a new thread, which is before the group. -/
theorem EndsWithRest.searching_add (h : EndsWithRest p members k) (place : Place)
    {found : Option Slots} (hsearching : Searching p k place.offset threads found) :
    Searching p k place.offset
      (if found.isNone then threads.add p place (.fresh p) else threads) found := by
  cases found with
  | some slots => exact hsearching
  | none =>
    have hlength : (Thread.fresh p).slots.length = 2 * p.groups := List.length_replicate
    have hstart : 6 ≤ (Thread.fresh p).address := h.six_le_start
    refine ⟨⟨(h.kept_follow place _ hsearching.keptAt.kept ?_).1, ?_⟩, nofun⟩
    · exact List.forall_mem_singleton.mpr (Nat.le_of_succ_le hstart)
    · exact h.saved_add hsearching.keptAt.saved (Thread.saved_above hstart hlength)

theorem EndsWithRest.exists_accepting (h : EndsWithRest p members k) (c : Option Char)
    (place : Place) (next : Threads) {found : Option Slots}
    (hsearching : Searching p k offset threads found) (hfound : found.isSome = true) :
    (advance p c place threads.waiting.reverse next).2.isSome = true := by
  obtain ⟨t, ht, hone⟩ := hsearching.keptAt.kept.accepting (hsearching.accepting hfound)
  exact h.isSome_advance ⟨t, List.mem_reverse.mpr ht, hone⟩

/-- What is found behind one more character that the group takes is found again there. -/
theorem EndsWithRest.searching_advance (h : EndsWithRest p members k) (place : Place) {c : Char}
    (hc : members.contains c = true) {found : Option Slots}
    (hsearching : Searching p k offset threads found) (hplace : place.offset = offset + 1) :
    let advanced := advance p (some c) place threads.waiting.reverse (.none p)
    Searching p k (offset + 1) advanced.1 (advanced.2.orElse fun _ => found) := by
  have hnone : (Threads.none p).KeptAt p.groups k place.offset :=
    ⟨h.kept_none, by rw [Threads.waiting_none]; exact nofun⟩
  have hsaved : ∀ t ∈ threads.waiting.reverse, t.Saved p.groups k offset :=
    fun t ht => hsearching.keptAt.saved t (List.mem_reverse.mp ht)
  refine ⟨hplace ▸ h.keptAt_advance hnone hsaved hplace, fun hfound => ?_⟩
  refine h.hasMet_advance hc hnone hsaved hplace (Or.inr hsearching.keptAt.kept.preferred) ?_
  by_contra haccepted
  rw [Option.not_isSome_iff_eq_none.mp haccepted] at hfound
  exact haccepted (h.exists_accepting _ _ _ hsearching hfound)

/-- A search through characters that the group takes finds a thread that accepts behind the last of
them. -/
theorem EndsWithRest.exists_of_searchFrom (h : EndsWithRest p members k) {rest : List Char}
    (hrest : ∀ c ∈ rest, members.contains c = true) {before : Option Char} {found : Option Slots}
    (hsearching : Searching p k offset threads found)
    (hsome : searchFrom p offset before threads found rest = some slots) :
    ∃ t : Thread, t.Saved p.groups k (offset + rest.length) ∧ t.address = 1 ∧ t.slots = slots := by
  induction rest generalizing offset before threads found with
  | nil =>
    have hadded := h.searching_add ⟨offset, before, none⟩ hsearching
    unfold searchFrom at hsome
    dsimp only at hsome hadded
    generalize (if found.isNone = true then threads.add p ⟨offset, before, none⟩ (.fresh p)
      else threads) = added at hsome hadded
    have hfound : (advance p none ⟨offset, before, none⟩ added.waiting.reverse (.none p)).2 =
        some slots := by
      cases haccepted :
          (advance p none ⟨offset, before, none⟩ added.waiting.reverse (.none p)).2 with
      | some slots' => simpa [haccepted] using hsome
      | none =>
        rw [haccepted, Option.orElse_none] at hsome
        have hagain := h.exists_accepting none ⟨offset, before, none⟩ (.none p) hadded
          (by rw [hsome]; rfl)
        rw [haccepted] at hagain
        cases hagain
    obtain ⟨t, ht, hone, hslots⟩ := h.exists_of_advance hfound
    exact ⟨t, hadded.keptAt.saved t (List.mem_reverse.mp ht), hone, hslots⟩
  | cons c rest ih =>
    obtain ⟨hc, hrest⟩ := List.forall_mem_cons.mp hrest
    have hadded := h.searching_add ⟨offset, before, some c⟩ hsearching
    unfold searchFrom at hsome
    dsimp only at hsome hadded
    generalize (if found.isNone = true then threads.add p ⟨offset, before, some c⟩ (.fresh p)
      else threads) = added at hsome hadded
    -- while something is found a thread that accepts waits, so the search does not end here
    have hgoes : ¬(found.isSome && added.waiting.isEmpty) = true := by
      rw [Bool.and_eq_true, List.isEmpty_iff]
      rintro ⟨hfound, hempty⟩
      obtain ⟨t, ht, -⟩ := hadded.keptAt.kept.accepting (hadded.accepting hfound)
      rw [hempty] at ht
      cases ht
    rw [if_neg hgoes] at hsome
    have hadvanced := h.searching_advance ⟨offset + 1, some c, rest.head?⟩ hc hadded rfl
    obtain ⟨t, hsaved, hone, hslots⟩ := ih hrest hadvanced hsome
    rw [Nat.add_assoc, Nat.add_comm 1] at hsaved
    exact ⟨t, hsaved, hone, hslots⟩

/-- A match in a line of characters that the group takes is a match up to the end of the line: the
group holds all characters from some place on, and at least one. -/
theorem EndsWithRest.slots_of_search (h : EndsWithRest p members k) {line : List Char}
    (hline : ∀ c ∈ line, members.contains c = true) (hsome : p.search line = some slots) :
    slots.length = 2 * p.groups ∧ ∃ start, start < line.length ∧
      slots[2 * k]? = some (some start) ∧ slots[2 * k + 1]? = some (some line.length) := by
  have hsearching : Searching p k 0 (.none p) none :=
    ⟨⟨h.kept_none, by rw [Threads.waiting_none]; exact nofun⟩, nofun⟩
  obtain ⟨t, hsaved, hone, rfl⟩ := h.exists_of_searchFrom hline hsearching hsome
  rw [Nat.zero_add] at hsaved
  obtain ⟨start, hstart, -, hless⟩ := hsaved.start (by omega)
  exact ⟨hsaved.length_slots, start, hless (by omega), hstart, hsaved.stop (by omega)⟩

end LineSieve.Regex
