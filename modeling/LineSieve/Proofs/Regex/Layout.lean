import Mathlib.Tactic.SplitIfs
import LineSieve.Regex.Program

/-!
# Where code leads

The code of an expression is put on top of the code that goes on after it. It changes nothing
below, and it is left only at the address behind it. So whatever an expression is, what happens
behind it is told by the code that was there before.
-/

namespace LineSieve.Regex

/-- The addresses that an instruction names. -/
def Inst.targets : Inst → List Nat
  | .accept | .stuck => []
  | .consume _ next | .require _ next | .save _ next => [next]
  | .fork branches => branches

namespace Program

variable {base code : Code} {exit next : Nat} {i : Inst}

/-! ### Code on top of code -/

/-- An address where code above `floor` goes on: above it, or at its exit. -/
def Within (floor exit address : Nat) : Prop := address = exit ∨ floor ≤ address

/-- An instruction that goes on above `floor` or at the exit, and accepts nothing. -/
def StaysIn (floor exit : Nat) (i : Inst) : Prop :=
  i ≠ .accept ∧ ∀ t ∈ i.targets, Within floor exit t

/-- Code with `base` below that is left only at the exit. -/
structure OnTop (base : Code) (exit : Nat) (code : Code) : Prop where
  size_le : base.size ≤ code.size
  below : ∀ a, a < base.size → code[a]? = base[a]?
  above : ∀ a i, base.size ≤ a → code[a]? = some i → StaysIn base.size exit i

/-- A start together with code on top of `base`. -/
structure Starts (base : Code) (exit : Nat) (start : Nat × Code) : Prop where
  within : Within base.size exit start.1
  onTop : OnTop base exit start.2

/-- What adds code before a start and gives a start again. -/
def AddsOnTop (base : Code) (exit : Nat) (add : Nat → Code → Nat × Code) : Prop :=
  ∀ next code, Starts base exit (next, code) → Starts base exit (add next code)

theorem starts_exit (base : Code) (exit : Nat) : Starts base exit (exit, base) := by
  refine ⟨Or.inl rfl, Nat.le_refl _, fun a _ => rfl, fun a i ha hi => ?_⟩
  rw [Array.getElem?_eq_none ha] at hi
  cases hi

theorem starts_emit (h : OnTop base exit code) (hi : StaysIn base.size exit i) :
    Starts base exit (emit i code) := by
  refine ⟨Or.inr h.size_le, ?_, fun a ha => ?_, fun a j ha hj => ?_⟩
  · exact Nat.le_trans h.size_le (by simp [emit])
  · rw [emit, Array.getElem?_push_lt (Nat.lt_of_lt_of_le ha h.size_le), ← h.below a ha]
    exact (Array.getElem?_eq_getElem _).symm
  · rw [emit, Array.getElem?_push] at hj
    split_ifs at hj with hsize
    · cases hj
      exact hi
    · exact h.above a j ha hj

theorem OnTop.setIfInBounds (h : OnTop base exit code) {address : Nat}
    (haddress : base.size ≤ address) (hi : StaysIn base.size exit i) :
    OnTop base exit (code.setIfInBounds address i) := by
  refine ⟨?_, fun a ha => ?_, fun a j ha hj => ?_⟩
  · rw [Array.size_setIfInBounds]
    exact h.size_le
  · rw [Array.getElem?_setIfInBounds_ne (by omega)]
    exact h.below a ha
  · rw [Array.getElem?_setIfInBounds] at hj
    split_ifs at hj with heq hsize
    · cases hj
      exact hi
    · exact h.above a j ha hj

/-! ### Instructions -/

theorem staysIn_stuck {floor : Nat} : StaysIn floor exit .stuck :=
  ⟨nofun, nofun⟩

theorem staysIn_of_targets {floor : Nat} (hi : i ≠ .accept) (htargets : i.targets = [next])
    (hnext : Within floor exit next) : StaysIn floor exit i := by
  refine ⟨hi, fun t ht => ?_⟩
  rw [htargets, List.mem_singleton] at ht
  exact ht ▸ hnext

theorem staysIn_forkOf {floor more leave : Nat} (greedy : Bool)
    (hmore : Within floor exit more) (hleave : Within floor exit leave) :
    StaysIn floor exit (forkOf greedy more leave) := by
  refine ⟨nofun, fun t ht => ?_⟩
  have hmem : t = more ∨ t = leave := by
    cases greedy <;> simpa [forkOf, Inst.targets, or_comm] using ht
  rcases hmem with rfl | rfl
  · exact hmore
  · exact hleave

/-! ### Parts of expressions -/

theorem starts_emitText (h : Starts base exit (next, code)) (text : List Char) :
    Starts base exit (emitText next code text) := by
  induction text with
  | nil => exact h
  | cons c rest ih => exact starts_emit ih.onTop (staysIn_of_targets nofun rfl ih.within)

variable {one : Nat → Code → Nat × Code}

theorem starts_emitTimes (hone : AddsOnTop base exit one) (n : Nat)
    (h : Starts base exit (next, code)) : Starts base exit (emitTimes one n next code) := by
  induction n with
  | zero => exact h
  | succ n ih => exact hone _ _ ih

theorem starts_emitOptional (hone : AddsOnTop base exit one) (greedy : Bool) (n : Nat)
    (h : Starts base exit (next, code)) :
    Starts base exit (emitOptional one greedy next n code) := by
  induction n with
  | zero => exact h
  | succ n ih =>
    have hbody := hone _ _ ih
    exact starts_emit hbody.onTop (staysIn_forkOf greedy hbody.within h.within)

theorem starts_emitLoop (hone : AddsOnTop base exit one) (greedy : Bool)
    (h : Starts base exit (next, code)) :
    Starts base exit
        ((emitLoop one greedy next code).1, (emitLoop one greedy next code).2.2) ∧
      Starts base exit
        ((emitLoop one greedy next code).2.1, (emitLoop one greedy next code).2.2) := by
  have hplace := starts_emit h.onTop staysIn_stuck
  have hbody := hone _ _ hplace
  have hcode := hbody.onTop.setIfInBounds h.onTop.size_le
    (staysIn_forkOf greedy hbody.within h.within)
  exact ⟨⟨hbody.within, hcode⟩, hplace.within, hcode⟩

theorem starts_emitRepetition (hone : AddsOnTop base exit one) (min : Nat) (max : Option Nat)
    (greedy consumes : Bool) (h : Starts base exit (next, code)) :
    Starts base exit (emitRepetition one min max greedy consumes next code) := by
  cases max with
  | some max => exact starts_emitTimes hone min (starts_emitOptional hone greedy (max - min) h)
  | none =>
    obtain ⟨hbody, hfork⟩ := starts_emitLoop hone greedy h
    cases min with
    | succ min => exact starts_emitTimes hone min hbody
    | zero =>
      cases consumes with
      | true => exact hfork
      | false => exact starts_emit hbody.onTop (staysIn_forkOf greedy hbody.within h.within)

/-! ### Expressions -/

mutual

/-- The code of an expression is on top of what is behind it, and is left only there. -/
theorem starts_emitExpr (e : Expr) : AddsOnTop base exit (emitExpr e) := by
  intro next code h
  cases e with
  | empty => exact h
  | literal text => exact starts_emitText h text
  | set members => exact starts_emit h.onTop (staysIn_of_targets nofun rfl h.within)
  | look condition => exact starts_emit h.onTop (staysIn_of_targets nofun rfl h.within)
  | repetition min max greedy body =>
    exact starts_emitRepetition (starts_emitExpr body) min max greedy _ h
  | capture index body =>
    have hstop := starts_emit h.onTop
      (staysIn_of_targets (i := .save (2 * index + 1) next) nofun rfl h.within)
    have hstart := starts_emitExpr body _ _ hstop
    exact starts_emit hstart.onTop (staysIn_of_targets nofun rfl hstart.within)
  | sequence items => exact starts_emitAll items _ _ h
  | choice branches =>
    obtain ⟨hstarts, hcode⟩ := starts_emitEach branches h.within h.onTop
    exact starts_emit hcode ⟨nofun, hstarts⟩

theorem starts_emitAll (items : List Expr) : AddsOnTop base exit (emitAll items) := by
  intro next code h
  cases items with
  | nil => exact h
  | cons e rest => exact starts_emitExpr e _ _ (starts_emitAll rest _ _ h)

theorem starts_emitEach (branches : List Expr) {next : Nat} {code : Code}
    (hnext : Within base.size exit next) (hcode : OnTop base exit code) :
    (∀ t ∈ (emitEach branches next code).1, Within base.size exit t) ∧
      OnTop base exit (emitEach branches next code).2 := by
  cases branches with
  | nil => exact ⟨nofun, hcode⟩
  | cons e rest =>
    have hstart := starts_emitExpr e next code ⟨hnext, hcode⟩
    obtain ⟨hstarts, hrest⟩ := starts_emitEach rest hnext hstart.onTop
    exact ⟨List.forall_mem_cons.mpr ⟨hstart.within, hstarts⟩, hrest⟩

end

end Program
end LineSieve.Regex
