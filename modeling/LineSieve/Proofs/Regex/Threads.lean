import LineSieve.Regex.Search

/-!
# Threads at one place

A thread is followed from instruction to instruction until it waits. What happens to one thread
at a place is told by `onwards?`; following a stack of threads is one such step after another, each
at an instruction that was not met before.
-/

namespace LineSieve.Regex

variable {p : Program} {place : Place} {fuel : Nat} {stack : List Thread} {t : Thread}

/-- The threads that go on from a thread at a place, the preferred one first; none if it waits. -/
def Thread.onwards? (p : Program) (place : Place) (t : Thread) : Option (List Thread) :=
  match p.code[t.address]? with
  | some (.require look next) =>
    some (if look.holds place then [{ t with address := next }] else [])
  | some (.save slot next) => some [⟨next, t.slots.set slot (some place.offset)⟩]
  | some (.fork branches) => some (branches.map fun a => { t with address := a })
  | some (.consume _ _) | some .accept => none
  | some .stuck | none => some []

namespace Threads

/-- Was the instruction met? One that is not there counts as met. -/
def hasMet (threads : Threads) (address : Nat) : Bool := threads.met[address]?.getD true

def meet (threads : Threads) (address : Nat) : Threads :=
  { threads with met := threads.met.setIfInBounds address true }

def wait (threads : Threads) (t : Thread) : Threads :=
  { threads with waiting := t :: threads.waiting }

variable {threads : Threads}

@[simp] theorem waiting_meet (threads : Threads) (address : Nat) :
    (threads.meet address).waiting = threads.waiting := rfl

@[simp] theorem waiting_wait (threads : Threads) (t : Thread) :
    (threads.wait t).waiting = t :: threads.waiting := rfl

@[simp] theorem hasMet_wait (threads : Threads) (t : Thread) (address : Nat) :
    (threads.wait t).hasMet address = threads.hasMet address := rfl

@[simp] theorem hasMet_meet (threads : Threads) (address other : Nat) :
    (threads.meet address).hasMet other = (decide (address = other) || threads.hasMet other) := by
  unfold hasMet meet
  rw [Array.getElem?_setIfInBounds]
  by_cases heq : address = other
  · by_cases hsize : address < threads.met.size <;> simp [heq, heq ▸ hsize]
  · simp [heq]

theorem hasMet_none {address : Nat} (h : address < p.code.size) :
    (Threads.none p).hasMet address = false := by
  simp [hasMet, Threads.none, h]

theorem waiting_none (p : Program) : (Threads.none p).waiting = [] := rfl

/-! ### Following -/

theorem follow_nil : threads.follow p place fuel [] = threads := by
  cases fuel <;> rfl

theorem follow_of_hasMet (h : threads.hasMet t.address = true) :
    threads.follow p place (fuel + 1) (t :: stack) = threads.follow p place fuel stack := by
  rw [hasMet] at h
  rw [follow, if_pos h]

theorem follow_of_waits (h : threads.hasMet t.address = false)
    (honwards : t.onwards? p place = Option.none) :
    threads.follow p place (fuel + 1) (t :: stack) =
      ((threads.meet t.address).wait t).follow p place fuel stack := by
  rw [hasMet] at h
  rw [follow, h, if_neg Bool.false_ne_true]
  unfold Thread.onwards? at honwards
  cases hcode : p.code[t.address]? with
  | none =>
    rw [hcode] at honwards
    cases honwards
  | some i =>
    rw [hcode] at honwards
    cases i with
    | accept | consume _ _ => rfl
    | stuck | require _ _ | save _ _ | fork _ => cases honwards

theorem follow_of_goes {ts : List Thread} (h : threads.hasMet t.address = false)
    (honwards : t.onwards? p place = some ts) :
    threads.follow p place (fuel + 1) (t :: stack) =
      (threads.meet t.address).follow p place fuel (ts ++ stack) := by
  rw [hasMet] at h
  rw [follow, h, if_neg Bool.false_ne_true]
  unfold Thread.onwards? at honwards
  cases hcode : p.code[t.address]? with
  | none =>
    rw [hcode] at honwards
    cases honwards
    rfl
  | some i =>
    rw [hcode] at honwards
    cases i with
    | accept | consume _ _ => cases honwards
    | require look next =>
      cases honwards
      dsimp only
      split <;> rfl
    | stuck | save _ _ | fork _ =>
      cases honwards
      rfl

/-- What holds of threads, and goes on to hold whatever one thread does that `Q` holds of, holds
when a stack of such threads has been followed. -/
theorem follow_induction {P : Threads → Prop} {Q : Thread → Prop}
    (waits : ∀ threads t, P threads → Q t → threads.hasMet t.address = false →
      t.onwards? p place = Option.none → P ((threads.meet t.address).wait t))
    (goes : ∀ threads t ts, P threads → Q t → threads.hasMet t.address = false →
      t.onwards? p place = some ts → P (threads.meet t.address) ∧ ∀ u ∈ ts, Q u)
    (hthreads : P threads) (hstack : ∀ t ∈ stack, Q t) :
    P (threads.follow p place fuel stack) := by
  induction fuel generalizing threads stack with
  | zero => exact hthreads
  | succ fuel ih =>
    cases stack with
    | nil => exact hthreads
    | cons t rest =>
      obtain ⟨ht, hrest⟩ := List.forall_mem_cons.mp hstack
      cases hmet : threads.hasMet t.address with
      | true =>
        rw [follow_of_hasMet hmet]
        exact ih hthreads hrest
      | false =>
        cases honwards : t.onwards? p place with
        | none =>
          rw [follow_of_waits hmet honwards]
          exact ih (waits threads t hthreads ht hmet honwards) hrest
        | some ts =>
          rw [follow_of_goes hmet honwards]
          obtain ⟨hmeet, hts⟩ := goes threads t ts hthreads ht hmet honwards
          exact ih hmeet (List.forall_mem_append.mpr ⟨hts, hrest⟩)

end Threads
end LineSieve.Regex
