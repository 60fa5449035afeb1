import LineSieve.Proofs.Rule.Compiling
import LineSieve.Proofs.Session.Run
import LineSieve.Proofs.Session.Winner

/-!
# Lines that are dropped

A line for which nothing is written leaves the session as it was. So it does not matter to the
other lines whether such lines are there: a run without some of them makes of each other line what
the run with them makes of it, and ends with the same session.
-/

namespace LineSieve.Session

variable {α β : Type} {rules : Rule.Set} {s : Session} {lines : List String} {out : Nat → Bool}

/-! ### Lists without some places -/

/-- The items of a list but for those at the places that are left out. -/
def leaveOut (out : Nat → Bool) : List α → List α
  | [] => []
  | x :: rest =>
    let others := leaveOut (fun i => out (i + 1)) rest
    if out 0 then others else x :: others

theorem leaveOut_map (f : α → β) (out : Nat → Bool) (xs : List α) :
    leaveOut out (xs.map f) = (leaveOut out xs).map f := by
  induction xs generalizing out with
  | nil => rfl
  | cons x rest ih => cases h : out 0 <;> simp [leaveOut, h, ih]

/-- The items without the missing ones, told by their places. -/
theorem leaveOut_none (xs : List (Option α)) :
    leaveOut (fun i => xs[i]?.any Option.isNone) xs = xs.filter Option.isSome := by
  induction xs with
  | nil => rfl
  | cons x rest ih => cases x <;> simpa [leaveOut] using ih

/-! ### Traces -/

/-- What a session makes of lines one after another: what is written for each, and the session
behind it. -/
def trace (rules : Rule.Set) (s : Session) : List String → List (Option String × Session)
  | [] => []
  | line :: rest => s.step rules line :: (s.step rules line).2.trace rules rest

/-- The session behind the last line of a trace that begins with a given one. -/
def lastOf (s : Session) (steps : List (Option String × Session)) : Session :=
  (steps.getLast?.map Prod.snd).getD s

theorem lastOf_cons (s : Session) (p : Option String × Session)
    (steps : List (Option String × Session)) : lastOf s (p :: steps) = lastOf p.2 steps := by
  cases h : steps.getLast? <;> simp [lastOf, List.getLast?_cons, h]

theorem steps_eq_trace (rules : Rule.Set) (s : Session) (lines : List String) :
    s.steps rules lines =
      ((s.trace rules lines).map Prod.fst, lastOf s (s.trace rules lines)) := by
  induction lines generalizing s with
  | nil => rfl
  | cons line rest ih => simp [steps, trace, ih, lastOf_cons]

theorem outputs_eq_trace (rules : Rule.Set) (lines : List String) :
    outputs rules lines = (start.trace rules lines).map Prod.fst := by
  rw [outputs, steps_eq_trace]

/-! ### Dropped lines -/

/-- A line that is dropped leaves the session as it is. -/
theorem step_of_dropped {line : String} (h : (s.step rules line).1 = none) :
    s.step rules line = (none, s) := by
  cases rules with
  | texts exclude members => exact Prod.ext h rfl
  | patterns exclude members => exact Prod.ext h rfl
  | general g =>
    change (s.stepGeneral g line).1 = none at h
    change s.stepGeneral g line = (none, s)
    obtain ⟨hr, hu⟩ := stepGeneral_eq_none_iff.mp h
    exact stepGeneral_of_unmatched hr hu

theorem trace_leaveOut
    (h : ∀ i < lines.length, out i = true → (s.trace rules lines)[i]?.map Prod.fst = some none) :
    s.trace rules (leaveOut out lines) = leaveOut out (s.trace rules lines) ∧
      lastOf s (s.trace rules (leaveOut out lines)) = lastOf s (s.trace rules lines) := by
  induction lines generalizing s out with
  | nil => exact ⟨rfl, rfl⟩
  | cons line rest ih =>
    have hrest : ∀ i < rest.length, out (i + 1) = true →
        ((s.step rules line).2.trace rules rest)[i]?.map Prod.fst = some none := by
      intro i hi ho
      exact h (i + 1) (Nat.succ_lt_succ hi) ho
    obtain ⟨htrace, hlast⟩ := ih hrest
    cases ho : out 0 with
    | false =>
      simp only [leaveOut, ho, Bool.false_eq_true, if_false, trace, lastOf_cons, htrace]
      exact ⟨trivial, htrace ▸ hlast⟩
    | true =>
      have hdropped : (s.step rules line).1 = none := by
        simpa [trace] using h 0 (Nat.succ_pos _) ho
      -- the session that the other lines start with is the same without the line
      rw [step_of_dropped hdropped] at htrace hlast
      simp only [leaveOut, ho, if_true, trace, lastOf_cons, step_of_dropped hdropped]
      exact ⟨htrace, hlast⟩

/-- Lines that are dropped do not matter. Without some of them a run makes of each other line what
it makes of it with them, both in what is written and in the session behind the line, and it ends
with the same session. Without all of them every line is kept, with the same output. -/
theorem inert_of_dropped (rules : Rule.Set) (lines : List String) (out : Nat → Bool)
    (hout : ∀ i < lines.length, out i = true → (outputs rules lines)[i]? = some none) :
    start.trace rules (leaveOut out lines) = leaveOut out (start.trace rules lines) ∧
      (start.steps rules (leaveOut out lines)).2 = (start.steps rules lines).2 ∧
      outputs rules (leaveOut (fun i => (outputs rules lines)[i]?.any Option.isNone) lines) =
        (outputs rules lines).filter Option.isSome := by
  have htrace : ∀ {removed : Nat → Bool},
      (∀ i < lines.length, removed i = true → (outputs rules lines)[i]? = some none) →
      ∀ i < lines.length, removed i = true →
        (start.trace rules lines)[i]?.map Prod.fst = some none := by
    intro removed h i hi hr
    rw [← List.getElem?_map, ← outputs_eq_trace]
    exact h i hi hr
  have hdropped : ∀ i < lines.length,
      (outputs rules lines)[i]?.any Option.isNone = true →
      (outputs rules lines)[i]? = some none := by
    intro i _ hnone
    simpa [Option.any_eq_true] using hnone
  refine ⟨(trace_leaveOut (htrace hout)).1, ?_, ?_⟩
  · rw [steps_eq_trace, steps_eq_trace]
    exact (trace_leaveOut (htrace hout)).2
  · rw [outputs_eq_trace rules (leaveOut _ lines), (trace_leaveOut (htrace hdropped)).1,
      ← leaveOut_map, ← outputs_eq_trace, leaveOut_none]

/-- One of the lines that are left out stands before a region, which has a flag, and the other
behind it. -/
theorem inert_of_dropped_around_region :
    let rules := Rule.rulesOrNone (.ofList [("type", .text "general"), ("rules", .array
      [.record [("src", .text "^b"), ("until", .text "e"), ("flag", .text "F")],
        .record [("src", .text "^k"), ("tag", .text "T")]])])
    let lines := ["x", "b", "x", "e", "x", "k"]
    let out : Nat → Bool := fun i => i == 0 || i == 4
    let rest := ["b", "x", "e", "k"]
    rules.kind = .general ∧
      outputs rules lines =
        [none, some "    F      b", some "x", some "e", none, some "    F    T k"] ∧
      leaveOut out lines = rest ∧
      start.trace rules rest = leaveOut out (start.trace rules lines) ∧
      (start.steps rules rest).2 = (start.steps rules lines).2 := by
  intro rules lines out rest
  have houtputs : outputs rules lines =
      [none, some "    F      b", some "x", some "e", none, some "    F    T k"] := by
    decide +kernel
  have hout : ∀ i < lines.length, out i = true → (outputs rules lines)[i]? = some none := by
    rw [houtputs]
    decide
  obtain ⟨htrace, hlast, -⟩ := inert_of_dropped rules lines out hout
  exact ⟨by decide +kernel, houtputs, rfl, htrace, hlast⟩

end LineSieve.Session
