import LineSieve.Session

/-!
# Runs of a session

`after` is the session behind the first lines of a text and `outputs` what is written for
each line. A run over two texts is the run over the first and from there over the second,
so line `n` is read by the session behind the first `n` lines.
-/

namespace LineSieve.Session

def after (rules : Rule.Set) (lines : List String) (n : Nat) : Session :=
  (start.steps rules (lines.take n)).2

def outputs (rules : Rule.Set) (lines : List String) : List (Option String) :=
  (start.steps rules lines).1

theorem steps_append (rules : Rule.Set) (s : Session) (xs ys : List String) :
    s.steps rules (xs ++ ys) =
      ((s.steps rules xs).1 ++ ((s.steps rules xs).2.steps rules ys).1,
        ((s.steps rules xs).2.steps rules ys).2) := by
  induction xs generalizing s with
  | nil => simp [steps]
  | cons line rest ih => simp [steps, ih]

theorem length_steps (rules : Rule.Set) (s : Session) (lines : List String) :
    (s.steps rules lines).1.length = lines.length := by
  induction lines generalizing s with
  | nil => rfl
  | cons line rest ih => simp [steps, ih]

theorem after_succ (rules : Rule.Set) {lines : List String} {n : Nat} {line : String}
    (h : lines[n]? = some line) :
    after rules lines (n + 1) = ((after rules lines n).step rules line).2 := by
  have ht : lines.take (n + 1) = lines.take n ++ [line] := by
    rw [List.take_add_one, h]
    rfl
  unfold after
  rw [ht, steps_append]
  rfl

theorem outputs_getElem? (rules : Rule.Set) {lines : List String} {n : Nat} {line : String}
    (h : lines[n]? = some line) :
    (outputs rules lines)[n]? = some ((after rules lines n).step rules line).1 := by
  obtain ⟨hn, hl⟩ := List.getElem?_eq_some_iff.mp h
  have hlines : lines.take n ++ line :: lines.drop (n + 1) = lines := by
    rw [← hl, ← List.drop_eq_getElem_cons hn, List.take_append_drop]
  have hlen : (start.steps rules (lines.take n)).1.length = n := by
    rw [length_steps, List.length_take]
    omega
  have hrun := congrArg Prod.fst
    (steps_append rules start (lines.take n) (line :: lines.drop (n + 1)))
  rw [hlines] at hrun
  unfold outputs after
  rw [hrun, List.getElem?_append_right (by omega), hlen, Nat.sub_self]
  rfl

end LineSieve.Session
