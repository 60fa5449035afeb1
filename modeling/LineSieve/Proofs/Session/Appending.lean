import LineSieve.Proofs.Session.Run
import LineSieve.Proofs.Session.Validity

/-!
# Rules at the end of a set

Rules without a flag and without an until pattern that stand behind all others only get the lines
that no rule before them matches, and what they do to these lines cannot be seen later. So a set
with such rules appended keeps what it kept before, as it was written before, and the sessions of
the two sets are the same behind every line.

A line is treated alike by both sets unless only an appended rule matches it
(`stepGeneral_append`). In a region this is so because the region is that of a rule of the first set,
which has the same place in the second.
-/

namespace LineSieve.Rule

/-- A rule that leaves a session as it is. -/
structure General.IsPassive (rule : General) : Prop where
  flag : rule.flag = none
  untilPattern : rule.untilPattern = none

/-- The set with further rules behind its own. -/
def GeneralRules.append (g : GeneralRules) (more : List General) : GeneralRules :=
  { g with rules := g.rules ++ more }

end LineSieve.Rule

namespace LineSieve.Session

open Rule

variable {g : GeneralRules} {more : List General} {s : Session} {line : String} {w : Win}

/-- The prefix pattern matches a line, and of all rules only appended ones match its content. -/
def OnlyAppended (g : GeneralRules) (more : List General) (line : String) : Prop :=
  ∃ fields content, contentOf g line = some (fields, content) ∧
    (∀ r ∈ g.rules, r.source.isMatch content.toList = false) ∧
    ∃ r ∈ more, r.source.isMatch content.toList = true

/-! ### Wins -/

theorem contentOf_append (g : GeneralRules) (more : List General) (line : String) :
    contentOf (g.append more) line = contentOf g line := rfl

theorem getElem?_append {index : Nat} {rule : General} (h : g.rules[index]? = some rule) :
    (g.append more).rules[index]? = some rule := by
  obtain ⟨hlt, -⟩ := List.getElem?_eq_some_iff.mp h
  rw [GeneralRules.append, List.getElem?_append_left hlt, h]

theorem Wins.append (h : Wins g line w) : Wins (g.append more) line w where
  content_eq := h.content_eq
  rule_at := getElem?_append h.rule_at
  groups_eq := h.groups_eq
  first k hk r hr := by
    -- the rules before the winner are those of the first set
    obtain ⟨hlt, -⟩ := List.getElem?_eq_some_iff.mp h.rule_at
    rw [GeneralRules.append, List.getElem?_append_left (Nat.lt_trans hk hlt)] at hr
    exact h.first k hk r hr

theorem Wins.isMatch (h : Wins g line w) : w.rule.source.isMatch w.content.toList = true := by
  rw [Regex.isMatch, h.groups_eq, Option.isSome_some]

/-- A rule that wins an unmatched line is one of the appended. -/
theorem Wins.mem_of_unmatched (hw : Wins (g.append more) line w) (hu : Unmatched g line) :
    w.rule ∈ more ∧ ∀ r ∈ g.rules, r.source.isMatch w.content.toList = false := by
  have hcontent : contentOf g line = some (w.fields, w.content) := hw.content_eq
  rcases hu with hno | ⟨fields, content, hc, hno⟩
  · rw [← contentOf_eq_none_iff, hcontent] at hno
    cases hno
  · rw [hcontent, Option.some.injEq, Prod.mk.injEq] at hc
    obtain ⟨-, rfl⟩ := hc
    refine ⟨?_, hno⟩
    have hmem : w.rule ∈ g.rules ++ more := List.mem_of_getElem? hw.rule_at
    refine (List.mem_append.mp hmem).resolve_left fun hold => ?_
    exact Bool.false_ne_true ((hno w.rule hold).symm.trans hw.isMatch)

theorem onlyAppended_iff (hu : Unmatched g line) :
    OnlyAppended g more line ↔ ∃ w, Wins (g.append more) line w := by
  constructor
  · rintro ⟨fields, content, hc, -, r, hr, hmatch⟩
    refine (unmatched_or_wins (g.append more) line).resolve_left ?_
    rintro (hno | ⟨fields', content', hc', hno⟩)
    · rw [← contentOf_eq_none_iff, contentOf_append, hc] at hno
      cases hno
    · rw [contentOf_append, hc, Option.some.injEq, Prod.mk.injEq] at hc'
      obtain ⟨-, rfl⟩ := hc'
      rw [hno r (List.mem_append_right _ hr)] at hmatch
      exact Bool.false_ne_true hmatch
  · rintro ⟨w, hw⟩
    obtain ⟨hmem, hno⟩ := hw.mem_of_unmatched hu
    exact ⟨w.fields, w.content, hw.content_eq, hno, w.rule, hmem, hw.isMatch⟩

/-! ### Steps -/

/-- An unmatched line is dropped with the appended rules, too, or one of these keeps it; the session
is left as it is. -/
theorem stepGeneral_append_of_unmatched (hmore : ∀ r ∈ more, r.IsPassive) (hregion : s.region = none)
    (hu : Unmatched g line) :
    (s.stepGeneral (g.append more) line).2 = s ∧
      ((s.stepGeneral (g.append more) line).1.isSome = true ↔ OnlyAppended g more line) := by
  rw [onlyAppended_iff hu]
  rcases unmatched_or_wins (g.append more) line with hnone | ⟨w, hw⟩
  · rw [stepGeneral_of_unmatched hregion hnone]
    refine ⟨rfl, fun h => (nomatch h), ?_⟩
    rintro ⟨w, hw⟩
    exact absurd hnone hw.not_unmatched
  · have hpassive := hmore w.rule (hw.mem_of_unmatched hu).1
    rw [stepGeneral_of_wins hregion hw, hpassive.flag, hpassive.untilPattern]
    refine ⟨?_, fun _ => ⟨w, hw⟩, fun _ => rfl⟩
    simp [← hregion]

/-- Any other line is treated alike with and without the appended rules. -/
theorem stepGeneral_append (hs : Valid (.general g) s) (more : List General)
    (h : ¬(s.region = none ∧ Unmatched g line)) :
    s.stepGeneral (g.append more) line = s.stepGeneral g line := by
  cases hregion : s.region with
  | some index =>
    obtain ⟨g', rule, p, hg, hrule, hp⟩ := hs.region index hregion
    cases hg
    rw [stepGeneral_of_region hregion, stepGeneral_of_region hregion, endsRegion_of_rule hrule hp,
      endsRegion_of_rule (getElem?_append hrule) hp]
  | none =>
    obtain ⟨w, hw⟩ := (unmatched_or_wins g line).resolve_left fun hu => h ⟨hregion, hu⟩
    rw [stepGeneral_of_wins hregion hw, stepGeneral_of_wins hregion hw.append]

/-- What a line is to the two sets in one session. -/
structure Adds (g : GeneralRules) (more : List General) (s : Session) (line : String) : Prop where
  session_eq : (s.stepGeneral (g.append more) line).2 = (s.stepGeneral g line).2
  output_eq : ∀ out, (s.stepGeneral g line).1 = some out →
    (s.stepGeneral (g.append more) line).1 = some out
  added_iff : (s.stepGeneral g line).1 = none →
    ((s.stepGeneral (g.append more) line).1.isSome = true ↔ OnlyAppended g more line)

theorem Valid.adds (hs : Valid (.general g) s) (hmore : ∀ r ∈ more, r.IsPassive)
    (line : String) : Adds g more s line := by
  by_cases h : s.region = none ∧ Unmatched g line
  · have hdropped := stepGeneral_of_unmatched h.1 h.2
    obtain ⟨hsession, hadded⟩ := stepGeneral_append_of_unmatched hmore h.1 h.2
    refine ⟨by rw [hsession, hdropped], fun out hout => ?_, fun _ => hadded⟩
    rw [hdropped] at hout
    cases hout
  · have hsame := stepGeneral_append hs more h
    refine ⟨by rw [hsame], fun out hout => by rw [hsame, hout], fun hnone => ?_⟩
    exact absurd (stepGeneral_eq_none_iff.mp hnone) h

/-! ### Runs -/

theorem steps_append_rules (hs : Valid (.general g) s) (hmore : ∀ r ∈ more, r.IsPassive)
    (lines : List String) :
    (s.steps (.general (g.append more)) lines).2 = (s.steps (.general g) lines).2 := by
  induction lines generalizing s with
  | nil => rfl
  | cons line rest ih =>
    have hsession : (s.step (.general (g.append more)) line).2 = (s.step (.general g) line).2 :=
      (hs.adds hmore line).session_eq
    simp only [steps, hsession]
    exact ih (hs.step line)

theorem after_append_rules (hmore : ∀ r ∈ more, r.IsPassive) (lines : List String) (n : Nat) :
    after (.general (g.append more)) lines n = after (.general g) lines n :=
  steps_append_rules (Valid.start _) hmore (lines.take n)

theorem adds_after (hmore : ∀ r ∈ more, r.IsPassive) (lines : List String) (n : Nat)
    (line : String) : Adds g more (after (.general g) lines n) line :=
  ((Valid.start (.general g)).steps (lines.take n)).adds hmore line

/-- With rules appended that have neither a flag nor an until pattern, a set comes to the same
session behind every line, and keeps every line that it keeps without them, with the same output.
Of the lines that it drops without them it keeps those whose prefix matches and whose content is
matched by none of its own rules, but by one of the appended. -/
theorem appended_only_add (g : GeneralRules) (more : List General)
    (hmore : ∀ r ∈ more, r.flag = none ∧ r.untilPattern = none) (lines : List String) :
    (∀ n, after (.general (g.append more)) lines n = after (.general g) lines n) ∧
    (∀ (i : Nat) (out : String), (outputs (.general g) lines)[i]? = some (some out) →
      (outputs (.general (g.append more)) lines)[i]? = some (some out)) ∧
    ∀ (i : Nat) (line : String), lines[i]? = some line →
      (outputs (.general g) lines)[i]? = some none →
      ((∃ out, (outputs (.general (g.append more)) lines)[i]? = some (some out)) ↔
        OnlyAppended g more line) := by
  have hpassive : ∀ r ∈ more, r.IsPassive := fun r hr => ⟨(hmore r hr).1, (hmore r hr).2⟩
  have houtput : ∀ (i : Nat) (line : String), lines[i]? = some line →
      (outputs (.general (g.append more)) lines)[i]? =
        some ((after (.general g) lines i).stepGeneral (g.append more) line).1 := by
    intro i line hl
    rw [outputs_getElem? _ hl, after_append_rules hpassive, step]
  refine ⟨after_append_rules hpassive lines, ?_, ?_⟩
  · intro i out hout
    obtain ⟨hi, -⟩ := List.getElem?_eq_some_iff.mp hout
    rw [outputs, length_steps] at hi
    have hl : lines[i]? = some lines[i] := List.getElem?_eq_getElem hi
    rw [outputs_getElem? _ hl, Option.some.injEq] at hout
    rw [houtput i _ hl, (adds_after hpassive lines i _).output_eq out hout]
  · intro i line hl hdropped
    rw [outputs_getElem? _ hl, Option.some.injEq] at hdropped
    rw [houtput i line hl, ← (adds_after hpassive lines i line).added_iff hdropped,
      Option.isSome_iff_exists]
    simp only [Option.some.injEq]

/-- The region of the first set goes on behind lines that only the appended rule matches, and in it
such a line is passed through. -/
theorem appended_only_add_around_region :
    let rulesOf (items : List Item) : List General :=
      (compileRulesFrom Regex.parse? 0 items).toOption.getD []
    let g : GeneralRules := ⟨Regex.parse? "^(.)=(.+)",
      rulesOf [.record [("src", .text "^b"), ("until", .text "e"), ("flag", .text "F")]]⟩
    let more := rulesOf [.record [("src", .text "k"), ("tag", .text "T")]]
    let lines := ["1=k", "2=b", "3=k", "4=e", "k", "5=x", "6=k"]
    (∀ r ∈ more, r.flag = none ∧ r.untilPattern = none) ∧
      outputs (.general g) lines =
        [none, some "       2     F      b", some "3=k", some "4=e", none, none, none] ∧
      (outputs (.general (g.append more)) lines)[1]? = some (some "       2     F      b") ∧
      (∃ out, (outputs (.general (g.append more)) lines)[6]? = some (some out)) ∧
      after (.general (g.append more)) lines 3 = ⟨"F", some 0⟩ := by
  intro rulesOf g more lines
  have hmore : ∀ r ∈ more, r.flag = none ∧ r.untilPattern = none := by decide +kernel
  have hout : outputs (.general g) lines =
      [none, some "       2     F      b", some "3=k", some "4=e", none, none, none] := by
    decide +kernel
  have hafter : after (.general g) lines 3 = ⟨"F", some 0⟩ := by decide +kernel
  obtain ⟨hsession, hkept, hadded⟩ := appended_only_add g more hmore lines
  refine ⟨hmore, hout, hkept 1 _ (by rw [hout]; rfl), ?_, (hsession 3).trans hafter⟩
  refine (hadded 6 "6=k" rfl (by rw [hout]; rfl)).mpr ?_
  exact ⟨"       6 ", "k", by decide +kernel, by decide +kernel, by decide +kernel⟩

end LineSieve.Session
