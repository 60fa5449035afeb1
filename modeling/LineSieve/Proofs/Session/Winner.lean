import LineSieve.Session

/-!
# Winners

Outside of regions a general set treats a line in one of two ways. Either the line is
unmatched, because the prefix pattern or every source fails on it, or there is one win: the
first rule whose source matches the content of the line, with what it captures there. The
three lemmas on `stepGeneral` say what a session makes of a line in a region, of an unmatched
line and of a line with a win, and nothing else happens.
-/

namespace LineSieve.Session

open Rule

/-! ### Wins -/

/-- A rule that wins a line: its place among the rules, what it captures, and the fields and
the content of the line. -/
structure Win where
  fields : String
  content : String
  index : Nat
  rule : General
  groups : List (Option (List Char))

/-- The first rule that matches the content of a line has won it. -/
structure Wins (rules : GeneralRules) (line : String) (w : Win) : Prop where
  content_eq : contentOf rules line = some (w.fields, w.content)
  rule_at : rules.rules[w.index]? = some w.rule
  groups_eq : w.rule.source.captures w.content.toList = some w.groups
  first : ∀ k < w.index, ∀ r, rules.rules[k]? = some r →
    r.source.isMatch w.content.toList = false

/-- The prefix pattern does not match a line, or no source matches its content. -/
def Unmatched (rules : GeneralRules) (line : String) : Prop :=
  (∃ p, rules.prefixPattern = some p ∧ p.isMatch line.toList = false) ∨
    ∃ fields content, contentOf rules line = some (fields, content) ∧
      ∀ r ∈ rules.rules, r.source.isMatch content.toList = false

theorem isMatch_eq_false_iff (p : Regex) (line : List Char) :
    p.isMatch line = false ↔ p.captures line = none := by
  simp [Regex.isMatch]

theorem contentOf_eq_none_iff (rules : GeneralRules) (line : String) :
    contentOf rules line = none ↔
      ∃ p, rules.prefixPattern = some p ∧ p.isMatch line.toList = false := by
  cases h : rules.prefixPattern with
  | none => simp [contentOf, h]
  | some p => simp [contentOf, h, isMatch_eq_false_iff]

/-! ### The search for the winner -/

theorem winnerFrom_eq_none_iff (start : Nat) (content : String) (rules : List General) :
    winnerFrom start content rules = none ↔
      ∀ r ∈ rules, r.source.isMatch content.toList = false := by
  induction rules generalizing start with
  | nil => simp [winnerFrom]
  | cons rule rest ih =>
    cases h : rule.source.captures content.toList with
    | none => simp [winnerFrom, h, ih, isMatch_eq_false_iff]
    | some groups => simp [winnerFrom, h, isMatch_eq_false_iff]

/-- The winner is found at its place, and the rules before it do not match. -/
theorem winnerFrom_eq_some {start index : Nat} {content : String} {rules : List General}
    {rule : General} {groups : List (Option (List Char))}
    (h : winnerFrom start content rules = some (index, rule, groups)) :
    ∃ k, index = start + k ∧ rules[k]? = some rule ∧
      rule.source.captures content.toList = some groups ∧
      ∀ j < k, ∀ r, rules[j]? = some r → r.source.isMatch content.toList = false := by
  induction rules generalizing start with
  | nil => simp [winnerFrom] at h
  | cons head rest ih =>
    cases hc : head.source.captures content.toList with
    | some found =>
      simp only [winnerFrom, hc, Option.some.injEq, Prod.mk.injEq] at h
      obtain ⟨rfl, rfl, rfl⟩ := h
      exact ⟨0, rfl, rfl, hc, fun j hj => absurd hj (Nat.not_lt_zero j)⟩
    | none =>
      simp only [winnerFrom, hc] at h
      obtain ⟨k, hk, hrule, hgroups, hbefore⟩ := ih h
      refine ⟨k + 1, by omega, by simpa using hrule, hgroups, ?_⟩
      intro j hj r hr
      cases j with
      | zero =>
        have he : head = r := by simpa using hr
        rw [← he, isMatch_eq_false_iff]
        exact hc
      | succ j => exact hbefore j (by omega) r (by simpa using hr)

theorem Wins.winnerFrom_eq {rules : GeneralRules} {line : String} {w : Win}
    (h : Wins rules line w) :
    winnerFrom 0 w.content rules.rules = some (w.index, w.rule, w.groups) := by
  cases hf : winnerFrom 0 w.content rules.rules with
  | none =>
    have hall := (winnerFrom_eq_none_iff 0 w.content rules.rules).mp hf
    have hno := hall w.rule (List.mem_of_getElem? h.rule_at)
    rw [isMatch_eq_false_iff, h.groups_eq] at hno
    cases hno
  | some found =>
    obtain ⟨index, rule, groups⟩ := found
    obtain ⟨k, hk, hrule, hgroups, hbefore⟩ := winnerFrom_eq_some hf
    -- neither of two first matches is before the other
    have hle : ¬ k < w.index := by
      intro hlt
      have hno := h.first k hlt rule hrule
      rw [isMatch_eq_false_iff, hgroups] at hno
      cases hno
    have hge : ¬ w.index < k := by
      intro hlt
      have hno := hbefore w.index hlt w.rule h.rule_at
      rw [isMatch_eq_false_iff, h.groups_eq] at hno
      cases hno
    have hkw : k = w.index := by omega
    subst hkw
    have hr : rule = w.rule := Option.some.inj (hrule.symm.trans h.rule_at)
    subst hr
    have hg : groups = w.groups := Option.some.inj (hgroups.symm.trans h.groups_eq)
    rw [hk, hg, Nat.zero_add]

theorem Wins.unique {rules : GeneralRules} {line : String} {v w : Win}
    (hv : Wins rules line v) (hw : Wins rules line w) : v = w := by
  have hc := hv.content_eq.symm.trans hw.content_eq
  simp only [Option.some.injEq, Prod.mk.injEq] at hc
  have hf := hv.winnerFrom_eq.symm
  rw [hc.2, hw.winnerFrom_eq] at hf
  simp only [Option.some.injEq, Prod.mk.injEq] at hf
  cases v
  cases w
  simp_all

theorem Wins.not_unmatched {rules : GeneralRules} {line : String} {w : Win}
    (h : Wins rules line w) : ¬ Unmatched rules line := by
  rintro (hno | ⟨fields, content, hc, hno⟩)
  · rw [← contentOf_eq_none_iff, h.content_eq] at hno
    cases hno
  · rw [h.content_eq] at hc
    simp only [Option.some.injEq, Prod.mk.injEq] at hc
    have hw := hno w.rule (List.mem_of_getElem? h.rule_at)
    rw [isMatch_eq_false_iff, ← hc.2, h.groups_eq] at hw
    cases hw

theorem unmatched_or_wins (rules : GeneralRules) (line : String) :
    Unmatched rules line ∨ ∃ w, Wins rules line w := by
  cases hc : contentOf rules line with
  | none => exact Or.inl (Or.inl ((contentOf_eq_none_iff rules line).mp hc))
  | some found =>
    obtain ⟨fields, content⟩ := found
    cases hw : winnerFrom 0 content rules.rules with
    | none =>
      have hno := (winnerFrom_eq_none_iff 0 content rules.rules).mp hw
      exact Or.inl (Or.inr ⟨fields, content, hc, hno⟩)
    | some won =>
      obtain ⟨index, rule, groups⟩ := won
      obtain ⟨k, hk, hrule, hgroups, hbefore⟩ := winnerFrom_eq_some hw
      exact Or.inr ⟨⟨fields, content, k, rule, groups⟩, hc, hrule, hgroups, hbefore⟩

/-! ### What a session makes of a line -/

theorem endsRegion_of_rule {rules : GeneralRules} {index : Nat} {rule : General} {p : Regex}
    (hrule : rules.rules[index]? = some rule) (hp : rule.untilPattern = some p) (line : String) :
    endsRegion rules index line = p.isMatch line.toList := by
  simp only [endsRegion, hrule, Option.bind_some, hp]

theorem stepGeneral_of_region {s : Session} {index : Nat} (h : s.region = some index)
    (rules : GeneralRules) (line : String) :
    s.stepGeneral rules line =
      (some line, if endsRegion rules index line then { s with region := none } else s) := by
  simp only [stepGeneral, h]

theorem stepGeneral_of_unmatched {s : Session} (h : s.region = none)
    {rules : GeneralRules} {line : String} (hu : Unmatched rules line) :
    s.stepGeneral rules line = (none, s) := by
  rcases hu with hno | ⟨fields, content, hc, hno⟩
  · have hc := (contentOf_eq_none_iff rules line).mpr hno
    simp only [stepGeneral, h, hc]
  · have hw := (winnerFrom_eq_none_iff 0 content rules.rules).mpr hno
    simp only [stepGeneral, h, hc, hw]

theorem stepGeneral_of_wins {s : Session} (h : s.region = none)
    {rules : GeneralRules} {line : String} {w : Win} (hw : Wins rules line w) :
    s.stepGeneral rules line =
      (some (outputLine w.fields (w.rule.flag.getD s.flag) (w.rule.tag.getD "")
          (render w.rule w.groups w.content)),
        ⟨w.rule.flag.getD s.flag,
          if w.rule.untilPattern.isSome then some w.index else none⟩) := by
  simp only [stepGeneral, h, hw.content_eq, hw.winnerFrom_eq, win]

theorem stepGeneral_eq_none_iff {s : Session} {rules : GeneralRules} {line : String} :
    (s.stepGeneral rules line).1 = none ↔ s.region = none ∧ Unmatched rules line := by
  cases hr : s.region with
  | some index => simp [stepGeneral_of_region hr]
  | none =>
    rcases unmatched_or_wins rules line with hu | ⟨w, hw⟩
    · simp [stepGeneral_of_unmatched hr hu, hu]
    · simp [stepGeneral_of_wins hr hw, hw.not_unmatched]

end LineSieve.Session
