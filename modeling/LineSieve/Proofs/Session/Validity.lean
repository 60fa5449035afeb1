import LineSieve.Proofs.Rule.Compiling
import LineSieve.Proofs.Session.Winner

/-!
# Valid sessions

A session names the rule whose region it is in by its place, and the rule is looked up again at
each line of the region. Wherever lines lead a session to, the place is that of a rule with an until
pattern, so the look-up finds it. A flag comes from a rule, too, and the lists know neither flags
nor regions.

A line can only set the flag or begin a region by a rule that wins it (`flag_step`,
`region_step`). So `Valid` holds behind every line, and hence behind any number of lines.
-/

namespace LineSieve.Session

open Rule

variable {rules : Rule.Set} {g : GeneralRules} {s : Session} {line : String} {index : Nat}

/-! ### What a line does to a session -/

/-- A line leaves the flag, or sets that of the rule which wins it. -/
theorem flag_step (rules : Rule.Set) (s : Session) (line : String) :
    (s.step rules line).2.flag = s.flag ∨ ∃ g w, rules = .general g ∧ Wins g line w ∧
      w.rule.flag = some (s.step rules line).2.flag := by
  cases rules with
  | texts _ _ | patterns _ _ => exact .inl rfl
  | general g =>
    rw [step]
    cases hregion : s.region with
    | some index =>
      left
      rw [stepGeneral_of_region hregion]
      dsimp only
      split <;> rfl
    | none =>
      rcases unmatched_or_wins g line with hu | ⟨w, hw⟩
      · left
        rw [stepGeneral_of_unmatched hregion hu]
      · rw [stepGeneral_of_wins hregion hw]
        cases hflag : w.rule.flag with
        | none => exact .inl rfl
        | some flag => exact .inr ⟨g, w, rfl, hw, hflag⟩

/-- A region behind a line is the one before it, or that of the rule which wins the line. -/
theorem region_step (h : (s.step rules line).2.region = some index) :
    s.region = some index ∨ ∃ g w, rules = .general g ∧ Wins g line w ∧ w.index = index ∧
      w.rule.untilPattern.isSome = true := by
  cases rules with
  | texts _ _ | patterns _ _ => exact .inl h
  | general g =>
    rw [step] at h
    cases hregion : s.region with
    | some other =>
      rw [stepGeneral_of_region hregion] at h
      dsimp only at h
      split at h
      · cases h
      · exact .inl (hregion.symm.trans h)
    | none =>
      rcases unmatched_or_wins g line with hu | ⟨w, hw⟩
      · rw [stepGeneral_of_unmatched hregion hu, hregion] at h
        cases h
      · rw [stepGeneral_of_wins hregion hw] at h
        dsimp only at h
        split_ifs at h with huntil
        exact .inr ⟨g, w, rfl, hw, Option.some.inj h, huntil⟩

/-! ### Validity -/

/-- What a session knows is said by the rules. -/
structure Valid (rules : Rule.Set) (s : Session) : Prop where
  /-- A region is that of a rule with an until pattern. -/
  region : ∀ index, s.region = some index → ∃ g rule p, rules = .general g ∧
    g.rules[index]? = some rule ∧ rule.untilPattern = some p
  /-- The flag is the empty one or that of a rule. -/
  flag : s.flag = "" ∨ ∃ g, rules = .general g ∧ ∃ rule ∈ g.rules, rule.flag = some s.flag

theorem Valid.start (rules : Rule.Set) : Valid rules start where
  region _ h := nomatch h
  flag := .inl rfl

theorem Valid.step (h : Valid rules s) (line : String) : Valid rules (s.step rules line).2 where
  region index hindex := by
    rcases region_step hindex with hold | ⟨g, w, hg, hw, rfl, huntil⟩
    · exact h.region index hold
    · obtain ⟨p, hp⟩ := Option.isSome_iff_exists.mp huntil
      exact ⟨g, w.rule, p, hg, hw.rule_at, hp⟩
  flag := by
    rcases flag_step rules s line with hold | ⟨g, w, hg, hw, hflag⟩
    · rw [hold]
      exact h.flag
    · exact .inr ⟨g, hg, w.rule, List.mem_of_getElem? hw.rule_at, hflag⟩

theorem Valid.steps (h : Valid rules s) (lines : List String) :
    Valid rules (s.steps rules lines).2 := by
  induction lines generalizing s with
  | nil => exact h
  | cons line rest ih => exact ih (h.step line)

theorem Valid.eq_start (h : Valid rules s) (hkind : rules.kind ≠ .general) : s = .start := by
  have hlist : ∀ g, rules ≠ .general g := fun g hg => hkind (by rw [hg]; rfl)
  obtain ⟨flag, region⟩ := s
  have hregion : region = none := by
    cases region with
    | none => rfl
    | some index =>
      obtain ⟨g, -, -, hg, -⟩ := h.region index rfl
      exact absurd hg (hlist g)
  have hflag : flag = "" := h.flag.resolve_right fun ⟨g, hg, _⟩ => hlist g hg
  rw [hregion, hflag]
  rfl

/-- Behind any lines a region is that of a rule which is there and has an until pattern, so that
pattern alone decides which line ends it. The flag is the empty one or that of a rule, and a
session of a list is as it was at the start. -/
theorem valid_of_steps (rules : Rule.Set) (lines : List String) :
    let s := (start.steps rules lines).2
    (∀ index, s.region = some index → ∃ g rule p, rules = .general g ∧
      g.rules[index]? = some rule ∧ rule.untilPattern = some p ∧
      ∀ line, endsRegion g index line = p.isMatch line.toList) ∧
    (s.flag = "" ∨ ∃ g, rules = .general g ∧ ∃ rule ∈ g.rules, rule.flag = some s.flag) ∧
    (rules.kind ≠ .general → s = start) := by
  intro s
  have hvalid : Valid rules s := (Valid.start rules).steps lines
  refine ⟨fun index hindex => ?_, hvalid.flag, hvalid.eq_start⟩
  obtain ⟨g, rule, p, hg, hrule, hp⟩ := hvalid.region index hindex
  exact ⟨g, rule, p, hg, hrule, hp, endsRegion_of_rule hrule hp⟩

/-- The second rule has begun a region, behind a line that the first has set the flag with. -/
theorem valid_of_steps_in_region :
    let rules := Rule.rulesOrNone (.ofList [("type", .text "general"), ("rules", .array
      [.record [("src", .text "^a"), ("flag", .text "F")],
        .record [("src", .text "^b"), ("until", .text "e")]])])
    (start.steps rules ["a", "x", "b", "y"]).2 = ⟨"F", some 1⟩ ∧
      ∃ g rule p, rules = .general g ∧ g.rules[1]? = some rule ∧ rule.untilPattern = some p ∧
        ∀ line, endsRegion g 1 line = p.isMatch line.toList := by
  intro rules
  have hlast : (start.steps rules ["a", "x", "b", "y"]).2 = ⟨"F", some 1⟩ := by decide +kernel
  have hregion : (start.steps rules ["a", "x", "b", "y"]).2.region = some 1 := by rw [hlast]
  exact ⟨hlast, (valid_of_steps rules ["a", "x", "b", "y"]).1 1 hregion⟩

end LineSieve.Session
