import LineSieve.Proofs.Rule.Compiling
import LineSieve.Proofs.Session.Run
import LineSieve.Proofs.Session.Winner

/-!
# General sets without state

A general set without a prefix pattern and without until patterns looks at each line by itself: it
keeps the lines that the source of a rule matches, which are those that the list of these sources
keeps. If no rule has a template, a tag or a flag, it writes each line as it is behind two empty
labels.
-/

namespace LineSieve.Rule

/-- There is no prefix pattern and no until pattern, and the rules have the given sources. -/
structure GeneralRules.SelectsBy (g : GeneralRules) (members : List Regex) : Prop where
  prefixPattern : g.prefixPattern = none
  sources : g.rules.map General.source = members
  untilPattern : ∀ rule ∈ g.rules, rule.untilPattern = none

/-- A rule that shows a content as it is and sets no labels. -/
structure General.IsBare (rule : General) : Prop where
  template : rule.template = none
  tag : rule.tag = none
  flag : rule.flag = none

/-! ### Records of both kinds -/

/-- An item is a record with a pattern as its source and without an until pattern. -/
def IsSourceRule (pattern : String) (item : Item) : Prop :=
  ∃ fields, item = .record fields ∧ Record.get? ⟨fields⟩ "src" = some (.text pattern) ∧
    ∀ p, ¬ Names ⟨fields⟩ "until" p

/-- A record declares the list of some patterns. -/
structure ListsPatterns (patterns : List String) (r : Record) : Prop where
  kind : Declares r .patternList
  rules : r.get? "rules" = some (.array (patterns.map .text))

/-- A record declares a general set without a prefix whose rules have some patterns as their
sources. -/
structure RulesByPatterns (patterns : List String) (r : Record) : Prop where
  kind : Declares r .general
  unprefixed : ∀ p, ¬ Names r "prefix" p
  rules : ∃ items, r.get? "rules" = some (.array items) ∧
    List.Forall₂ IsSourceRule patterns items

section

variable {build : String → Option Regex} {patterns : List String} {members : List Regex}
  {items : List Item} {list general : Record}

theorem exists_members (haccepted : ∀ p ∈ patterns, build p ≠ none) :
    ∃ members, List.Forall₂ (fun p regex => build p = some regex) patterns members := by
  induction patterns with
  | nil => exact ⟨[], .nil⟩
  | cons p rest ih =>
    rw [List.forall_mem_cons] at haccepted
    obtain ⟨regex, hregex⟩ := Option.ne_none_iff_exists'.mp haccepted.1
    obtain ⟨members, hmembers⟩ := ih haccepted.2
    exact ⟨regex :: members, .cons hregex hmembers⟩

theorem IsSourceRule.exists_rule {p : String} {item : Item} {regex : Regex}
    (h : IsSourceRule p item) (hbuild : build p = some regex) :
    ∃ rule, IsItemRule build item rule ∧ rule.source = regex ∧ rule.untilPattern = none := by
  obtain ⟨fields, rfl, hsource, huntil⟩ := h
  let r : Record := ⟨fields⟩
  refine ⟨⟨regex, none, r.nonEmptyText? "dest", r.text? "tag", r.text? "flag"⟩,
    ⟨fields, rfl, ?_⟩, rfl, rfl⟩
  exact {
    source := ⟨p, hsource, hbuild⟩
    untilPattern := .missing huntil
    template := fun _ => nonEmptyText?_eq_some_iff
    tag := fun _ => text?_eq_some_iff
    flag := fun _ => text?_eq_some_iff }

theorem exists_rules (hitems : List.Forall₂ IsSourceRule patterns items)
    (hmembers : List.Forall₂ (fun p regex => build p = some regex) patterns members) :
    ∃ rules : List General, List.Forall₂ (IsItemRule build) items rules ∧
      rules.map General.source = members ∧ ∀ rule ∈ rules, rule.untilPattern = none := by
  induction hitems generalizing members with
  | nil =>
    cases hmembers
    exact ⟨[], .nil, rfl, List.forall_mem_nil _⟩
  | cons hitem _ ih =>
    cases hmembers with
    | cons hbuild hmore =>
      obtain ⟨rule, hrule, hsource, huntil⟩ := hitem.exists_rule hbuild
      obtain ⟨rules, hrules, hsources, huntils⟩ := ih hmore
      exact ⟨rule :: rules, .cons hrule hrules, List.cons_eq_cons.mpr ⟨hsource, hsources⟩,
        List.forall_mem_cons.mpr ⟨huntil, huntils⟩⟩

/-- If all patterns are accepted, both kinds of records are compiled, and the general set selects
by the members of the list. -/
theorem exists_selectsBy (haccepted : ∀ p ∈ patterns, build p ≠ none)
    (hlist : ListsPatterns patterns list) (hgeneral : RulesByPatterns patterns general) :
    ∃ members g, compileWith build list = .ok (.patterns false members) ∧
      compileWith build general = .ok (.general g) ∧ g.SelectsBy members := by
  obtain ⟨members, hmembers⟩ := exists_members haccepted
  obtain ⟨items, hrules, hitems⟩ := hgeneral.rules
  obtain ⟨rules, hbody, hsources, huntils⟩ := exists_rules hitems hmembers
  refine ⟨members, ⟨none, rules⟩, ?_, ?_, rfl, hsources, huntils⟩
  · rw [compileWith_of_kind_of_rules hlist.kind hlist.rules]
    exact compileKind_eq_ok_iff.mpr ⟨rfl, patterns, rfl, hmembers⟩
  · rw [compileWith_of_kind_of_rules hgeneral.kind hrules]
    exact compileKind_eq_ok_iff.mpr ⟨rfl, .missing hgeneral.unprefixed, hbody⟩

end

end LineSieve.Rule

namespace LineSieve.Session

open Rule

variable {g : GeneralRules} {members : List Regex} {s : Session} {line : String} {w : Win}

/-! ### Lines -/

theorem matchesAny_eq_false_iff (hg : g.SelectsBy members) (line : String) :
    matchesAny members line = false ↔
      ∀ rule ∈ g.rules, rule.source.isMatch line.toList = false := by
  rw [matchesAny, ← hg.sources, List.any_map, List.any_eq_false]
  simp only [Function.comp_apply, Bool.not_eq_true]

theorem contentOf_of_selectsBy (hg : g.SelectsBy members) (line : String) :
    contentOf g line = some ("", line) := by
  rw [contentOf, hg.prefixPattern]

theorem unmatched_iff_of_selectsBy (hg : g.SelectsBy members) :
    Unmatched g line ↔ matchesAny members line = false := by
  rw [matchesAny_eq_false_iff hg]
  constructor
  · rintro (hno | ⟨fields, content, hc, hno⟩)
    · rw [← contentOf_eq_none_iff, contentOf_of_selectsBy hg] at hno
      cases hno
    · rw [contentOf_of_selectsBy hg] at hc
      cases hc
      exact hno
  · exact fun hno => .inr ⟨"", line, contentOf_of_selectsBy hg line, hno⟩

theorem Wins.matchesAny_of_selectsBy (hw : Wins g line w) (hg : g.SelectsBy members) :
    matchesAny members line = true := by
  rw [← Bool.not_eq_false, ← unmatched_iff_of_selectsBy hg]
  exact hw.not_unmatched

/-- A line is kept if a source matches it, and no region is begun. -/
theorem stepGeneral_of_selectsBy (hg : g.SelectsBy members) (hs : s.region = none)
    (line : String) :
    (s.stepGeneral g line).1.isSome = matchesAny members line ∧
      (s.stepGeneral g line).2.region = none := by
  rcases unmatched_or_wins g line with hu | ⟨w, hw⟩
  · rw [stepGeneral_of_unmatched hs hu, (unmatched_iff_of_selectsBy hg).mp hu]
    exact ⟨rfl, hs⟩
  · have huntil := hg.untilPattern w.rule (List.mem_of_getElem? hw.rule_at)
    rw [stepGeneral_of_wins hs hw, hw.matchesAny_of_selectsBy hg, huntil, Option.isSome_some]
    exact ⟨rfl, rfl⟩

/-! ### Lines behind empty labels -/

/-- What stands before a content without fields and labels. -/
def margin : String := String.ofList (List.replicate 11 ' ')

theorem outputLine_of_no_labels (line : String) : outputLine "" "" "" line = margin ++ line := by
  have hmargin : "" ++ " " ++ Text.padLeft "" labelWidth ++ " " ++ Text.padLeft "" labelWidth ++
      " " = margin := by decide
  rw [outputLine, hmargin]

theorem stepGeneral_of_bare (hg : g.SelectsBy members) (hbare : ∀ rule ∈ g.rules, rule.IsBare)
    (line : String) :
    start.stepGeneral g line =
      (if matchesAny members line then some (margin ++ line) else none, start) := by
  have hs : start.region = none := rfl
  rcases unmatched_or_wins g line with hu | ⟨w, hw⟩
  · rw [stepGeneral_of_unmatched hs hu, (unmatched_iff_of_selectsBy hg).mp hu]
    rfl
  · have hmem := List.mem_of_getElem? hw.rule_at
    have hcontent := hw.content_eq
    rw [contentOf_of_selectsBy hg, Option.some.injEq, Prod.mk.injEq] at hcontent
    obtain ⟨hfields, hline⟩ := hcontent
    have hrule := hbare w.rule hmem
    rw [stepGeneral_of_wins hs hw, hw.matchesAny_of_selectsBy hg, if_pos rfl, hrule.flag, hrule.tag,
      hg.untilPattern w.rule hmem, render, hrule.template, ← hfields, ← hline]
    dsimp only [Option.getD_none]
    rw [show start.flag = "" from rfl, outputLine_of_no_labels]
    rfl

/-! ### Runs -/

theorem steps_patterns (members : List Regex) (s : Session) (lines : List String) :
    s.steps (.patterns false members) lines =
      (lines.map fun line => if matchesAny members line then some line else none, s) := by
  induction lines with
  | nil => rfl
  | cons line rest ih => simp [steps, step, ih]

theorem kept_of_selectsBy (hg : g.SelectsBy members) (hs : s.region = none)
    (lines : List String) :
    (s.steps (.general g) lines).1.map Option.isSome = lines.map (matchesAny members) := by
  induction lines generalizing s with
  | nil => rfl
  | cons line rest ih =>
    obtain ⟨hkept, hregion⟩ := stepGeneral_of_selectsBy hg hs line
    exact List.cons_eq_cons.mpr ⟨hkept, ih hregion⟩

theorem steps_of_bare (hg : g.SelectsBy members) (hbare : ∀ rule ∈ g.rules, rule.IsBare)
    (lines : List String) :
    start.steps (.general g) lines =
      (lines.map fun line => if matchesAny members line then some (margin ++ line) else none,
        start) := by
  -- No rule sets a flag or begins a region, so the session is a fresh one behind each line.
  induction lines with
  | nil => rfl
  | cons line rest ih =>
    simp only [steps, step, stepGeneral_of_bare hg hbare, ih, List.map_cons]

/-- The same places are kept as by the list of the sources. -/
theorem places_of_selectsBy (hg : g.SelectsBy members) (lines : List String) :
    (outputs (.general g) lines).map Option.isSome =
      (outputs (.patterns false members) lines).map Option.isSome := by
  rw [outputs, outputs, kept_of_selectsBy hg rfl, steps_patterns, List.map_map]
  refine List.map_congr_left fun line _ => ?_
  cases h : matchesAny members line <;> simp [h]

theorem outputs_of_bare (hg : g.SelectsBy members) (hbare : ∀ rule ∈ g.rules, rule.IsBare)
    (lines : List String) :
    outputs (.general g) lines =
      (outputs (.patterns false members) lines).map (Option.map (margin ++ ·)) := by
  rw [outputs, outputs, steps_of_bare hg hbare, steps_patterns, List.map_map]
  refine List.map_congr_left fun line _ => ?_
  cases h : matchesAny members line <;> simp [h]

end LineSieve.Session
