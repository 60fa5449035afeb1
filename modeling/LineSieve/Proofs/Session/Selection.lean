import LineSieve.Proofs.Rule.Fields
import LineSieve.Proofs.Session.Run
import LineSieve.Proofs.Session.Winner

/-!
# What decides which lines are kept

Which lines a general set keeps is decided by its prefix pattern and by the sources and the until
patterns of its rules. Templates, tags and flags only say what is written for a line that a rule
wins. So of a session only the region matters to what is kept, and two sets with the same selectors
keep the same lines and are in the same region behind each of them, although their flags and what
they write may differ.
-/

namespace LineSieve.Rule

variable {build : String → Option Regex} {a b : Record} {g h : GeneralRules}

/-! ### Selectors -/

/-- What decides which contents a rule matches and which lines end its region. -/
def General.selector (rule : General) : Regex × Option Regex :=
  (rule.source, rule.untilPattern)

/-- Two general sets differ at most in the templates, tags and flags of their rules. -/
structure GeneralRules.SelectsAs (g h : GeneralRules) : Prop where
  prefixPattern : g.prefixPattern = h.prefixPattern
  selectors : g.rules.map General.selector = h.rules.map General.selector

theorem GeneralRules.SelectsAs.symm (hsame : g.SelectsAs h) : h.SelectsAs g :=
  ⟨hsame.prefixPattern.symm, hsame.selectors.symm⟩

/-- At the place of a rule there is one with the same selector in the other set. -/
theorem GeneralRules.SelectsAs.rule_at (hsame : g.SelectsAs h) {index : Nat} {rule : General}
    (hrule : g.rules[index]? = some rule) :
    ∃ other, h.rules[index]? = some other ∧ other.selector = rule.selector := by
  have hplace := congrArg (·[index]?) hsame.selectors
  simp only [List.getElem?_map, hrule, Option.map_some] at hplace
  exact Option.map_eq_some_iff.mp hplace.symm

/-! ### Selectors of records -/

theorem FieldPattern.unique {key behind : String} {found other : Option Regex}
    (hfound : FieldPattern build a key behind found) (hother : FieldPattern build b key behind other)
    (hsame : a.get? key = b.get? key) : found = other := by
  have hnames : ∀ {p}, Names a key p ↔ Names b key p := by
    intro p
    rw [Names, Names, hsame]
  cases hfound with
  | missing hno => exact (hother.eq_none fun p hp => hno p (hnames.mpr hp)).symm
  | accepted hp hbuild => exact (hother.eq_some (hnames.mp hp) hbuild).symm

theorem IsRuleOf.selector_eq {rule other : General} (hrule : IsRuleOf build a rule)
    (hother : IsRuleOf build b other) (hsource : a.get? "src" = b.get? "src")
    (huntil : a.get? "until" = b.get? "until") : rule.selector = other.selector := by
  obtain ⟨p, hp, hbuild⟩ := hrule.source
  obtain ⟨q, hq, hbuild'⟩ := hother.source
  obtain rfl : p = q := by simpa using hp.symm.trans (hsource.trans hq)
  have hregex : rule.source = other.source := Option.some.inj (hbuild.symm.trans hbuild')
  rw [General.selector, General.selector, hregex,
    hrule.untilPattern.unique hother.untilPattern huntil]

theorem selectors_eq {items more : List Item} {rules others : List General}
    (hitems : List.Forall₂ (Agree ["src", "until"]) items more)
    (hrules : List.Forall₂ (IsItemRule build) items rules)
    (hothers : List.Forall₂ (IsItemRule build) more others) :
    rules.map General.selector = others.map General.selector := by
  induction hitems generalizing rules others with
  | nil =>
    cases hrules
    cases hothers
    rfl
  | cons hagree _ ih =>
    obtain ⟨rule, _, ⟨_, rfl, hrule⟩, hrest, rfl⟩ := List.forall₂_cons_left_iff.mp hrules
    obtain ⟨other, _, ⟨_, rfl, hother⟩, hrest', rfl⟩ := List.forall₂_cons_left_iff.mp hothers
    cases hagree with
    | record hfields =>
      have hselector := hrule.selector_eq hother (hfields "src" (by decide))
        (hfields "until" (by decide))
      rw [List.map_cons, List.map_cons, hselector, ih hrest hrest']

theorem exists_general {r : Record} (hkind : (rulesOrNone r).kind = .general) :
    ∃ g, compile r = .ok (.general g) ∧ rulesOrNone r = .general g := by
  unfold rulesOrNone at hkind ⊢
  cases hset : compile r with
  | error e =>
    rw [hset] at hkind
    cases hkind
  | ok set =>
    rw [hset] at hkind
    match set, hkind with
    | .texts false _, hkind | .texts true _, hkind => cases hkind
    | .patterns false _, hkind | .patterns true _, hkind => cases hkind
    | .general g, _ => exact ⟨g, rfl, rfl⟩

/-- Records are compiled to sets with the same selectors if they have the same prefix and agree on
the sources and the until patterns of their rules. -/
theorem selectsAs_of_compile (ha : compileWith build a = .ok (.general g))
    (hb : compileWith build b = .ok (.general h)) (hleading : a.get? "prefix" = b.get? "prefix")
    (hrules : ValuesAgree ["src", "until"] (a.get? "rules") (b.get? "rules")) : g.SelectsAs h := by
  obtain ⟨-, items, hitems, -, hpattern, hbody⟩ := compileWith_eq_ok_iff.mp ha
  obtain ⟨-, more, hmore, -, hpattern', hbody'⟩ := compileWith_eq_ok_iff.mp hb
  rw [hitems, hmore] at hrules
  cases hrules with
  | array hagree =>
    exact ⟨hpattern.unique hpattern' hleading, selectors_eq hagree hbody hbody'⟩

end LineSieve.Rule

namespace LineSieve.Session

open Rule

variable {g h : GeneralRules} {s t : Session} {line : String} {w : Win}

/-! ### Wins -/

theorem contentOf_congr (hsame : g.SelectsAs h) (line : String) :
    contentOf g line = contentOf h line := by
  rw [contentOf, contentOf, hsame.prefixPattern]

/-- A line is won by the rules at the same place. -/
theorem Wins.of_selectsAs (hsame : g.SelectsAs h) (hw : Wins g line w) :
    ∃ rule, rule.selector = w.rule.selector ∧ Wins h line { w with rule := rule } := by
  obtain ⟨rule, hrule, hselector⟩ := hsame.rule_at hw.rule_at
  have hsource : rule.source = w.rule.source := congrArg Prod.fst hselector
  refine ⟨rule, hselector, (contentOf_congr hsame line).symm.trans hw.content_eq, hrule, ?_, ?_⟩
  · rw [hsource]
    exact hw.groups_eq
  · intro k hk r hr
    obtain ⟨first, hfirst, hsame⟩ := hsame.symm.rule_at hr
    rw [show r.source = first.source from (congrArg Prod.fst hsame).symm]
    exact hw.first k hk first hfirst

theorem Unmatched.of_selectsAs (hsame : g.SelectsAs h) (hu : Unmatched g line) :
    Unmatched h line := by
  refine (unmatched_or_wins h line).resolve_right fun ⟨w, hw⟩ => ?_
  obtain ⟨rule, -, hwins⟩ := hw.of_selectsAs hsame.symm
  exact hwins.not_unmatched hu

theorem endsRegion_congr (hsame : g.SelectsAs h) (index : Nat) (line : String) :
    endsRegion g index line = endsRegion h index line := by
  have hplace : g.rules[index]?.bind General.untilPattern =
      h.rules[index]?.bind General.untilPattern := by
    have hselector := congrArg (·[index]?.bind Prod.snd) hsame.selectors
    simp only [List.getElem?_map, Option.bind_map] at hselector
    exact hselector
  rw [endsRegion, endsRegion, hplace]

/-! ### Steps -/

/-- Two sessions keep a line or drop it and are in the same region behind it. -/
structure Follows (g h : GeneralRules) (s t : Session) (line : String) : Prop where
  kept_eq : (s.stepGeneral g line).1.isSome = (t.stepGeneral h line).1.isSome
  region_eq : (s.stepGeneral g line).2.region = (t.stepGeneral h line).2.region

theorem follows_of_region_eq (hsame : g.SelectsAs h) (hregion : s.region = t.region)
    (line : String) : Follows g h s t line := by
  cases hs : s.region with
  | some index =>
    -- Within a region only the until pattern of the rule that began it is asked.
    have ht := hregion.symm.trans hs
    refine ⟨?_, ?_⟩
    · rw [stepGeneral_of_region hs, stepGeneral_of_region ht]
    · rw [stepGeneral_of_region hs, stepGeneral_of_region ht, endsRegion_congr hsame]
      dsimp only
      split
      · rfl
      · exact hregion
  | none =>
    have ht := hregion.symm.trans hs
    rcases unmatched_or_wins g line with hu | ⟨w, hw⟩
    · refine ⟨?_, ?_⟩
      · rw [stepGeneral_of_unmatched hs hu, stepGeneral_of_unmatched ht (hu.of_selectsAs hsame)]
      · rw [stepGeneral_of_unmatched hs hu, stepGeneral_of_unmatched ht (hu.of_selectsAs hsame)]
        exact hregion
    · obtain ⟨rule, hselector, hother⟩ := hw.of_selectsAs hsame
      have huntil : rule.untilPattern = w.rule.untilPattern := congrArg Prod.snd hselector
      refine ⟨?_, ?_⟩
      · rw [stepGeneral_of_wins hs hw, stepGeneral_of_wins ht hother, Option.isSome_some,
          Option.isSome_some]
      · rw [stepGeneral_of_wins hs hw, stepGeneral_of_wins ht hother, huntil]

/-! ### Runs -/

theorem steps_of_selectsAs (hsame : g.SelectsAs h) (hregion : s.region = t.region)
    (lines : List String) :
    (s.steps (.general g) lines).1.map Option.isSome =
        (t.steps (.general h) lines).1.map Option.isSome ∧
      (s.steps (.general g) lines).2.region = (t.steps (.general h) lines).2.region := by
  -- The flags of the sessions go apart, so the induction carries the regions and nothing else.
  induction lines generalizing s t with
  | nil => exact ⟨rfl, hregion⟩
  | cons line rest ih =>
    have hstep := follows_of_region_eq hsame hregion line
    obtain ⟨hkept, hlast⟩ := ih hstep.region_eq
    exact ⟨List.cons_eq_cons.mpr ⟨hstep.kept_eq, hkept⟩, hlast⟩

theorem outputs_in_region (rules : GeneralRules) {lines : List String} {i : Nat}
    (hl : lines[i]? = some line) (hregion : (after (.general rules) lines i).region.isSome = true) :
    (outputs (.general rules) lines)[i]? = some (some line) := by
  obtain ⟨index, hindex⟩ := Option.isSome_iff_exists.mp hregion
  rw [outputs_getElem? _ hl, step, stepGeneral_of_region hindex]

/-- Two general sets that differ at most in templates, tags and flags keep the same lines and are
in the same region behind each. Lines within a region are written alike by both, as they are. -/
theorem keeps_same_of_selectsAs (g h : GeneralRules) (hsame : g.SelectsAs h)
    (lines : List String) :
    (outputs (.general g) lines).map Option.isSome =
        (outputs (.general h) lines).map Option.isSome ∧
      (∀ n, (after (.general g) lines n).region = (after (.general h) lines n).region) ∧
      ∀ (i : Nat) (line : String), lines[i]? = some line →
        (after (.general g) lines i).region.isSome = true →
        (outputs (.general g) lines)[i]? = some (some line) ∧
          (outputs (.general h) lines)[i]? = some (some line) := by
  have hregion : ∀ n, (after (.general g) lines n).region = (after (.general h) lines n).region :=
    fun n => (steps_of_selectsAs hsame rfl (lines.take n)).2
  refine ⟨(steps_of_selectsAs hsame rfl lines).1, hregion, fun i line hl hin => ?_⟩
  exact ⟨outputs_in_region g hl hin, outputs_in_region h hl (hregion i ▸ hin)⟩

/-- The sets of two records write different outputs for the same lines, around a region that the
first rule of both begins. -/
theorem keeps_same_of_selectsAs_two_records :
    let record (rules : List Item) : Record := .ofList [("type", .text "general"),
      ("prefix", .text "^(.)="), ("rules", .array rules)]
    let first := record [.record [("src", .text "^b"), ("until", .text "e"), ("flag", .text "F")],
      .record [("src", .text "k(.)"), ("tag", .text "T")]]
    let second := record [.record [("until", .text "e"), ("src", .text "^b"), ("dest", .text "D")],
      .record [("src", .text "k(.)"), ("dest", .text "K"), ("flag", .text "G")]]
    let lines := ["1=k2", "2=b", "x", "e", "x", "3=k4"]
    ∃ g h, compile first = .ok (.general g) ∧ compile second = .ok (.general h) ∧
      g.SelectsAs h ∧
      outputs (.general g) lines = [some "       1          T k2", some "       2     F      b",
        some "x", some "e", none, some "       3     F    T k4"] ∧
      outputs (.general h) lines = [some "       1     G      K 2", some "       2     G      D",
        some "x", some "e", none, some "       3     G      K 4"] ∧
      (outputs (.general g) lines).map Option.isSome =
        (outputs (.general h) lines).map Option.isSome ∧
      (after (.general g) lines 3).region = (after (.general h) lines 3).region := by
  intro record first second lines
  obtain ⟨g, hg, hg'⟩ := exists_general (r := first) (by decide +kernel)
  obtain ⟨h, hh, hh'⟩ := exists_general (r := second) (by decide +kernel)
  have hrules : ValuesAgree ["src", "until"] (first.get? "rules") (second.get? "rules") := by
    refine .array (.cons (agree_of_perm ?_ ?_) (.cons (agree_of_perm ?_ ?_) .nil))
    · exact .swap _ _ _
    · decide
    · exact .refl _
    · decide
  have hsame : g.SelectsAs h := selectsAs_of_compile hg hh rfl hrules
  obtain ⟨hkept, hregion, -⟩ := keeps_same_of_selectsAs g h hsame lines
  have hfirst : outputs (rulesOrNone first) lines = [some "       1          T k2",
      some "       2     F      b", some "x", some "e", none, some "       3     F    T k4"] := by
    decide +kernel
  have hsecond : outputs (rulesOrNone second) lines = [some "       1     G      K 2",
      some "       2     G      D", some "x", some "e", none, some "       3     G      K 4"] := by
    decide +kernel
  rw [hg'] at hfirst
  rw [hh'] at hsecond
  exact ⟨g, h, hg, hh, hsame, hfirst, hsecond, hkept, hregion 3⟩

end LineSieve.Session
