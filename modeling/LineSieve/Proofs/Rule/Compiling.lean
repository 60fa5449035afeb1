import Mathlib.Data.List.Forall2
import LineSieve.Proofs.Results
import LineSieve.Proofs.Rule.Faults

/-!
# Compiling finds the first fault

The rules of a record are gone through three times at most: for their texts, for their patterns
and for the rules of a general set. Each time it is the same walk, which stops at the first item
that is refused (`mapFrom`). So a record is compiled to what it means or to its first fault.
-/

namespace LineSieve.Rule

open Results

variable {build : String → Option Regex} {r : Record} {items : List Item} {e : ConfigError}

/-! ### Fields -/

theorem text?_eq_some_iff {key t : String} : r.text? key = some t ↔ r.get? key = some (.text t) := by
  unfold Record.text?
  split
  · next s h => simp [h]
  · next h =>
    simp only [reduceCtorEq, false_iff]
    exact h t

theorem nonEmptyText?_eq_some_iff {key t : String} :
    r.nonEmptyText? key = some t ↔ Names r key t := by
  simp [Record.nonEmptyText?, Option.filter_eq_some_iff, text?_eq_some_iff, Names]

theorem nonEmptyText?_eq_none_iff {key : String} :
    r.nonEmptyText? key = none ↔ ∀ t, ¬ Names r key t := by
  rw [Option.eq_none_iff_forall_ne_some]
  simp only [ne_eq, nonEmptyText?_eq_some_iff]

theorem Names.unique {key s t : String} (hs : Names r key s) (ht : Names r key t) : s = t := by
  have h := hs.1.symm.trans ht.1
  simpa using h

theorem ofName?_eq_some_iff {k : Kind} {name : String} :
    Kind.ofName? name = some k ↔ Spelled k name := by
  constructor
  · intro h
    have hname : k.name = name := by simpa using List.find?_some h
    subst hname
    cases k <;> constructor
  · rintro ⟨⟩ <;> rfl

theorem kindOf_eq_ok_iff {k : Kind} : kindOf r = .ok k ↔ Declares r k := by
  unfold kindOf
  split
  · next h =>
    rw [nonEmptyText?_eq_none_iff] at h
    constructor
    · intro hk
      cases hk
      exact .unnamed h
    · rintro (⟨hname, -⟩ | -)
      · exact absurd hname (h _)
      · rfl
  · next name h =>
    rw [nonEmptyText?_eq_some_iff] at h
    constructor
    · intro hk
      split at hk
      · next kind hkind =>
        cases hk
        exact .named h (ofName?_eq_some_iff.mp hkind)
      · cases hk
    · rintro (⟨hname, hspelled⟩ | hnone)
      · rw [h.unique hname, ofName?_eq_some_iff.mpr hspelled]
      · exact absurd h (hnone name)

theorem kindOf_eq_error_iff :
    kindOf r = .error e ↔
      ∃ name, Names r "type" name ∧ (∀ k, ¬ Spelled k name) ∧ e = .unsupportedKind name := by
  unfold kindOf
  split
  · next h =>
    rw [nonEmptyText?_eq_none_iff] at h
    simp [h]
  · next name h =>
    rw [nonEmptyText?_eq_some_iff] at h
    split
    · next k hk =>
      simp only [reduceCtorEq, false_iff, not_exists, not_and]
      intro other hother hno
      rw [← h.unique hother] at hno
      exact absurd (ofName?_eq_some_iff.mp hk) (hno k)
    · next hk =>
      constructor
      · intro he
        cases he
        refine ⟨name, h, fun k hspelled => ?_, rfl⟩
        rw [ofName?_eq_some_iff.mpr hspelled] at hk
        cases hk
      · rintro ⟨other, hother, -, rfl⟩
        rw [h.unique hother]

theorem rulesOf_eq_ok_iff : rulesOf r = .ok items ↔ r.get? "rules" = some (.array items) := by
  unfold rulesOf
  split
  · next found h => simp [h]
  · next s h => simp [h]
  · next h => simp [h]

theorem rulesOf_eq_error_iff :
    rulesOf r = .error e ↔
      (r.get? "rules" = none ∨ r.get? "rules" = some (.text "")) ∧ e = .missingRules ∨
        (∃ s, Names r "rules" s) ∧ e = .rulesNotArray := by
  unfold rulesOf
  split
  · next found h => simp [h, Names]
  · next s h =>
    by_cases hs : s = ""
    · simp [h, hs, Names, eq_comm]
    · simp [h, hs, Names, eq_comm]
  · next h => simp [h, Names, eq_comm]

/-! ### Lists -/

theorem textOf_eq_ok_iff {index : Nat} {item : Item} {s : String} :
    textOf index item = .ok s ↔ item = .text s := by
  cases item <;> simp [textOf]

theorem textOf_eq_error_iff {index : Nat} {item : Item} :
    textOf index item = .error e ↔ (∀ s, item ≠ .text s) ∧ e = .invalidRuleType index .text := by
  cases item <;> simp [textOf, eq_comm]

theorem textsFrom_eq_ok_iff {index : Nat} {texts : List String} :
    textsFrom index items = .ok texts ↔ items = texts.map .text := by
  have hwalk : textsFrom index items = .ok texts ↔
      List.Forall₂ (fun item s => item = .text s) items texts :=
    mapFrom_eq_ok_iff (p := fun item s => item = Item.text s) textOf_eq_ok_iff
  rw [hwalk, ← List.forall₂_map_right_iff, List.forall₂_eq_eq_eq]

theorem textsFrom_eq_error_iff :
    textsFrom 0 items = .error e ↔
      ∃ i item, items[i]? = some item ∧ (∀ s, item ≠ .text s) ∧
        (∀ j < i, ∃ s, items[j]? = some (.text s)) ∧ e = .invalidRuleType i .text := by
  rw [textsFrom, mapFrom_eq_error_iff]
  simp only [Nat.zero_add, textOf_eq_error_iff, textOf_eq_ok_iff]
  constructor
  · rintro ⟨i, item, hi, ⟨hno, rfl⟩, hbefore⟩
    refine ⟨i, item, hi, hno, fun j hj => ?_, rfl⟩
    obtain ⟨hlt, -⟩ := List.getElem?_eq_some_iff.mp hi
    obtain ⟨s, hs⟩ := hbefore j hj _ (List.getElem?_eq_getElem (Nat.lt_trans hj hlt))
    exact ⟨s, by rw [List.getElem?_eq_getElem (Nat.lt_trans hj hlt), hs]⟩
  · rintro ⟨i, item, hi, hno, hbefore, rfl⟩
    refine ⟨i, item, hi, ⟨hno, rfl⟩, fun j hj other hother => ?_⟩
    obtain ⟨s, hs⟩ := hbefore j hj
    exact ⟨s, Option.some.inj (hother.symm.trans hs)⟩

theorem accept_eq_ok_iff {fault : String → ConfigError} {p : String} {regex : Regex} :
    accept build fault p = .ok regex ↔ build p = some regex := by
  unfold accept
  cases build p <;> simp

theorem accept_eq_error_iff {fault : String → ConfigError} {p : String} :
    accept build fault p = .error e ↔ build p = none ∧ e = fault p := by
  unfold accept
  cases build p <;> simp [eq_comm]

theorem compilePatterns_eq_ok_iff {texts : List String} {members : List Regex} :
    compilePatterns build texts = .ok members ↔
      List.Forall₂ (fun p regex => build p = some regex) texts members :=
  mapFrom_eq_ok_iff accept_eq_ok_iff

theorem compilePatterns_eq_error_iff {texts : List String} :
    compilePatterns build texts = .error e ↔
      ∃ (i : Nat) (p : String), texts[i]? = some p ∧ build p = none ∧
        (∀ j < i, ∀ q, texts[j]? = some q → build q ≠ none) ∧ e = .invalidPattern p := by
  rw [compilePatterns, mapFrom_eq_error_iff]
  simp only [accept_eq_error_iff, accept_eq_ok_iff, ← Option.ne_none_iff_exists', and_assoc]
  constructor
  · rintro ⟨i, p, hi, hp, he, hbefore⟩
    exact ⟨i, p, hi, hp, hbefore, he⟩
  · rintro ⟨i, p, hi, hp, hbefore, he⟩
    exact ⟨i, p, hi, hp, he, hbefore⟩

/-! ### General sets -/

theorem FieldPattern.not_rejected {key behind : String} {found : Option Regex}
    (h : FieldPattern build r key behind found) {p : String} (hp : Names r key p) :
    build (p ++ behind) ≠ none := by
  cases h with
  | missing hno => exact absurd hp (hno p)
  | accepted hq hbuild =>
    rw [hp.unique hq, hbuild]
    simp

theorem FieldPattern.eq_none {key behind : String} {found : Option Regex}
    (h : FieldPattern build r key behind found) (hno : ∀ p, ¬ Names r key p) : found = none := by
  cases h with
  | missing _ => rfl
  | accepted hp _ => exact absurd hp (hno _)

theorem FieldPattern.eq_some {key behind : String} {found : Option Regex}
    (h : FieldPattern build r key behind found) {p : String} {regex : Regex} (hp : Names r key p)
    (hbuild : build (p ++ behind) = some regex) : found = some regex := by
  cases h with
  | missing hno => exact absurd hp (hno p)
  | accepted hq hother => rw [← hother, ← hbuild, hp.unique hq]

/-- The regular expression of the pattern in a field. -/
def compileField (build : String → Option Regex) (fault : String → ConfigError)
    (r : Record) (key behind : String) : Except ConfigError (Option Regex) :=
  match r.nonEmptyText? key with
  | none => .ok none
  | some p => (accept build (fun _ => fault p) (p ++ behind)).map some

theorem compilePrefix_eq_compileField (build : String → Option Regex) (r : Record) :
    compilePrefix build r = compileField build .invalidPrefixPattern r "prefix" "(.+)" := by
  unfold compilePrefix compileField accept remainder
  cases r.nonEmptyText? "prefix" with
  | none => rfl
  | some p =>
    dsimp only
    cases build (p ++ "(.+)") <;> rfl

theorem compileUntil_eq_compileField (build : String → Option Regex) (r : Record) :
    compileUntil build r = compileField build .invalidUntilPattern r "until" "" := by
  unfold compileUntil compileField
  cases r.nonEmptyText? "until" with
  | none => rfl
  | some p => simp [accept]

theorem compileField_eq_ok_iff {fault : String → ConfigError} {key behind : String}
    {found : Option Regex} :
    compileField build fault r key behind = .ok found ↔ FieldPattern build r key behind found := by
  unfold compileField
  split
  · next h =>
    rw [nonEmptyText?_eq_none_iff] at h
    constructor
    · intro he
      cases he
      exact .missing h
    · intro hf
      rw [hf.eq_none h]
  · next p h =>
    rw [nonEmptyText?_eq_some_iff] at h
    cases hbuild : build (p ++ behind) with
    | none =>
      simp only [accept, hbuild, Except.map, reduceCtorEq, false_iff]
      exact fun hf => hf.not_rejected h hbuild
    | some regex =>
      simp only [accept, hbuild, Except.map, Except.ok.injEq]
      constructor
      · rintro rfl
        exact .accepted h hbuild
      · intro hf
        rw [hf.eq_some h hbuild]

theorem compileField_eq_error_iff {fault : String → ConfigError} {key behind : String} :
    compileField build fault r key behind = .error e ↔
      ∃ p, Names r key p ∧ build (p ++ behind) = none ∧ e = fault p := by
  unfold compileField
  split
  · next h =>
    rw [nonEmptyText?_eq_none_iff] at h
    simp [h]
  · next p h =>
    rw [nonEmptyText?_eq_some_iff] at h
    rw [map_eq_error_iff, accept_eq_error_iff]
    constructor
    · rintro ⟨hnone, rfl⟩
      exact ⟨p, h, hnone, rfl⟩
    · rintro ⟨q, hq, hnone, rfl⟩
      rw [h.unique hq]
      exact ⟨hnone, rfl⟩

theorem compileRule_eq_ok_iff {index : Nat} {rule : General} :
    compileRule build index r = .ok rule ↔ IsRuleOf build r rule := by
  have hlabels : ∀ {o : Option String} {key : String},
      (o = r.text? key ↔ ∀ t, o = some t ↔ r.get? key = some (.text t)) ∧
        (o = r.nonEmptyText? key ↔ ∀ t, o = some t ↔ Names r key t) := by
    intro o key
    constructor
    · rw [Option.ext_iff]
      simp only [text?_eq_some_iff]
    · rw [Option.ext_iff]
      simp only [nonEmptyText?_eq_some_iff]
  unfold compileRule
  constructor
  · intro h
    split at h
    · cases h
    · next p hp =>
      rw [text?_eq_some_iff] at hp
      cases hsource : accept build .invalidSourcePattern p with
      | error fault => simp [hsource] at h
      | ok source =>
        cases huntil : compileUntil build r with
        | error fault => simp [hsource, huntil, Except.map] at h
        | ok found =>
          simp only [hsource, huntil, Except.map, Except.ok.injEq] at h
          subst h
          rw [compileUntil_eq_compileField, compileField_eq_ok_iff] at huntil
          exact ⟨⟨p, hp, accept_eq_ok_iff.mp hsource⟩, huntil, hlabels.2.mp rfl, hlabels.1.mp rfl,
            hlabels.1.mp rfl⟩
  · rintro ⟨⟨p, hp, hbuild⟩, huntil, htemplate, htag, hflag⟩
    rw [← compileField_eq_ok_iff, ← compileUntil_eq_compileField] at huntil
    rw [← text?_eq_some_iff] at hp
    rw [hp]
    simp only [accept, hbuild, huntil, Except.map, ← hlabels.2.mpr htemplate,
      ← hlabels.1.mpr htag, ← hlabels.1.mpr hflag]

theorem compileRule_eq_error_iff {index : Nat} {fields : List (String × Value)} :
    compileRule build index ⟨fields⟩ = .error e ↔ ItemFault build index (.record fields) e := by
  unfold compileRule
  constructor
  · intro h
    split at h
    · next hnone =>
      cases h
      refine .noSource fun p hp => ?_
      rw [← text?_eq_some_iff, hnone] at hp
      cases hp
    · next p hp =>
      rw [text?_eq_some_iff] at hp
      cases hsource : accept build .invalidSourcePattern p with
      | error fault =>
        simp only [hsource, Except.error.injEq] at h
        subst h
        obtain ⟨hnone, rfl⟩ := accept_eq_error_iff.mp hsource
        exact .badSource hp hnone
      | ok source =>
        simp only [hsource, map_eq_error_iff, compileUntil_eq_compileField,
          compileField_eq_error_iff] at h
        obtain ⟨u, hu, hnone, rfl⟩ := h
        exact .badUntil hp (accept_eq_ok_iff.mp hsource) hu (by simpa using hnone)
  · intro h
    cases h with
    | notRecord hno => exact absurd rfl (hno fields)
    | noSource hno =>
      have hnone : Record.text? ⟨fields⟩ "src" = none := by
        rw [Option.eq_none_iff_forall_ne_some]
        exact fun p hp => hno p (text?_eq_some_iff.mp hp)
      rw [hnone]
    | badSource hp hnone =>
      rw [text?_eq_some_iff.mpr hp]
      simp only [accept, hnone]
    | badUntil hp hbuild hu hnone =>
      rw [text?_eq_some_iff.mpr hp]
      simp only [accept, hbuild, map_eq_error_iff, compileUntil_eq_compileField,
        compileField_eq_error_iff]
      exact ⟨_, hu, by simpa using hnone, rfl⟩

theorem ruleOf_eq_ok_iff {index : Nat} {item : Item} {rule : General} :
    ruleOf build index item = .ok rule ↔ IsItemRule build item rule := by
  cases item with
  | record fields => simp [ruleOf, IsItemRule, compileRule_eq_ok_iff]
  | text s => simp [ruleOf, IsItemRule]
  | scalar s => simp [ruleOf, IsItemRule]

theorem ruleOf_eq_error_iff {index : Nat} {item : Item} :
    ruleOf build index item = .error e ↔ ItemFault build index item e := by
  have hother : (∀ fields, item ≠ .record fields) →
      (ConfigError.invalidRuleType index .record = e ↔ ItemFault build index item e) := by
    intro hno
    constructor
    · rintro rfl
      exact .notRecord hno
    · rintro (_ | _ | _ | _)
      · rfl
      all_goals exact absurd rfl (hno _)
  cases item with
  | record fields => exact compileRule_eq_error_iff
  | text s => simpa [ruleOf] using hother (by simp)
  | scalar s => simpa [ruleOf] using hother (by simp)

theorem compileRulesFrom_eq_ok_iff {rules : List General} :
    compileRulesFrom build 0 items = .ok rules ↔ List.Forall₂ (IsItemRule build) items rules :=
  mapFrom_eq_ok_iff (p := IsItemRule build) ruleOf_eq_ok_iff

theorem compileRulesFrom_eq_error_iff :
    compileRulesFrom build 0 items = .error e ↔
      ∃ (i : Nat) (item : Item), items[i]? = some item ∧ ItemFault build i item e ∧
        ∀ j < i, ∀ other, items[j]? = some other → ∀ f, ¬ ItemFault build j other f := by
  -- an item is a rule exactly if it has no fault
  have hrule : ∀ {i : Nat} {item : Item},
      (∃ rule, ruleOf build i item = .ok rule) ↔ ∀ f, ¬ ItemFault build i item f := by
    intro i item
    simp only [← ruleOf_eq_error_iff]
    cases ruleOf build i item <;> simp
  rw [compileRulesFrom, mapFrom_eq_error_iff]
  simp only [Nat.zero_add, hrule, ruleOf_eq_error_iff]

/-! ### Sets -/

theorem compileGeneral_eq_ok_iff {g : GeneralRules} :
    compileGeneral build r items = .ok g ↔
      FieldPattern build r "prefix" "(.+)" g.prefixPattern ∧
        List.Forall₂ (IsItemRule build) items g.rules := by
  rw [← compileField_eq_ok_iff, ← compilePrefix_eq_compileField, ← compileRulesFrom_eq_ok_iff]
  unfold compileGeneral
  cases compilePrefix build r with
  | error fault => simp
  | ok found =>
    cases compileRulesFrom build 0 items with
    | error fault => simp [Except.map]
    | ok rules =>
      obtain ⟨prefixPattern, others⟩ := g
      simp [Except.map]

theorem compileGeneral_eq_error_iff :
    compileGeneral build r items = .error e ↔
      compilePrefix build r = .error e ∨
        (∃ found, compilePrefix build r = .ok found) ∧
          compileRulesFrom build 0 items = .error e := by
  unfold compileGeneral
  cases compilePrefix build r with
  | error fault => simp
  | ok found => simp [map_eq_error_iff]

/-- The form of a set tells its kind. -/
theorem compileKind_eq_ok_iff {k : Kind} {set : Set} :
    compileKind build r items k = .ok set ↔ set.kind = k ∧ IsBody build r items set := by
  constructor
  · intro h
    cases k with
    | textList | textListExclude =>
      simp only [compileKind, map_eq_ok_iff, textsFrom_eq_ok_iff] at h
      obtain ⟨members, hitems, rfl⟩ := h
      exact ⟨rfl, hitems⟩
    | patternList | patternListExclude =>
      simp only [compileKind, bind_eq_ok_iff, map_eq_ok_iff, textsFrom_eq_ok_iff,
        compilePatterns_eq_ok_iff] at h
      obtain ⟨texts, hitems, members, hmembers, rfl⟩ := h
      exact ⟨rfl, texts, hitems, hmembers⟩
    | general =>
      simp only [compileKind, map_eq_ok_iff, compileGeneral_eq_ok_iff] at h
      obtain ⟨g, hg, rfl⟩ := h
      exact ⟨rfl, hg⟩
  · rintro ⟨rfl, hbody⟩
    cases set with
    | texts exclude members =>
      have hlist : (textsFrom 0 items).map (.texts exclude) = .ok (Set.texts exclude members) :=
        map_eq_ok_iff.mpr ⟨members, textsFrom_eq_ok_iff.mpr hbody, rfl⟩
      cases exclude <;> exact hlist
    | patterns exclude members =>
      obtain ⟨texts, hitems, hmembers⟩ := hbody
      have hlist : ((textsFrom 0 items).bind fun ps =>
          (compilePatterns build ps).map (.patterns exclude)) =
            .ok (Set.patterns exclude members) :=
        bind_eq_ok_iff.mpr ⟨texts, textsFrom_eq_ok_iff.mpr hitems,
          map_eq_ok_iff.mpr ⟨members, compilePatterns_eq_ok_iff.mpr hmembers, rfl⟩⟩
      cases exclude <;> exact hlist
    | general g => exact map_eq_ok_iff.mpr ⟨g, compileGeneral_eq_ok_iff.mpr hbody, rfl⟩

theorem IsBody.count_eq {set : Set} (h : IsBody build r items set) :
    set.count = items.length := by
  match set, h with
  | .texts _ members, h => rw [Set.count, show items = members.map .text from h, List.length_map]
  | .patterns _ members, ⟨texts, hitems, hmembers⟩ =>
    rw [Set.count, hitems, List.length_map, hmembers.length_eq]
  | .general g, ⟨_, hrules⟩ => exact hrules.length_eq.symm

theorem compileKind_eq_error_iff {k : Kind} :
    compileKind build r items k = .error e ↔
      (k ≠ .general ∧ textsFrom 0 items = .error e) ∨
        ((k = .patternList ∨ k = .patternListExclude) ∧
          ∃ texts, items = texts.map .text ∧ compilePatterns build texts = .error e) ∨
        k = .general ∧ compileGeneral build r items = .error e := by
  cases k <;> simp [compileKind, map_eq_error_iff, bind_eq_error_iff, textsFrom_eq_ok_iff]

theorem compileWith_eq_ok_iff {set : Set} :
    compileWith build r = .ok set ↔ CompilesTo build r set := by
  unfold compileWith
  constructor
  · intro h
    split at h
    · cases h
    · next k hk =>
      split at h
      · cases h
      · next items hitems =>
        rw [kindOf_eq_ok_iff] at hk
        rw [rulesOf_eq_ok_iff] at hitems
        obtain ⟨rfl, hbody⟩ := compileKind_eq_ok_iff.mp h
        exact ⟨hk, items, hitems, hbody.count_eq, hbody⟩
  · rintro ⟨hk, items, hitems, -, hbody⟩
    rw [kindOf_eq_ok_iff.mpr hk, rulesOf_eq_ok_iff.mpr hitems]
    exact compileKind_eq_ok_iff.mpr ⟨rfl, hbody⟩

theorem fault_of_compileWith_eq_error (h : compileWith build r = .error e) : Fault build r e := by
  unfold compileWith at h
  split at h
  · next fault hk =>
    cases h
    obtain ⟨name, hname, hno, rfl⟩ := kindOf_eq_error_iff.mp hk
    exact .unsupportedKind hname hno
  · next k hk =>
    rw [kindOf_eq_ok_iff] at hk
    split at h
    · next fault hrules =>
      cases h
      obtain ⟨hno, rfl⟩ | ⟨⟨s, hs⟩, rfl⟩ := rulesOf_eq_error_iff.mp hrules
      · exact .missingRules hk hno
      · exact .rulesNotArray hk hs
    · next items hitems =>
      rw [rulesOf_eq_ok_iff] at hitems
      obtain ⟨hlist, herror⟩ | ⟨hlist, texts, rfl, herror⟩ | ⟨rfl, herror⟩ :=
        compileKind_eq_error_iff.mp h
      · obtain ⟨i, item, hi, hno, hbefore, rfl⟩ := textsFrom_eq_error_iff.mp herror
        exact .notText hk hlist hitems hi hno hbefore
      · obtain ⟨i, p, hi, hp, hbefore, rfl⟩ := compilePatterns_eq_error_iff.mp herror
        exact .badPattern hk hlist hitems hi hp hbefore
      · rw [compileGeneral_eq_error_iff, compilePrefix_eq_compileField, compileField_eq_error_iff]
          at herror
        obtain ⟨p, hp, hno, rfl⟩ | ⟨⟨found, hfound⟩, herror⟩ := herror
        · exact .badPrefix hk hitems hp hno
        · obtain ⟨i, item, hi, hfault, hbefore⟩ := compileRulesFrom_eq_error_iff.mp herror
          have haccepted := compileField_eq_ok_iff.mp hfound
          exact .badItem hk hitems (fun p hp => haccepted.not_rejected hp) hi hfault hbefore

theorem compileWith_of_kind_of_rules {k : Kind} (hk : Declares r k)
    (hitems : r.get? "rules" = some (.array items)) :
    compileWith build r = compileKind build r items k := by
  rw [compileWith, kindOf_eq_ok_iff.mpr hk, rulesOf_eq_ok_iff.mpr hitems]

theorem compileWith_eq_error_of_fault (h : Fault build r e) : compileWith build r = .error e := by
  cases h with
  | unsupportedKind hname hno =>
    rw [compileWith, kindOf_eq_error_iff.mpr ⟨_, hname, hno, rfl⟩]
  | missingRules hk hno =>
    rw [compileWith, kindOf_eq_ok_iff.mpr hk, rulesOf_eq_error_iff.mpr (.inl ⟨hno, rfl⟩)]
  | rulesNotArray hk hs =>
    rw [compileWith, kindOf_eq_ok_iff.mpr hk, rulesOf_eq_error_iff.mpr (.inr ⟨⟨_, hs⟩, rfl⟩)]
  | notText hk hlist hitems hi hno hbefore =>
    rw [compileWith_of_kind_of_rules hk hitems, compileKind_eq_error_iff]
    exact .inl ⟨hlist, textsFrom_eq_error_iff.mpr ⟨_, _, hi, hno, hbefore, rfl⟩⟩
  | badPattern hk hlist hitems hi hp hbefore =>
    rw [compileWith_of_kind_of_rules hk hitems, compileKind_eq_error_iff]
    exact .inr (.inl ⟨hlist, _, rfl,
      compilePatterns_eq_error_iff.mpr ⟨_, _, hi, hp, hbefore, rfl⟩⟩)
  | badPrefix hk hitems hp hno =>
    rw [compileWith_of_kind_of_rules hk hitems, compileKind_eq_error_iff,
      compileGeneral_eq_error_iff, compilePrefix_eq_compileField, compileField_eq_error_iff]
    exact .inr (.inr ⟨rfl, .inl ⟨_, hp, hno, rfl⟩⟩)
  | badItem hk hitems haccepted hi hfault hbefore =>
    -- the prefix is missing or accepted
    have hfound : ∃ found, compilePrefix build r = .ok found := by
      cases hresult : compilePrefix build r with
      | ok found => exact ⟨found, rfl⟩
      | error fault =>
        rw [compilePrefix_eq_compileField, compileField_eq_error_iff] at hresult
        obtain ⟨p, hp, hno, -⟩ := hresult
        exact absurd hno (haccepted p hp)
    rw [compileWith_of_kind_of_rules hk hitems, compileKind_eq_error_iff,
      compileGeneral_eq_error_iff]
    exact .inr (.inr ⟨rfl, .inr ⟨hfound,
      compileRulesFrom_eq_error_iff.mpr ⟨_, _, hi, hfault, hbefore⟩⟩⟩)

/-- Compiling a record gives the set that it stands for or, if it has a fault, the first fault, for
whatever patterns are accepted. -/
theorem compileWith_ok_or_first_fault (build : String → Option Regex) (r : Record) :
    (∀ set, compileWith build r = .ok set ↔ CompilesTo build r set) ∧
      ∀ e, compileWith build r = .error e ↔ Fault build r e :=
  ⟨fun _ => compileWith_eq_ok_iff,
    fun _ => ⟨fault_of_compileWith_eq_error, compileWith_eq_error_of_fault⟩⟩

/-- The rule set of a record, or one without rules if the record is no configuration. -/
def rulesOrNone (r : Record) : Set := (compile r).toOption.getD (.texts false [])

theorem compile_eq_ok_rulesOrNone {r : Record} (h : (compile r).isOk = true) :
    compile r = .ok (rulesOrNone r) := by
  cases hset : compile r with
  | error fault =>
    rw [hset] at h
    cases h
  | ok set =>
    rw [rulesOrNone, hset]
    rfl

end LineSieve.Rule
