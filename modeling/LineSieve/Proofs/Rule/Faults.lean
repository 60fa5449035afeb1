import Mathlib.Data.List.Forall2
import LineSieve.Rule.Compile

/-!
# What configurations mean

A record is a configuration if it has none of the faults that are listed here. The list is
ordered: each fault requires that none of those before it is there, so a record has at most one.
`CompilesTo` says what becomes of a record without a fault, rule by rule. Nothing here is told by
going through the rules.
-/

namespace LineSieve.Rule

/-! ### Fields -/

/-- A field is a text that is not empty. -/
def Names (r : Record) (key text : String) : Prop := r.get? key = some (.text text) ∧ text ≠ ""

/-- How the kinds are spelled. -/
inductive Spelled : Kind → String → Prop
  | textList : Spelled .textList "stringlist"
  | textListExclude : Spelled .textListExclude "stringlist_notcontainany"
  | patternList : Spelled .patternList "regexlist"
  | patternListExclude : Spelled .patternListExclude "regexlist_notmatchany"
  | general : Spelled .general "general"

/-- The kind of a record: the one that it names, or the pattern list if it names none. -/
inductive Declares (r : Record) : Kind → Prop
  | named {k name} : Names r "type" name → Spelled k name → Declares r k
  | unnamed : (∀ name, ¬ Names r "type" name) → Declares r .patternList

/-- The regular expression of the pattern in a field, which has a fixed text behind it. There is
none if the field is missing or empty. -/
inductive FieldPattern (build : String → Option Regex) (r : Record) (key behind : String) :
    Option Regex → Prop
  | missing : (∀ p, ¬ Names r key p) → FieldPattern build r key behind none
  | accepted {p regex} : Names r key p → build (p ++ behind) = some regex →
      FieldPattern build r key behind (some regex)

/-! ### Rules of general sets -/

/-- The rule that a record stands for. Its tag and its flag may be empty, its template may
not. -/
structure IsRuleOf (build : String → Option Regex) (r : Record) (rule : General) : Prop where
  source : ∃ p, r.get? "src" = some (.text p) ∧ build p = some rule.source
  untilPattern : FieldPattern build r "until" "" rule.untilPattern
  template : ∀ t, rule.template = some t ↔ Names r "dest" t
  tag : ∀ t, rule.tag = some t ↔ r.get? "tag" = some (.text t)
  flag : ∀ t, rule.flag = some t ↔ r.get? "flag" = some (.text t)

/-- The rule that an item stands for. -/
def IsItemRule (build : String → Option Regex) (item : Item) (rule : General) : Prop :=
  ∃ fields, item = .record fields ∧ IsRuleOf build ⟨fields⟩ rule

/-- The first fault of the item at `index`. -/
inductive ItemFault (build : String → Option Regex) (index : Nat) : Item → ConfigError → Prop
  | notRecord {item} : (∀ fields, item ≠ .record fields) →
      ItemFault build index item (.invalidRuleType index .record)
  | noSource {fields} : (∀ p, Record.get? ⟨fields⟩ "src" ≠ some (.text p)) →
      ItemFault build index (.record fields) (.missingSourcePattern index)
  | badSource {fields p} : Record.get? ⟨fields⟩ "src" = some (.text p) → build p = none →
      ItemFault build index (.record fields) (.invalidSourcePattern p)
  | badUntil {fields p regex u} : Record.get? ⟨fields⟩ "src" = some (.text p) →
      build p = some regex → Names ⟨fields⟩ "until" u → build u = none →
      ItemFault build index (.record fields) (.invalidUntilPattern u)

/-! ### Sets -/

/-- The first fault of a record. -/
inductive Fault (build : String → Option Regex) (r : Record) : ConfigError → Prop
  | unsupportedKind {name} : Names r "type" name → (∀ k, ¬ Spelled k name) →
      Fault build r (.unsupportedKind name)
  | missingRules {k} : Declares r k →
      (r.get? "rules" = none ∨ r.get? "rules" = some (.text "")) → Fault build r .missingRules
  | rulesNotArray {k s} : Declares r k → Names r "rules" s → Fault build r .rulesNotArray
  /-- The first item of a list that is no text; no pattern is looked at before. -/
  | notText {k item} {items : List Item} {i : Nat} : Declares r k → k ≠ .general →
      r.get? "rules" = some (.array items) → items[i]? = some item → (∀ s, item ≠ .text s) →
      (∀ j < i, ∃ s, items[j]? = some (.text s)) → Fault build r (.invalidRuleType i .text)
  | badPattern {k p} {texts : List String} {i : Nat} : Declares r k →
      (k = .patternList ∨ k = .patternListExclude) →
      r.get? "rules" = some (.array (texts.map .text)) → texts[i]? = some p → build p = none →
      (∀ j < i, ∀ q, texts[j]? = some q → build q ≠ none) → Fault build r (.invalidPattern p)
  | badPrefix {items p} : Declares r .general → r.get? "rules" = some (.array items) →
      Names r "prefix" p → build (p ++ "(.+)") = none → Fault build r (.invalidPrefixPattern p)
  | badItem {item e} {items : List Item} {i : Nat} :
      Declares r .general → r.get? "rules" = some (.array items) →
      (∀ p, Names r "prefix" p → build (p ++ "(.+)") ≠ none) → items[i]? = some item →
      ItemFault build i item e →
      (∀ j < i, ∀ other, items[j]? = some other → ∀ f, ¬ ItemFault build j other f) →
      Fault build r e

/-- What becomes of the items: the texts of a list, their regular expressions one by one, or the
rules of a general set one by one, which has a prefix too. -/
def IsBody (build : String → Option Regex) (r : Record) (items : List Item) : Set → Prop
  | .texts _ members => items = members.map .text
  | .patterns _ members => ∃ texts : List String, items = texts.map .text ∧
      List.Forall₂ (fun p regex => build p = some regex) texts members
  | .general g => FieldPattern build r "prefix" "(.+)" g.prefixPattern ∧
      List.Forall₂ (IsItemRule build) items g.rules

/-- What becomes of a record: a set of the kind that it declares, with one rule for each
item. -/
structure CompilesTo (build : String → Option Regex) (r : Record) (set : Set) : Prop where
  kind : Declares r set.kind
  rules : ∃ items, r.get? "rules" = some (.array items) ∧ set.count = items.length ∧
    IsBody build r items set

end LineSieve.Rule
