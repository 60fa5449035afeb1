import Mathlib.Data.List.Perm.Basic
import LineSieve.Proofs.Rule.Compiling

/-!
# Fields that count

Compiling looks at three fields of a record and, if the record declares a general set, at five
fields of each rule. Whatever else is in a record or in a rule, and in which order, does not
matter: records that agree on these fields are compiled to the same set or have the same fault.

Records agree on a key if they have the same value there. That is so where one record has the
fields of the other in another order (`agree_of_perm`).
-/

namespace LineSieve.Rule

open Results

variable {build : String → Option Regex} {a b : Record} {keys : List String}
  {fields others : List (String × Value)} {items more : List Item} {x y : Item}

/-! ### Agreement -/

/-- The keys of the fields of a rule. -/
def ruleKeys : List String := ["src", "until", "dest", "tag", "flag"]

/-- Two items are the same but for what records have under other keys. -/
inductive Agree (keys : List String) : Item → Item → Prop
  | text (s : String) : Agree keys (.text s) (.text s)
  | scalar (s : Json.Scalar) : Agree keys (.scalar s) (.scalar s)
  | record {fields others : List (String × Value)} :
      (∀ key ∈ keys, fields.lookup key = others.lookup key) →
      Agree keys (.record fields) (.record others)

/-- Two values of a field, if there are any, are the same but for items that agree one by one. -/
inductive ValuesAgree (keys : List String) : Option Value → Option Value → Prop
  | missing : ValuesAgree keys none none
  | text (s : String) : ValuesAgree keys (some (.text s)) (some (.text s))
  | array {items more : List Item} : List.Forall₂ (Agree keys) items more →
      ValuesAgree keys (some (.array items)) (some (.array more))

/-- Records with distinct keys agree if they have the same fields under the keys that count, in
any order. -/
theorem agree_of_perm
    (h : (fields.filter fun p => p.1 ∈ keys).Perm (others.filter fun p => p.1 ∈ keys))
    (hkeys : (fields.map Prod.fst).Nodup) : Agree keys (.record fields) (.record others) := by
  refine .record fun key hkey => ?_
  have hfiltered : ((fields.filter fun p => p.1 ∈ keys).map Prod.fst).Nodup :=
    hkeys.sublist (List.filter_sublist.map Prod.fst)
  have hkept : ∀ entries : List (String × Value),
      (entries.filter fun p => p.1 ∈ keys).lookup key = entries.lookup key := by
    intro entries
    have hlookup := Entries.lookup_filter (fun k => decide (k ∈ keys)) key entries
    rwa [if_pos (decide_eq_true hkey)] at hlookup
  rw [← hkept fields, ← hkept others, Entries.lookup_perm h hfiltered]

theorem text?_congr {key : String} (h : a.get? key = b.get? key) : a.text? key = b.text? key := by
  rw [Record.text?, Record.text?, h]

theorem nonEmptyText?_congr {key : String} (h : a.get? key = b.get? key) :
    a.nonEmptyText? key = b.nonEmptyText? key := by
  rw [Record.nonEmptyText?, Record.nonEmptyText?, text?_congr h]

theorem kindOf_congr (h : a.get? "type" = b.get? "type") : kindOf a = kindOf b := by
  rw [kindOf, kindOf, nonEmptyText?_congr h]

/-! ### Walks over items -/

theorem textOf_congr (h : Agree keys x y) (index : Nat) : textOf index x = textOf index y := by
  cases h <;> rfl

theorem compileRule_congr
    (h : ∀ key ∈ ruleKeys, fields.lookup key = others.lookup key) (index : Nat) :
    compileRule build index ⟨fields⟩ = compileRule build index ⟨others⟩ := by
  have hget : ∀ key ∈ ruleKeys, Record.get? ⟨fields⟩ key = Record.get? ⟨others⟩ key := h
  have hsource := text?_congr (hget "src" (by decide))
  have huntil := nonEmptyText?_congr (hget "until" (by decide))
  have htemplate := nonEmptyText?_congr (hget "dest" (by decide))
  have htag := text?_congr (hget "tag" (by decide))
  have hflag := text?_congr (hget "flag" (by decide))
  simp only [compileRule, compileUntil, hsource, huntil, htemplate, htag, hflag]

theorem ruleOf_congr (h : Agree ruleKeys x y) (index : Nat) :
    ruleOf build index x = ruleOf build index y := by
  cases h with
  | text | scalar => rfl
  | record hfields => exact compileRule_congr hfields index

theorem textsFrom_congr (h : List.Forall₂ (Agree keys) items more) (index : Nat) :
    textsFrom index items = textsFrom index more :=
  mapFrom_congr h (fun i _ _ hxy => textOf_congr hxy i) index

theorem compileRulesFrom_congr (h : List.Forall₂ (Agree ruleKeys) items more) (index : Nat) :
    compileRulesFrom build index items = compileRulesFrom build index more :=
  mapFrom_congr h (fun i _ _ hxy => ruleOf_congr hxy i) index

/-! ### Sets -/

theorem compileGeneral_congr (hleading : a.get? "prefix" = b.get? "prefix")
    (h : List.Forall₂ (Agree ruleKeys) items more) :
    compileGeneral build a items = compileGeneral build b more := by
  rw [compileGeneral, compileGeneral, compilePrefix, compilePrefix, nonEmptyText?_congr hleading,
    compileRulesFrom_congr h]

theorem compileKind_congr {k : Kind}
    (hleading : k = .general → a.get? "prefix" = b.get? "prefix")
    (h : List.Forall₂ (Agree ruleKeys) items more) :
    compileKind build a items k = compileKind build b more k := by
  cases k with
  | textList | textListExclude | patternList | patternListExclude =>
    simp only [compileKind, textsFrom_congr h]
  | general => simp only [compileKind, compileGeneral_congr (hleading rfl) h]

/-- There are the same rules in both records, or the same fault. -/
theorem rulesOf_of_agree (h : ValuesAgree keys (a.get? "rules") (b.get? "rules")) :
    (∃ e, rulesOf a = .error e ∧ rulesOf b = .error e) ∨
      ∃ items more, rulesOf a = .ok items ∧ rulesOf b = .ok more ∧
        List.Forall₂ (Agree keys) items more := by
  unfold rulesOf
  generalize a.get? "rules" = value at *
  generalize b.get? "rules" = other at *
  cases h with
  | missing => exact .inl ⟨_, rfl, rfl⟩
  | text s => exact .inl ⟨_, rfl, rfl⟩
  | array hitems => exact .inr ⟨_, _, rfl, rfl, hitems⟩

/-- Records with the same kind and, one by one, the same rules are compiled to the same set or have
the same fault, whatever other fields they have, whatever other fields their rules have and in
whatever order the fields are. The prefix has to be the same only where they declare a general
set. -/
theorem compile_of_agree (build : String → Option Regex) (a b : Record)
    (htype : a.get? "type" = b.get? "type")
    (hleading : Declares a .general → a.get? "prefix" = b.get? "prefix")
    (hrules : ValuesAgree ruleKeys (a.get? "rules") (b.get? "rules")) :
    compileWith build a = compileWith build b := by
  rw [compileWith, compileWith, ← kindOf_congr htype]
  cases hkind : kindOf a with
  | error e => rfl
  | ok k =>
    rcases rulesOf_of_agree hrules with ⟨e, ha, hb⟩ | ⟨items, more, ha, hb, hitems⟩
    · rw [ha, hb]
    · rw [ha, hb]
      refine compileKind_congr (fun hk => hleading ?_) hitems
      rw [hk] at hkind
      exact kindOf_eq_ok_iff.mp hkind

/-- Two records of a general set have different other fields, in different orders, and so have
their rules. The source of the second rule is refused in both. Two records of a list have the same
rules, and only one of them has a prefix. -/
theorem compile_of_agree_reordered :
    let first : Record := .ofList [("type", .text "general"), ("prefix", .text "^(.)="),
      ("rules", .array [
        .record [("src", .text "b"), ("note", .text "n"), ("until", .text "e")],
        .record [("tag", .array []), ("src", .text "(")]])]
    let second : Record := .ofList [("rules", .array [
        .record [("until", .text "e"), ("src", .text "b")],
        .record [("src", .text "("), ("rules", .text ""), ("tag", .array [])]]),
      ("prefix", .text "^(.)="), ("name", .text "x"), ("type", .text "general")]
    let list : Record := .ofList [("type", .text ""), ("rules", .array [.text "a"])]
    let other : Record := .ofList [("rules", .array [.text "a"]), ("type", .text ""),
      ("prefix", .text "(")]
    compile first = compile second ∧ compile first = .error (.invalidSourcePattern "(") ∧
      compile list = compile other ∧ (compile list).isOk = true := by
  intro first second list other
  have hrules : ValuesAgree ruleKeys (first.get? "rules") (second.get? "rules") := by
    refine .array (.cons (agree_of_perm ?_ ?_) (.cons (agree_of_perm ?_ ?_) .nil))
    · exact .swap _ _ _
    · decide
    · exact .swap _ _ _
    · decide
  have hlist : kindOf list = .ok .patternList := rfl
  have hnone : ¬ Declares list .general := by
    intro h
    rw [← kindOf_eq_ok_iff, hlist] at h
    cases h
  refine ⟨compile_of_agree _ first second rfl (fun _ => rfl) hrules, ?_, ?_, ?_⟩
  · rfl
  · exact compile_of_agree _ list other rfl (fun h => absurd h hnone) (.array (.cons (.text _) .nil))
  · decide +kernel

end LineSieve.Rule
