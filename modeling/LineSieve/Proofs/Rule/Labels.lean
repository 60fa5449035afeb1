import LineSieve.Proofs.Markup.Holding
import LineSieve.Proofs.Rule.Compiling

/-!
# Labels from markup

The template, the tag and the flag of a rule come into the output as they stand in the
configuration. Markup has no way to put a line feed into a text, so rules from markup have none
in them.
-/

namespace LineSieve.Rule

open Text (OneLine)

/-- What a rule puts into the output holds no line feed. -/
structure General.IsPlain (rule : General) : Prop where
  template : ∀ t, rule.template = some t → OneLine t
  tag : ∀ t, rule.tag = some t → OneLine t
  flag : ∀ t, rule.flag = some t → OneLine t

/-- No rule puts a line feed into the output. -/
def Set.IsPlain : Set → Prop
  | .texts _ _ | .patterns _ _ => True
  | .general g => ∀ rule ∈ g.rules, rule.IsPlain

theorem Set.isPlain_of_kind {set : Set} (h : set.kind ≠ .general) : set.IsPlain := by
  cases set with
  | texts _ _ | patterns _ _ => trivial
  | general _ => exact absurd rfl h

variable {build : String → Option Regex} {fields : List (String × Value)} {rule : General}

theorem IsRuleOf.isPlain (h : IsRuleOf build ⟨fields⟩ rule)
    (hfields : Markup.Lexicon.oneLine.IsFields fields) : rule.IsPlain where
  template t ht := hfields.value_of_get? ((h.template t).mp ht).1
  tag t ht := hfields.value_of_get? ((h.tag t).mp ht)
  flag t ht := hfields.value_of_get? ((h.flag t).mp ht)

theorem isPlain_of_compileWith {r : Record} {set : Set}
    (hr : Markup.Lexicon.oneLine.IsRecord r) (h : compileWith build r = .ok set) :
    set.IsPlain := by
  obtain ⟨-, items, hitems, -, hbody⟩ := compileWith_eq_ok_iff.mp h
  cases set with
  | texts _ _ | patterns _ _ => trivial
  | general g =>
    intro rule hrule
    obtain ⟨n, hn, rfl⟩ := List.getElem_of_mem hrule
    have hlt : n < items.length := hbody.2.length_eq ▸ hn
    obtain ⟨fields, hitem, hof⟩ := hbody.2.get hlt hn
    have hmem : .record fields ∈ items := hitem ▸ List.get_mem items ⟨n, hlt⟩
    have hvalue := hr.values _ (Entries.mem_of_lookup hitems)
    exact hof.isPlain (hvalue.isFields_of_mem hmem)

/-- A configuration in markup compiles to plain rules. -/
theorem isPlain_of_compile_read {text : String} {set : Set}
    (h : compile (Markup.read text) = .ok set) : set.IsPlain :=
  isPlain_of_compileWith (Markup.isRecord_read text) h

end LineSieve.Rule
