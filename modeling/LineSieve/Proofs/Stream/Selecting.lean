import LineSieve.Proofs.Session.Stateless
import LineSieve.Proofs.Stream.Sessions

/-!
# Selecting by rules and by patterns

A general set without state and the list of its sources keep the same lines of a text. They read
the same lines of every source, so they keep the same lines of every stream.
-/

namespace LineSieve.Stream

open Rule

/-- A general set without a prefix pattern and without until patterns keeps the same lines of every
stream as the list of the sources of its rules, with the same counts, and fails where the list
fails. If its rules have no templates, tags and flags, each line that it writes is the line of the
list behind eleven spaces. Patterns that are all accepted are compiled to such sets. -/
theorem general_selects_as_patterns :
    (∀ (members : List Regex) (g : GeneralRules), g.SelectsBy members → ∀ source : Source,
      ∃ texts, KeepAlike (.general g) (.patterns false members) source texts ∧
        ((∀ rule ∈ g.rules, rule.IsBare) →
          Session.outputs (.general g) texts =
            (Session.outputs (.patterns false members) texts).map
              (Option.map (String.ofList (List.replicate 11 ' ') ++ ·)))) ∧
    ∀ (build : String → Option Regex) (patterns : List String) (list general : Record),
      (∀ p ∈ patterns, build p ≠ none) → ListsPatterns patterns list →
      RulesByPatterns patterns general →
      ∃ members g, compileWith build list = .ok (.patterns false members) ∧
        compileWith build general = .ok (.general g) ∧ g.SelectsBy members := by
  refine ⟨fun members g hg source => ?_, fun build patterns list general => exists_selectsBy⟩
  obtain ⟨texts, fault, hreads⟩ := exists_reads source
  exact ⟨texts, hreads.keepAlike (Session.places_of_selectsBy hg texts),
    fun hbare => Session.outputs_of_bare hg hbare texts⟩

/-- Two rules without labels keep two of three lines. For an empty pattern, too, the records of both
kinds are compiled. -/
theorem general_selects_as_patterns_two_rules :
    let rules := (compileRulesFrom Regex.parse? 0
      [.record [("src", .text "^a")], .record [("src", .text "b")]]).toOption.getD []
    let g : GeneralRules := ⟨none, rules⟩
    let list : Rule.Set := .patterns false (rules.map General.source)
    let patterns := ["", "b"]
    let record (kind : String) (items : List Item) : Record :=
      .ofList [("type", .text kind), ("rules", .array items)]
    (∃ texts, KeepAlike (.general g) list ⟨[[97, 98, 13], [10, 120, 10, 98]], none⟩ texts ∧
      Session.outputs (.general g) texts =
        (Session.outputs list texts).map
          (Option.map (String.ofList (List.replicate 11 ' ') ++ ·))) ∧
      Session.outputs (.general g) ["ab", "x", "b"] =
        [some "           ab", none, some "           b"] ∧
      ∃ members g, compile (record "regexlist" (patterns.map .text)) = .ok (.patterns false members) ∧
        compile (record "general" [.record [("src", .text "")],
          .record [("flag", .text "F"), ("src", .text "b")]]) = .ok (.general g) ∧
        g.SelectsBy members := by
  intro rules g list patterns record
  obtain ⟨hsets, hrecords⟩ := general_selects_as_patterns
  have hselects : g.SelectsBy (rules.map General.source) := ⟨rfl, rfl, by decide +kernel⟩
  have hlabels : ∀ rule ∈ g.rules, rule.template = none ∧ rule.tag = none ∧ rule.flag = none := by
    decide +kernel
  obtain ⟨texts, halike, houtputs⟩ := hsets _ g hselects ⟨[[97, 98, 13], [10, 120, 10, 98]], none⟩
  refine ⟨⟨texts, halike, houtputs fun rule hrule => ?_⟩, by decide +kernel, ?_⟩
  · obtain ⟨htemplate, htag, hflag⟩ := hlabels rule hrule
    exact ⟨htemplate, htag, hflag⟩
  · refine hrecords Regex.parse? patterns _ _ ?_ ⟨?_, rfl⟩ ⟨?_, ?_, _, rfl, ?_⟩
    · have haccepted : ∀ p ∈ patterns, (Regex.parse? p).isSome = true := by decide +kernel
      exact fun p hp => Option.isSome_iff_ne_none.mp (haccepted p hp)
    · exact .named ⟨rfl, by decide⟩ .patternList
    · exact .named ⟨rfl, by decide⟩ .general
    · rintro p ⟨hp, -⟩
      cases hp
    · have hsource : ∀ pattern fields, Record.get? ⟨fields⟩ "src" = some (.text pattern) →
          Record.get? ⟨fields⟩ "until" = none → IsSourceRule pattern (.record fields) :=
        fun pattern fields hsrc huntil => ⟨fields, rfl, hsrc, fun p hp => by
          rw [Names, huntil] at hp
          cases hp.1⟩
      exact .cons (hsource _ _ rfl rfl) (.cons (hsource _ _ rfl rfl) .nil)

end LineSieve.Stream
