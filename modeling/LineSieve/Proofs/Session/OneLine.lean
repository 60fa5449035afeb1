import LineSieve.Proofs.Rule.Labels
import LineSieve.Proofs.Session.Validity

/-!
# Outputs on one line

What is written for a line consists of parts of the line and of texts of the winning rule and the
flag, which comes from a rule that won before. With plain rules all of these are without line
feeds, so each output is one line. The flag stays so behind any line, also behind one that has a
line feed in it, as no part of a line gets into it.
-/

namespace LineSieve.Regex

variable {line text : List Char}

/-! ### Groups -/

theorem piece_subset (line : List Char) (start stop : Nat) : piece line start stop ⊆ line :=
  ((List.take_sublist _ _).trans (List.drop_sublist start line)).subset

theorem subset_of_mem_piecesOf {slots : Slots} (h : some text ∈ piecesOf line slots) :
    text ⊆ line := by
  induction slots using piecesOf.induct with
  | case1 start stop rest ih =>
    rcases List.mem_cons.mp h with h | h
    · split at h
      · cases h
        exact piece_subset line _ _
      · cases h
    · exact ih h
  | case2 slots hshort =>
    rw [piecesOf.eq_3 line slots hshort] at h
    cases h

/-- What a group holds is a part of the line. -/
theorem subset_of_captures {r : Regex} {groups : List (Option (List Char))}
    (h : r.captures line = some groups) (hmem : some text ∈ groups) : text ⊆ line := by
  obtain ⟨slots, -, rfl⟩ := Option.map_eq_some_iff.mp h
  exact subset_of_mem_piecesOf hmem

end LineSieve.Regex

namespace LineSieve.Session

open Rule
open Text (OneLine)

variable {groups : List (Option (List Char))} {line fields content : String} {s : Session}
  {g : GeneralRules} {rules : Rule.Set}

/-! ### Parts of an output -/

theorem oneLine_groupText {r : Regex} (hline : OneLine line)
    (h : r.captures line.toList = some groups) : ∀ g ∈ groups, OneLine (groupText g) := by
  intro g hg
  cases g with
  | none => exact Text.oneLine_empty
  | some text => exact hline.part (Regex.subset_of_captures h hg)

theorem oneLine_prefixFields (h : ∀ g ∈ groups, OneLine (groupText g)) :
    OneLine (prefixFields groups) := by
  refine Text.oneLine_join fun t ht => ?_
  obtain ⟨g, hg, rfl⟩ := List.mem_map.mp ht
  exact ((h g hg).padLeft groupWidth).append Text.oneLine_space

theorem oneLine_splitPrefix (h : ∀ g ∈ groups, OneLine (groupText g)) :
    OneLine (splitPrefix groups).1 ∧ OneLine (splitPrefix groups).2 := by
  constructor
  · refine oneLine_prefixFields fun g hg => h g ?_
    exact List.drop_subset 1 groups (List.dropLast_subset _ hg)
  · refine Text.OneLine.trim ?_
    cases hlast : groups.getLast? with
    | none => exact Text.oneLine_empty
    | some g => exact h g (List.mem_of_getLast? hlast)

theorem oneLine_of_contentOf (hline : OneLine line)
    (h : contentOf g line = some (fields, content)) : OneLine fields ∧ OneLine content := by
  unfold contentOf at h
  split at h
  · cases h
    exact ⟨Text.oneLine_empty, hline⟩
  · obtain ⟨groups, hgroups, hsplit⟩ := Option.map_eq_some_iff.mp h
    have hboth := oneLine_splitPrefix (oneLine_groupText hline hgroups)
    rwa [hsplit] at hboth

theorem oneLine_render {rule : General} (hrule : rule.IsPlain) (hcontent : OneLine content)
    (hgroups : ∀ g ∈ groups, OneLine (groupText g)) : OneLine (render rule groups content) := by
  unfold render
  split
  · exact hcontent
  · next template htemplate =>
    refine (hrule.template template htemplate).append (Text.oneLine_join fun t ht => ?_)
    obtain ⟨g, hg, rfl⟩ := List.mem_map.mp ht
    exact Text.oneLine_space.append (hgroups g (List.drop_subset 1 groups hg))

theorem oneLine_outputLine {flag tag shown : String} (hfields : OneLine fields)
    (hflag : OneLine flag) (htag : OneLine tag) (hshown : OneLine shown) :
    OneLine (outputLine fields flag tag shown) := by
  have hspaced : ∀ {a b : String}, OneLine a → OneLine b → OneLine (a ++ " " ++ b) :=
    fun ha hb => (ha.append Text.oneLine_space).append hb
  exact hspaced (hspaced (hspaced hfields (hflag.padLeft _)) (htag.padLeft _)) hshown

/-! ### Steps -/

/-- The rule that wins a line sets the flag or leaves it as it was. -/
theorem oneLine_flag_of_rule {rule : General} (hrule : rule.IsPlain) (hflag : OneLine s.flag) :
    OneLine (rule.flag.getD s.flag) := by
  cases hset : rule.flag with
  | none => exact hflag
  | some flag => exact hrule.flag flag hset

theorem oneLine_flag_step (hrules : rules.IsPlain) (hflag : OneLine s.flag) (line : String) :
    OneLine (s.step rules line).2.flag := by
  rcases flag_step rules s line with hold | ⟨g, w, rfl, hw, hset⟩
  · rw [hold]
    exact hflag
  · exact (hrules w.rule (List.mem_of_getElem? hw.rule_at)).flag _ hset

theorem oneLine_output_step {output : String} (hrules : rules.IsPlain)
    (hflag : OneLine s.flag) (hline : OneLine line)
    (h : (s.step rules line).1 = some output) : OneLine output := by
  cases rules with
  | texts _ _ | patterns _ _ =>
    simp only [step, Option.ite_none_right_eq_some, Option.some.injEq] at h
    rw [← h.2]
    exact hline
  | general g =>
    rw [step] at h
    cases hregion : s.region with
    | some index =>
      rw [stepGeneral_of_region hregion] at h
      cases h
      exact hline
    | none =>
      rcases unmatched_or_wins g line with hu | ⟨w, hw⟩
      · rw [stepGeneral_of_unmatched hregion hu] at h
        cases h
      · rw [stepGeneral_of_wins hregion hw] at h
        cases h
        have hrule := hrules w.rule (List.mem_of_getElem? hw.rule_at)
        obtain ⟨hfields, hcontent⟩ := oneLine_of_contentOf hline hw.content_eq
        have htag : OneLine (w.rule.tag.getD "") := by
          cases htag : w.rule.tag with
          | none => exact Text.oneLine_empty
          | some tag => exact hrule.tag tag htag
        exact oneLine_outputLine hfields (oneLine_flag_of_rule hrule hflag) htag
          (oneLine_render hrule hcontent (oneLine_groupText hcontent hw.groups_eq))

theorem oneLine_flag_steps (hrules : rules.IsPlain) (hflag : OneLine s.flag)
    (lines : List String) : OneLine (s.steps rules lines).2.flag := by
  induction lines generalizing s with
  | nil => exact hflag
  | cons line rest ih => exact ih (oneLine_flag_step hrules hflag line)

end LineSieve.Session
