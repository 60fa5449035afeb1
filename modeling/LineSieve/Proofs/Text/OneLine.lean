import LineSieve.Proofs.Text.LineBytes
import LineSieve.Proofs.Text.Trimming
import LineSieve.Text.Layout

/-!
# Texts on one line

A text without a line feed stays one when a part of it is taken, when it is trimmed or padded and
when such texts are put together. The lines of a text are of this kind.
-/

namespace LineSieve.Text

/-- No line feed is in a text. -/
def OneLine (s : String) : Prop := '\n' ∉ s.toList

instance (s : String) : Decidable (OneLine s) := inferInstanceAs (Decidable ('\n' ∉ s.toList))

variable {s t : String} {cs : List Char}

theorem oneLine_iff_encode : OneLine s ↔ lineFeed ∉ Utf8.encode s :=
  not_congr lineFeed_mem_encodeChars_iff.symm

theorem oneLine_ofList_iff : OneLine (String.ofList cs) ↔ '\n' ∉ cs := by
  rw [OneLine, String.toList_ofList]

theorem oneLine_empty : OneLine "" := oneLine_ofList_iff.mpr List.not_mem_nil

theorem oneLine_space : OneLine " " := by decide

theorem OneLine.part (h : OneLine s) (hcs : cs ⊆ s.toList) : OneLine (String.ofList cs) :=
  oneLine_ofList_iff.mpr fun hmem => h (hcs hmem)

theorem OneLine.append (hs : OneLine s) (ht : OneLine t) : OneLine (s ++ t) := by
  rw [OneLine, String.toList_append, List.mem_append, not_or]
  exact ⟨hs, ht⟩

theorem oneLine_join {texts : List String} (h : ∀ t ∈ texts, OneLine t) :
    OneLine (String.join texts) := by
  rw [OneLine, String.toList_join, List.mem_flatMap]
  rintro ⟨t, ht, hmem⟩
  exact h t ht hmem

theorem OneLine.padLeft (h : OneLine s) (width : Nat) : OneLine (padLeft s width) := by
  rw [Text.padLeft, oneLine_ofList_iff, List.mem_append, not_or]
  refine ⟨fun hmem => ?_, h⟩
  have hspace : '\n' = ' ' := List.eq_of_mem_replicate hmem
  cases hspace

/-! ### Trimming -/

theorem trimChars_subset (cs : List Char) : trimChars cs ⊆ cs := fun _ h =>
  (List.dropWhile_sublist isBlank).subset ((trimEnd_isPrefix _).subset h)

theorem OneLine.trim (h : OneLine s) : OneLine (trim s) := h.part (trimChars_subset s.toList)

/-! ### Lines of a text -/

theorem not_mem_of_mem_linesFrom {line piece : List Char} (hline : '\n' ∉ line)
    (h : piece ∈ linesFrom line cs) : '\n' ∉ piece := by
  induction cs generalizing line with
  | nil =>
    unfold linesFrom at h
    split_ifs at h
    · cases h
    · rw [List.mem_singleton.mp h, List.mem_reverse]
      exact hline
  | cons c rest ih =>
    unfold linesFrom at h
    split_ifs at h with hc
    · rcases List.mem_cons.mp h with rfl | h
      · split
        · next before =>
          rw [List.mem_reverse]
          exact fun hmem => hline (List.mem_cons_of_mem _ hmem)
        · rwa [List.mem_reverse]
      · exact ih List.not_mem_nil h
    · exact ih (List.not_mem_cons_of_ne_of_not_mem (Ne.symm hc) hline) h

theorem oneLine_of_mem_lines {text line : String} (h : line ∈ lines text) : OneLine line := by
  obtain ⟨cs, hcs, rfl⟩ := List.mem_map.mp h
  exact oneLine_ofList_iff.mpr (not_mem_of_mem_linesFrom List.not_mem_nil hcs)

end LineSieve.Text
