import LineSieve.Proofs.Stream.Lines
import LineSieve.Proofs.Text.Splitting
import LineSieve.Proofs.Text.Utf8

/-!
# Texts as lines of bytes

A text without a line feed can be written as a line, and what stands between the line feeds of
lines that were written are the texts again. A carriage return at the end of a text is the last of
its bytes.
-/

namespace LineSieve.Text

open Utf8 (Byte)

/-! ### Line feeds in a text -/

theorem lineFeed_mem_encodeChars_iff {cs : List Char} :
    lineFeed ∈ Utf8.encodeChars cs ↔ '\n' ∈ cs := by
  rw [Utf8.encodeChars, List.mem_flatMap]
  constructor
  · rintro ⟨c, hc, hb⟩
    have hfeed : c = '\n' := Char.toNat_inj.mp (Utf8.encodeChar_of_mem (by decide) hb)
    rwa [← hfeed]
  · intro h
    exact ⟨'\n', h, by decide⟩

/-! ### Texts as lines -/

/-- The bytes of texts, each as a line. -/
def lineBytes (texts : List String) : List Byte :=
  texts.flatMap fun text => Utf8.encode text ++ [lineFeed]

theorem lineBytes_cons (text : String) (rest : List String) :
    lineBytes (text :: rest) = Utf8.encode text ++ lineFeed :: lineBytes rest := by
  rw [lineBytes, List.flatMap_cons, List.append_assoc]
  rfl

theorem length_lineBytes_cons (text : String) (rest : List String) :
    (lineBytes (text :: rest)).length =
      (Utf8.encode text).length + 1 + (lineBytes rest).length := by
  rw [lineBytes_cons, List.length_append, List.length_cons]
  omega

theorem length_lineBytes_of_sublist {texts more : List String} (h : texts.Sublist more) :
    (lineBytes texts).length ≤ (lineBytes more).length := by
  induction h with
  | slnil => exact Nat.le_refl _
  | cons text _ ih =>
    rw [length_lineBytes_cons]
    omega
  | cons_cons text _ ih =>
    rw [length_lineBytes_cons, length_lineBytes_cons]
    omega

theorem splitOn_lineBytes {texts : List String} (h : ∀ t ∈ texts, lineFeed ∉ Utf8.encode t) :
    (lineBytes texts).splitOn lineFeed = texts.map Utf8.encode ++ [[]] := by
  induction texts with
  | nil => simp [lineBytes]
  | cons text rest ih =>
    rw [List.forall_mem_cons] at h
    rw [lineBytes_cons, List.splitOn_append_cons_self_of_not_mem h.1, ih h.2, List.map_cons,
      List.cons_append]

/-- Texts without line feeds, as lines, are the pieces between the line feeds. -/
theorem pieces_lineBytes {texts : List String} (h : ∀ t ∈ texts, lineFeed ∉ Utf8.encode t) :
    pieces (lineBytes texts) = texts.map Utf8.encode := by
  have hsplit := splitOn_lineBytes h
  have hlast : lastPiece (lineBytes texts) = [] := by
    rw [lastPiece, hsplit, List.getLast?_concat, Option.getD_some]
  rw [pieces, if_pos hlast, endedPieces, hsplit, List.dropLast_concat]

theorem not_mem_of_mem_pieces {bytes piece : List Byte} (h : piece ∈ pieces bytes) :
    lineFeed ∉ piece := by
  unfold pieces at h
  split_ifs at h with hlast
  · exact not_mem_of_mem_splitOn (List.dropLast_subset _ h)
  · rw [List.mem_append, List.mem_singleton] at h
    rcases h with h | rfl
    · exact not_mem_of_mem_splitOn (List.dropLast_subset _ h)
    · exact not_mem_lastPiece bytes

/-! ### Carriage returns -/

/-- A text without a carriage return at its end. -/
def dropReturn (s : String) : String :=
  if s.toList.getLast? = some '\r' then String.ofList s.toList.dropLast else s

theorem dropLastByte_eq_self_iff {b : Byte} {bytes : List Byte} :
    dropLastByte b bytes = bytes ↔ bytes.getLast? ≠ some b := by
  unfold dropLastByte
  split_ifs with h
  · refine ⟨fun heq => ?_, fun hne => absurd h hne⟩
    have hlength := congrArg List.length heq
    rw [List.length_dropLast] at hlength
    have hnil : bytes = [] := List.eq_nil_of_length_eq_zero (by omega)
    simp [hnil]
  · exact ⟨fun _ => h, fun _ => rfl⟩

theorem length_dropLastByte_lt {b : Byte} {bytes : List Byte} (h : bytes.getLast? = some b) :
    (dropLastByte b bytes).length < bytes.length := by
  have hne : bytes ≠ [] := by
    rintro rfl
    cases h
  have hpos := List.length_pos_of_ne_nil hne
  rw [dropLastByte, if_pos h, List.length_dropLast]
  omega

theorem length_dropLastByte_le (b : Byte) (bytes : List Byte) :
    (dropLastByte b bytes).length ≤ bytes.length := by
  by_cases h : bytes.getLast? = some b
  · exact Nat.le_of_lt (length_dropLastByte_lt h)
  · exact Nat.le_of_eq (congrArg List.length (dropLastByte_eq_self_iff.mpr h))

/-- The bytes of a text end with a carriage return only where the text does. -/
theorem encode_dropReturn (s : String) :
    Utf8.encode (dropReturn s) = dropLastByte carriageReturn (Utf8.encode s) := by
  unfold dropReturn
  split_ifs with h
  · have hs : s.toList = s.toList.dropLast ++ ['\r'] := by
      rw [← List.dropLast_append_getLast? '\r' h]
      simp
    rw [Utf8.encode, Utf8.encode, String.toList_ofList]
    conv_rhs => rw [hs]
    rw [Utf8.encodeChars_append]
    exact (dropLastByte_append carriageReturn _).symm
  · symm
    rw [dropLastByte_eq_self_iff]
    intro hlast
    rcases List.eq_nil_or_concat' s.toList with hnil | ⟨cs, c, hs⟩
    · simp [Utf8.encode, hnil, Utf8.encodeChars] at hlast
    · rw [Utf8.encode, hs, Utf8.encodeChars_append] at hlast
      have hne : Utf8.encodeChars [c] ≠ [] := by
        rw [Utf8.encodeChars, List.flatMap_singleton]
        exact String.utf8EncodeChar_ne_nil
      rw [List.getLast?_append_of_ne_nil _ hne, Utf8.encodeChars, List.flatMap_singleton] at hlast
      have hc := Utf8.encodeChar_of_mem (by decide) (List.mem_of_getLast? hlast)
      have hr : c = '\r' := Char.toNat_inj.mp hc
      exact h (by rw [hs, hr, List.getLast?_concat])

end LineSieve.Text
