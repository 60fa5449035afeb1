import LineSieve.Stream.Basic

/-!
# The lines of a source

The lines of bytes are what stands between line feeds, each without a carriage return at its
end; behind the last line feed there is a line only if there are bytes. A source that
fails has only the lines that were ended before. `map_chomp_rawLines` shows that a source
gives these lines however its bytes are cut into chunks.
-/

namespace LineSieve.Text

open Utf8 (Byte)

/-! ### Lines between line feeds -/

/-- The pieces between line feeds that are ended by one. -/
def endedPieces (bytes : List Byte) : List (List Byte) := (bytes.splitOn lineFeed).dropLast

/-- What stands behind the last line feed. -/
def lastPiece (bytes : List Byte) : List Byte := (bytes.splitOn lineFeed).getLast?.getD []

/-- The pieces between line feeds, without an empty one at the end. -/
def pieces (bytes : List Byte) : List (List Byte) :=
  if lastPiece bytes = [] then endedPieces bytes else endedPieces bytes ++ [lastPiece bytes]

theorem cutChunk_append (line xs ys : List Byte) :
    cutChunk line (xs ++ ys) =
      ((cutChunk line xs).1 ++ (cutChunk (cutChunk line xs).2 ys).1,
        (cutChunk (cutChunk line xs).2 ys).2) := by
  induction xs generalizing line with
  | nil => rfl
  | cons b rest ih =>
    by_cases hb : b = lineFeed
    · simp [cutChunk, hb, ih]
    · simp [cutChunk, hb, ih]

/-- Where chunks end does not matter. -/
theorem cutChunks_eq (line : List Byte) (chunks : List (List Byte)) :
    cutChunks line chunks =
      ((cutChunk line chunks.flatten).1, (cutChunk line chunks.flatten).2.reverse) := by
  induction chunks generalizing line with
  | nil => rfl
  | cons chunk rest ih => simp [cutChunks, ih, cutChunk_append]

/-- The pieces of bytes that go on where a line has been begun. -/
theorem cutChunk_eq (line bytes : List Byte) :
    cutChunk line bytes =
      (((bytes.splitOn lineFeed).modifyHead (line.reverse ++ ·)).dropLast.map (· ++ [lineFeed]),
        (((bytes.splitOn lineFeed).modifyHead (line.reverse ++ ·)).getLast?.getD
          []).reverse) := by
  induction bytes generalizing line with
  | nil => simp [cutChunk]
  | cons b rest ih =>
    obtain ⟨first, more, hrest⟩ :=
      List.exists_cons_of_ne_nil (List.splitOn_ne_nil lineFeed rest)
    by_cases hb : b = lineFeed
    · simp [cutChunk, hb, ih, List.splitOn_cons_eq_if_modifyHead, hrest]
    · simp [cutChunk, hb, ih, List.splitOn_cons_eq_if_modifyHead, hrest]

theorem cutChunk_nil_eq (bytes : List Byte) :
    cutChunk [] bytes =
      ((endedPieces bytes).map (· ++ [lineFeed]), (lastPiece bytes).reverse) := by
  have hid : (bytes.splitOn lineFeed).modifyHead ([] ++ ·) = bytes.splitOn lineFeed := by
    cases bytes.splitOn lineFeed <;> simp
  rw [cutChunk_eq, List.reverse_nil, hid]
  rfl

theorem not_mem_lastPiece (bytes : List Byte) : lineFeed ∉ lastPiece bytes := by
  unfold lastPiece
  induction bytes with
  | nil => simp
  | cons b rest ih =>
    obtain ⟨first, more, hrest⟩ :=
      List.exists_cons_of_ne_nil (List.splitOn_ne_nil lineFeed rest)
    rw [hrest] at ih
    rw [List.splitOn_cons_eq_if_modifyHead, hrest]
    by_cases hb : b = lineFeed
    · simpa [hb] using ih
    · cases more with
      | nil => simpa [hb, Ne.symm hb] using ih
      | cons second more => simpa [hb] using ih

theorem dropLastByte_append (b : Byte) (bytes : List Byte) :
    dropLastByte b (bytes ++ [b]) = bytes := by
  simp [dropLastByte]

theorem chomp_append_lineFeed (piece : List Byte) :
    chomp (piece ++ [lineFeed]) = dropLastByte carriageReturn piece := by
  rw [chomp, dropLastByte_append]

theorem chomp_of_not_mem {piece : List Byte} (h : lineFeed ∉ piece) :
    chomp piece = dropLastByte carriageReturn piece := by
  have hlast : piece.getLast? ≠ some lineFeed := fun he => h (List.mem_of_getLast? he)
  have hid : dropLastByte lineFeed piece = piece := if_neg hlast
  rw [chomp, hid]

end LineSieve.Text

namespace LineSieve.Stream

open Text

/-- The lines of a source without their ends. -/
def Source.contents (s : Source) : List (List Utf8.Byte) :=
  (if s.fault.isSome then endedPieces s.bytes else pieces s.bytes).map
    (dropLastByte carriageReturn)

theorem Source.map_chomp_rawLines (s : Source) : s.rawLines.map chomp = s.contents := by
  have hended : ((endedPieces s.bytes).map (· ++ [lineFeed])).map chomp =
      (endedPieces s.bytes).map (dropLastByte carriageReturn) := by
    rw [List.map_map]
    exact List.map_congr_left fun piece _ => chomp_append_lineFeed piece
  have hlast := chomp_of_not_mem (not_mem_lastPiece s.bytes)
  have hcut : cutChunks [] s.chunks =
      ((endedPieces s.bytes).map (· ++ [lineFeed]), lastPiece s.bytes) := by
    rw [cutChunks_eq, show s.chunks.flatten = s.bytes from rfl, cutChunk_nil_eq,
      List.reverse_reverse]
  cases hf : s.fault.isSome with
  | true => simpa [rawLines, contents, hcut, hf] using hended
  | false =>
    by_cases he : lastPiece s.bytes = []
    · simpa [rawLines, contents, pieces, hcut, hf, he] using hended
    · simp only [rawLines, contents, pieces, hcut, hf, he, List.isEmpty_eq_false_iff.mpr he,
        Bool.or_self, Bool.false_eq_true, if_false, List.map_append, hended, List.map_cons,
        List.map_nil, hlast]

end LineSieve.Stream
