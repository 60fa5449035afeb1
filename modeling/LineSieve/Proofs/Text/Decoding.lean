import LineSieve.Proofs.Text.LineBytes

/-!
# Lines of decoded texts

Bytes can be decoded as a whole and then cut into lines, or cut into lines that are then decoded
one by one. A line feed is a byte of its own in UTF-8, so both come to the same: the lines are the
same texts, and all of them can be decoded exactly if the whole can (`decodes_iff_lines`).
-/

namespace LineSieve.Text

open Utf8 (Byte)

/-! ### Line feeds and carriage returns as bytes -/

theorem encodeChars_lineFeed : Utf8.encodeChars ['\n'] = [lineFeed] := rfl

theorem chompEnd_append_lineFeed (piece : List Byte) :
    chompEnd (piece ++ [lineFeed]) = dropLastByte carriageReturn piece := by
  simp [chompEnd]

theorem chompEnd_of_not_mem {piece : List Byte} (h : lineFeed ∉ piece) :
    chompEnd piece = piece := by
  have hlast : piece.getLast? ≠ some lineFeed := fun he => h (List.mem_of_getLast? he)
  rw [chompEnd, if_neg hlast]

/-- What is removed from a raw line is text. -/
theorem exists_append_chompEnd (raw : List Byte) :
    ∃ ends, raw = chompEnd raw ++ Utf8.encodeChars ends := by
  by_cases hfeed : raw.getLast? = some lineFeed
  · obtain ⟨piece, rfl⟩ := List.getLast?_eq_some_iff.mp hfeed
    rw [chompEnd_append_lineFeed]
    by_cases hreturn : piece.getLast? = some carriageReturn
    · obtain ⟨before, rfl⟩ := List.getLast?_eq_some_iff.mp hreturn
      refine ⟨['\r', '\n'], ?_⟩
      rw [dropLastByte_append, List.append_assoc]
      rfl
    · refine ⟨['\n'], ?_⟩
      rw [dropLastByte_eq_self_iff.mpr hreturn, encodeChars_lineFeed]
  · refine ⟨[], ?_⟩
    rw [chompEnd, if_neg hfeed, Utf8.encodeChars_nil, List.append_nil]

/-- The part of a line before its line feed, without a carriage return at its end. -/
theorem encodeChars_ended (before : List Char) :
    Utf8.encodeChars (match before with
      | '\r' :: more => more.reverse
      | _ => before.reverse) =
    dropLastByte carriageReturn (Utf8.encodeChars before.reverse) := by
  have hbytes := encode_dropReturn (String.ofList before.reverse)
  rw [Utf8.encode, Utf8.encode, String.toList_ofList] at hbytes
  rw [← hbytes, dropReturn, String.toList_ofList, List.getLast?_reverse]
  congr 1
  split
  · next more => simp
  · next hno =>
    have hhead : before.head? ≠ some '\r' := by
      intro he
      obtain ⟨more, hmore⟩ := List.head?_eq_some_iff.mp he
      exact hno more hmore
    rw [if_neg hhead, String.toList_ofList]

/-! ### Cutting before and behind decoding -/

theorem rawLinesFrom_append {xs : List Byte} (h : lineFeed ∉ xs) (line rest : List Byte) :
    rawLinesFrom line (xs ++ rest) = rawLinesFrom (xs.reverse ++ line) rest := by
  induction xs generalizing line with
  | nil => rfl
  | cons b more ih =>
    rw [List.mem_cons, not_or] at h
    have hmore := ih h.2 (b :: line)
    simp only [List.cons_append, rawLinesFrom, if_neg (Ne.symm h.1), hmore, List.reverse_cons,
      List.append_assoc, List.nil_append]

theorem map_chompEnd_rawLinesFrom {before : List Char} (h : '\n' ∉ before) (cs : List Char) :
    (rawLinesFrom (Utf8.encodeChars before.reverse).reverse (Utf8.encodeChars cs)).map chompEnd =
      (linesFrom before cs).map Utf8.encodeChars := by
  induction cs generalizing before with
  | nil =>
    have hfeed : lineFeed ∉ Utf8.encodeChars before.reverse := by
      rw [lineFeed_mem_encodeChars_iff, List.mem_reverse]
      exact h
    cases before with
    | nil => rfl
    | cons c more =>
      have hne : Utf8.encodeChars (c :: more).reverse ≠ [] := by
        rw [Ne, Utf8.encodeChars_eq_nil_iff, List.reverse_eq_nil_iff]
        exact List.cons_ne_nil c more
      have hsome : ¬ (Utf8.encodeChars (c :: more).reverse).reverse.isEmpty = true := by
        rwa [List.isEmpty_iff, List.reverse_eq_nil_iff]
      rw [Utf8.encodeChars_nil, rawLinesFrom, if_neg hsome, List.reverse_reverse]
      simp only [linesFrom, List.isEmpty_cons, Bool.false_eq_true, if_false, List.map_cons,
        List.map_nil]
      rw [chompEnd_of_not_mem hfeed]
  | cons c rest ih =>
    rw [Utf8.encodeChars_cons]
    by_cases hc : c = '\n'
    · have hrest := ih List.not_mem_nil
      rw [hc, show String.utf8EncodeChar '\n' = [lineFeed] from rfl, List.singleton_append]
      simp only [rawLinesFrom, linesFrom, if_true, List.reverse_cons, List.reverse_reverse,
        List.map_cons, chompEnd_append_lineFeed]
      exact congrArg₂ List.cons (encodeChars_ended before).symm hrest
    · have hfeed : lineFeed ∉ String.utf8EncodeChar c := by
        have hmem : lineFeed ∈ Utf8.encodeChars [c] ↔ '\n' ∈ [c] := lineFeed_mem_encodeChars_iff
        rw [Utf8.encodeChars_singleton, List.mem_singleton] at hmem
        exact fun hb => hc (hmem.mp hb).symm
      have hbefore : '\n' ∉ c :: before := List.not_mem_cons_of_ne_of_not_mem (Ne.symm hc) h
      have hstep : linesFrom before (c :: rest) = linesFrom (c :: before) rest := by
        simp only [linesFrom, if_neg hc]
      rw [rawLinesFrom_append hfeed, hstep, ← ih hbefore, List.reverse_cons,
        Utf8.encodeChars_append, List.reverse_append, Utf8.encodeChars_singleton]

/-- The raw lines of a text, without their ends, are the bytes of its lines. -/
theorem map_chompEnd_rawLines (text : String) :
    (rawLines (Utf8.encode text)).map chompEnd = (lines text).map Utf8.encode := by
  rw [lines, List.map_map, rawLines, Utf8.encode]
  refine (map_chompEnd_rawLinesFrom List.not_mem_nil text.toList).trans ?_
  exact List.map_congr_left fun cs _ => by
    rw [Function.comp_apply, Utf8.encode, String.toList_ofList]

/-! ### Decoding as a whole and line by line -/

theorem flatten_rawLinesFrom (line bytes : List Byte) :
    (rawLinesFrom line bytes).flatten = line.reverse ++ bytes := by
  induction bytes generalizing line with
  | nil => cases line <;> simp [rawLinesFrom]
  | cons b rest ih =>
    by_cases hb : b = lineFeed
    · simp [rawLinesFrom, hb, ih]
    · simp [rawLinesFrom, hb, ih]

theorem exists_encodeChars_flatten {raws : List (List Byte)}
    (h : ∀ raw ∈ raws, ∃ text, Utf8.decode (chompEnd raw) = .ok text) :
    ∃ cs, raws.flatten = Utf8.encodeChars cs := by
  induction raws with
  | nil => exact ⟨[], rfl⟩
  | cons raw rest ih =>
    obtain ⟨text, htext⟩ := h raw List.mem_cons_self
    obtain ⟨more, hmore⟩ := ih fun other hother => h other (List.mem_cons_of_mem raw hother)
    obtain ⟨ends, hends⟩ := exists_append_chompEnd raw
    refine ⟨text.toList ++ ends ++ more, ?_⟩
    rw [← Utf8.encode_of_decode htext] at hends
    rw [List.flatten_cons, hmore, Utf8.encodeChars_append, Utf8.encodeChars_append]
    exact congrArg (· ++ Utf8.encodeChars more) hends

/-- All lines can be decoded exactly if the whole can. -/
theorem decodes_iff_lines (bytes : List Byte) :
    (∃ text, Utf8.decode bytes = .ok text) ↔
      ∀ raw ∈ rawLines bytes, ∃ text, Utf8.decode (chompEnd raw) = .ok text := by
  constructor
  · rintro ⟨text, htext⟩ raw hraw
    rw [← Utf8.encode_of_decode htext] at hraw
    have hmem : chompEnd raw ∈ (lines text).map Utf8.encode := by
      rw [← map_chompEnd_rawLines]
      exact List.mem_map_of_mem hraw
    obtain ⟨line, -, hline⟩ := List.mem_map.mp hmem
    exact ⟨line, by rw [← hline, Utf8.decode_encode]⟩
  · intro h
    obtain ⟨cs, hcs⟩ := exists_encodeChars_flatten h
    rw [rawLines, flatten_rawLinesFrom, List.reverse_nil, List.nil_append] at hcs
    exact ⟨String.ofList cs, by
      rw [hcs, ← Utf8.decode_encode (String.ofList cs), Utf8.encode, String.toList_ofList]⟩

end LineSieve.Text
