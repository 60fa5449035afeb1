import LineSieve.Proofs.Results
import LineSieve.Proofs.Text.Decoding
import LineSieve.Record.Reading

/-!
# Markup in streams

Markup that comes as a stream is decoded line by line. If the bytes of the stream are the encoding
of a text, this gives the record and the notices of the text, wherever the chunks end; if they are
not, it is reported that some line could not be decoded.
-/

namespace LineSieve.Text

open Utf8 (Byte)

theorem rawLinesFrom_eq_cutChunk (line bytes : List Byte) :
    rawLinesFrom line bytes = (cutChunk line bytes).1 ++
      if (cutChunk line bytes).2.isEmpty then [] else [(cutChunk line bytes).2.reverse] := by
  induction bytes generalizing line with
  | nil => rfl
  | cons b rest ih =>
    by_cases hb : b = lineFeed
    · simp [rawLinesFrom, cutChunk, hb, ih]
    · simp [rawLinesFrom, cutChunk, hb, ih]

end LineSieve.Text

namespace LineSieve.Stream

/-- A source that does not fail gives the raw lines of its bytes. -/
theorem Source.rawLines_eq {source : Source} (h : source.fault = none) :
    source.rawLines = Text.rawLines source.bytes := by
  rw [Text.rawLines, Text.rawLinesFrom_eq_cutChunk,
    show source.bytes = source.chunks.flatten from rfl]
  simp only [Source.rawLines, Text.cutChunks_eq, h, Option.isSome_none, Bool.false_or,
    List.isEmpty_reverse]
  split
  · rw [List.append_nil]
  · rfl

end LineSieve.Stream

namespace LineSieve.Record

open LineSieve.Stream (Source)
open Markup (Scanner)

variable {source : Source} {text : String} {e : SystemError}

/-! ### Lines that could be had -/

theorem scanLines_ok (s : Scanner) (lines : List String) :
    scanLines s (lines.map .ok) = (.ok (s.feedAll lines).1, (s.feedAll lines).2) := by
  induction lines generalizing s with
  | nil => rfl
  | cons line rest ih => simp only [List.map_cons, scanLines, Scanner.feedAll, ih]

theorem ofMarkupLines_ok (lines : List String) :
    ofMarkupLines (lines.map .ok) =
      (.ok (Markup.readLines lines).1, (Markup.readLines lines).2) := by
  simp only [ofMarkupLines, scanLines_ok, Markup.readLines]

/-- Lines that a record is read from could all be had. -/
theorem exists_of_ofMarkupLines_eq_ok {lines : List (Except SystemError String)} {r : Record}
    (h : (ofMarkupLines lines).1 = .ok r) :
    ∃ texts : List String, lines = texts.map .ok ∧ r = (Markup.readLines texts).1 := by
  have hall : ∀ s s', (scanLines s lines).1 = .ok s' → ∃ texts : List String,
      lines = texts.map .ok := by
    clear h
    induction lines with
    | nil => exact fun _ _ _ => ⟨[], rfl⟩
    | cons line rest ih =>
      intro s s' hs
      cases line with
      | error e => cases hs
      | ok t =>
        obtain ⟨texts, rfl⟩ := ih (s.feed t).1 s' hs
        exact ⟨t :: texts, rfl⟩
  unfold ofMarkupLines at h
  split at h
  · cases h
  · next s notices heq =>
    obtain ⟨texts, rfl⟩ := hall .start s (by rw [heq])
    refine ⟨texts, rfl, ?_⟩
    have htexts := congrArg Prod.fst (ofMarkupLines_ok texts)
    simp only [ofMarkupLines, heq] at htexts
    exact (Except.ok.inj h).symm.trans (Except.ok.inj htexts)

theorem scanLines_eq_error {lines : List (Except SystemError String)} (s : Scanner)
    (hsome : ∃ line ∈ lines, line = .error e) (hall : ∀ f, .error f ∈ lines → f = e) :
    (scanLines s lines).1 = .error (.system e) := by
  induction lines generalizing s with
  | nil => simp at hsome
  | cons line rest ih =>
    cases line with
    | error f => rw [scanLines, hall f List.mem_cons_self]
    | ok t =>
      obtain ⟨line, hline, rfl⟩ := hsome
      have hrest : ∃ line ∈ rest, line = .error e := by
        rcases List.mem_cons.mp hline with hfirst | hrest
        · cases hfirst
        · exact ⟨_, hrest, rfl⟩
      exact ih (s.feed t).1 hrest fun f hf => hall f (List.mem_cons_of_mem _ hf)

/-! ### Streams -/

theorem sourceLines_eq (h : source.fault = none) :
    sourceLines source = (Text.rawLines source.bytes).map lineText := by
  rw [sourceLines, Source.rawLines_eq h, h, Option.toList_none, List.map_nil, List.append_nil]

theorem ofMarkupSource_of_decode (h : source.fault = none)
    (htext : Text.Utf8.decode source.bytes = .ok text) :
    ofMarkupSource source = (.ok (Markup.read text), (Markup.readLines (Text.lines text)).2) := by
  have hlines : (Text.rawLines source.bytes).map lineText =
      (Text.lines text).map Except.ok := by
    have hraw := congrArg
      (List.map fun bytes => (Text.Utf8.decode bytes).mapError fun _ => SystemError.invalidLines)
      (Text.map_chompEnd_rawLines text)
    rw [Text.Utf8.encode_of_decode htext, List.map_map, List.map_map] at hraw
    refine hraw.trans (List.map_congr_left fun line _ => ?_)
    rw [Function.comp_apply, Text.Utf8.decode_encode]
    rfl
  rw [ofMarkupSource, sourceLines_eq h, hlines, ofMarkupLines_ok, Markup.read]

theorem ofMarkupSource_of_not_decode {fault : Text.Utf8.Fault} (h : source.fault = none)
    (hfault : Text.Utf8.decode source.bytes = .error fault) :
    (ofMarkupSource source).1 = .error (.system .invalidLines) := by
  have hsome : ∃ raw ∈ Text.rawLines source.bytes, ∃ fault,
      Text.Utf8.decode (Text.chompEnd raw) = .error fault := by
    by_contra hnone
    have hall : ∀ raw ∈ Text.rawLines source.bytes, ∃ text,
        Text.Utf8.decode (Text.chompEnd raw) = .ok text := by
      intro raw hraw
      cases hd : Text.Utf8.decode (Text.chompEnd raw) with
      | ok text => exact ⟨text, rfl⟩
      | error fault => exact absurd ⟨raw, hraw, fault, hd⟩ hnone
    obtain ⟨text, htext⟩ := (Text.decodes_iff_lines source.bytes).mpr hall
    rw [hfault] at htext
    cases htext
  obtain ⟨raw, hraw, fault, hd⟩ := hsome
  have hline : lineText raw = .error .invalidLines := by
    rw [lineText, hd]
    rfl
  have hscan : (scanLines .start (sourceLines source)).1 = .error (.system .invalidLines) := by
    rw [sourceLines_eq h]
    refine scanLines_eq_error .start ⟨_, List.mem_map_of_mem hraw, hline⟩ ?_
    intro f hf
    obtain ⟨other, -, hother⟩ := List.mem_map.mp hf
    obtain ⟨_, -, heq⟩ := Results.mapError_eq_error_iff.mp hother
    exact heq
  unfold ofMarkupSource ofMarkupLines
  split
  · next heq =>
    rw [heq] at hscan
    exact congrArg Except.error (Except.error.inj hscan)
  · next heq =>
    rw [heq] at hscan
    cases hscan

end LineSieve.Record
