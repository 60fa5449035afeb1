import LineSieve.Proofs.Record.Streams
import LineSieve.Proofs.Stream.Completion
import LineSieve.Proofs.Stream.Joining
import LineSieve.Proofs.Text.Validity

/-!
# Where a stream is no text

The lines of a stream are decoded one by one, without their ends, so a character that is cut short
by a line end is met at the end of its line and not before the byte behind it. Still a run fails
exactly where the stream as a whole is no text, and the place that it reports is the end of the
longest text that the stream begins with: the ends of lines are ASCII, so no character goes on
behind them.
-/

namespace LineSieve.Text

open Utf8 (Byte IsText LongestText StartsAscii)

variable {bytes raw : List Byte} {before behind : List (List Byte)}

/-! ### Ends of lines -/

theorem isText_of_ascii (h : ∀ b ∈ bytes, b.toNat < 0x80) : IsText bytes := by
  induction bytes with
  | nil => exact Utf8.isText_nil
  | cons b rest ih =>
    rw [List.forall_mem_cons] at h
    have hfirst : IsText [b] := by
      refine ⟨[Char.ofNat b.toNat], ?_⟩
      rw [Utf8.encodeChars_singleton, Utf8.encodeChar_ofNat (UInt8.lt_iff_toNat_lt.mpr h.1)]
    exact hfirst.append (ih h.2)

theorem exists_append_dropLastByte (b : Byte) (bytes : List Byte) :
    ∃ more, bytes = dropLastByte b bytes ++ more ∧ ∀ c ∈ more, c = b := by
  by_cases hlast : bytes.getLast? = some b
  · obtain ⟨before, rfl⟩ := List.getLast?_eq_some_iff.mp hlast
    exact ⟨[b], by rw [dropLastByte_append], by simp⟩
  · exact ⟨[], by rw [dropLastByte_eq_self_iff.mpr hlast, List.append_nil], by simp⟩

/-- What is removed from a raw line is ASCII. -/
theorem exists_append_chomp (raw : List Byte) :
    ∃ ends, raw = chomp raw ++ ends ∧ ∀ b ∈ ends, b.toNat < 0x80 := by
  obtain ⟨feed, hfeed, hfeeds⟩ := exists_append_dropLastByte lineFeed raw
  obtain ⟨back, hback, hbacks⟩ :=
    exists_append_dropLastByte carriageReturn (dropLastByte lineFeed raw)
  refine ⟨back ++ feed, ?_, fun b hb => ?_⟩
  · rw [← List.append_assoc, chomp, ← hback, ← hfeed]
  · rcases List.mem_append.mp hb with hb | hb
    · rw [hbacks b hb]
      decide
    · rw [hfeeds b hb]
      decide

theorem isText_of_chomp (h : IsText (chomp raw)) : IsText raw := by
  obtain ⟨ends, hraw, hends⟩ := exists_append_chomp raw
  rw [hraw]
  exact h.append (isText_of_ascii hends)

/-! ### Places of lines -/

/-- The offset at which the line behind the first `n` lines starts. -/
def lineStart (bytes : List Byte) (n : Nat) : Nat := ((rawLines bytes).take n).flatten.length

/-- A raw line with one line feed, which ends it. -/
def IsEnded (raw : List Byte) : Prop := ∃ piece, lineFeed ∉ piece ∧ raw = piece ++ [lineFeed]

/-- Only the last raw line may be without its line feed. -/
theorem isEnded_of_rawLinesFrom {line : List Byte} (hline : lineFeed ∉ line)
    (h : rawLinesFrom line bytes = before ++ raw :: behind) :
    (∀ r ∈ before, IsEnded r) ∧ (IsEnded raw ∨ lineFeed ∉ raw ∧ behind = []) := by
  induction bytes generalizing line before with
  | nil =>
    cases line with
    | nil => cases before <;> cases h
    | cons c more =>
      cases before with
      | nil =>
        obtain ⟨rfl, rfl⟩ := List.cons.inj h
        exact ⟨List.forall_mem_nil _, .inr ⟨by rwa [List.mem_reverse], rfl⟩⟩
      | cons first before =>
        obtain ⟨-, hnil⟩ := List.cons.inj h
        cases before <;> cases hnil
  | cons b rest ih =>
    by_cases hb : b = lineFeed
    · have hended : IsEnded (b :: line).reverse :=
        ⟨line.reverse, by simpa using hline, by simp [hb]⟩
      rw [rawLinesFrom, if_pos hb] at h
      cases before with
      | nil =>
        obtain ⟨rfl, -⟩ := List.cons.inj h
        exact ⟨List.forall_mem_nil _, .inl hended⟩
      | cons first before =>
        obtain ⟨rfl, hrest⟩ := List.cons.inj h
        obtain ⟨hbefore, hraw⟩ := ih List.not_mem_nil hrest
        exact ⟨List.forall_mem_cons.mpr ⟨hended, hbefore⟩, hraw⟩
    · rw [rawLinesFrom, if_neg hb] at h
      exact ih (List.not_mem_cons_of_ne_of_not_mem (Ne.symm hb) hline) h

theorem count_flatten_of_isEnded {raws : List (List Byte)} (h : ∀ r ∈ raws, IsEnded r) :
    raws.flatten.count lineFeed = raws.length := by
  induction raws with
  | nil => rfl
  | cons raw rest ih =>
    rw [List.forall_mem_cons] at h
    obtain ⟨⟨piece, hpiece, rfl⟩, hrest⟩ := h
    rw [List.flatten_cons, List.count_append, List.count_append, List.count_eq_zero.mpr hpiece,
      ih hrest, List.count_singleton_self, List.length_cons]
    omega

theorem lineFeed_not_mem_chomp (h : IsEnded raw ∨ lineFeed ∉ raw) : lineFeed ∉ chomp raw := by
  have hkept : ∀ piece, lineFeed ∉ piece → lineFeed ∉ dropLastByte carriageReturn piece := by
    intro piece hpiece hmem
    obtain ⟨more, heq, -⟩ := exists_append_dropLastByte carriageReturn piece
    exact hpiece (heq ▸ List.mem_append_left more hmem)
  rcases h with ⟨piece, hpiece, rfl⟩ | hraw
  · rw [chomp_append_lineFeed]
    exact hkept piece hpiece
  · rw [chomp_of_not_mem hraw]
    exact hkept raw hraw

/-- Behind the contents of a raw line comes ASCII, or nothing. -/
theorem exists_startsAscii_behind (hraw : IsEnded raw ∨ behind = []) :
    ∃ tail, raw ++ behind.flatten = chomp raw ++ tail ∧ StartsAscii tail := by
  obtain ⟨ends, heq, hends⟩ := exists_append_chomp raw
  refine ⟨ends ++ behind.flatten, ?_, ?_⟩
  · rw [← List.append_assoc, ← heq]
  · intro b hb
    cases ends with
    | cons c more =>
      obtain rfl : c = b := by simpa using hb
      exact hends c List.mem_cons_self
    | nil =>
      rcases hraw with ⟨piece, hpiece, rfl⟩ | rfl
      · -- the line feed has been removed, so something was
        have hfeed : lineFeed ∈ chomp (piece ++ [lineFeed]) := by
          rw [List.append_nil] at heq
          rw [← heq]
          simp
        exact absurd hfeed (lineFeed_not_mem_chomp (.inl ⟨piece, hpiece, rfl⟩))
      · cases hb

/-- The first line that is no text tells where the longest text ends that the bytes begin with. -/
theorem longestText_of_rawLines {fault : Utf8.Fault}
    (h : rawLines bytes = before ++ raw :: behind)
    (hbefore : ∀ r ∈ before, IsText (chomp r)) (hd : Utf8.decode (chomp raw) = .error fault) :
    ¬ IsText bytes ∧ LongestText bytes (lineStart bytes before.length + fault.validUpTo) ∧
      (bytes.take (lineStart bytes before.length + fault.validUpTo)).count lineFeed =
        before.length := by
  obtain ⟨hended, hraw⟩ := isEnded_of_rawLinesFrom List.not_mem_nil h
  obtain ⟨tail, htail, hascii⟩ :=
    exists_startsAscii_behind (hraw.imp_right And.right)
  have hbytes : bytes = before.flatten ++ (chomp raw ++ tail) := by
    rw [← htail, ← List.flatten_cons, ← List.flatten_append, ← h, rawLines, flatten_rawLinesFrom]
    rfl
  have hstart : lineStart bytes before.length = before.flatten.length := by
    rw [lineStart, h, List.take_left]
  have htext : IsText before.flatten :=
    Utf8.isText_flatten fun r hr => isText_of_chomp (hbefore r hr)
  have hno : ¬ IsText (chomp raw) := by
    rw [Utf8.isText_iff_decode, hd]
    rintro ⟨_, ⟨⟩⟩
  have hlongest := Utf8.longestText_of_decode hd
  rw [hstart]
  refine ⟨?_, ?_, ?_⟩
  · intro hall
    rw [hbytes] at hall
    exact hno (hascii.isText_before (htext.of_append hall))
  · rw [hbytes]
    exact (hlongest.append_ascii hno hascii).append htext
  · have hfeed := lineFeed_not_mem_chomp (hraw.imp_right And.left)
    rw [hbytes, List.take_length_add_append, List.take_append_of_le_length hlongest.le_length,
      List.count_append, count_flatten_of_isEnded hended,
      List.count_eq_zero.mpr fun hmem => hfeed (List.mem_of_mem_take hmem), Nat.add_zero]

end LineSieve.Text

namespace LineSieve.Stream

open Text
open Text.Utf8 (Byte IsText LongestText)

variable {σ : Type} {eval : Evaluator σ} {raw : List Byte} {e : Error}

/-! ### Why runs fail -/

/-- A line ends a run if its output does not fit or it is no text. -/
theorem Progress.cause_of_read (heval : Tireless eval) {p q : Progress σ}
    (h : p.read eval raw = (some e, q)) :
    e = .system Sink.full ∨ ∃ fault, Utf8.decode (chomp raw) = .error fault ∧
      e = .system (.invalidLine (p.stats.linesRead + 1) fault) := by
  cases hd : Utf8.decode (chomp raw) with
  | error fault =>
    simp only [read, hd, Prod.mk.injEq, Option.some.injEq] at h
    exact .inr ⟨fault, rfl, h.1.symm⟩
  | ok text =>
    obtain ⟨output, next, he⟩ := heval p.state text
    left
    cases output with
    | none => simp [read, evaluate, hd, he] at h
    | some output =>
      rcases hwrite : p.sink.write (Utf8.encode output ++ [lineFeed]) with ⟨_ | fault, sink⟩
      · simp [read, evaluate, keep, hd, he, hwrite] at h
      · obtain rfl := Sink.eq_full_of_write hwrite
        simp only [read, evaluate, keep, hd, he, hwrite, Prod.mk.injEq, Option.some.injEq] at h
        exact h.1.symm

/-- The number of the first line that is no text is one more than that of the lines before it. -/
theorem exists_of_runLines_error (heval : Tireless eval) {p q : Progress σ}
    {raws : List (List Byte)} (h : runLines never eval none p raws = (.error e, q))
    (hsink : e ≠ .system Sink.full) :
    ∃ before raw behind fault, raws = before ++ raw :: behind ∧
      (∀ r ∈ before, IsText (chomp r)) ∧ Utf8.decode (chomp raw) = .error fault ∧
      e = .system (.invalidLine (p.stats.linesRead + before.length + 1) fault) := by
  induction raws generalizing p with
  | nil => cases h
  | cons raw rest ih =>
    have hc : never p.stats.linesRead p.state = false := rfl
    rcases hread : p.read eval raw with ⟨_ | cause, next⟩
    · obtain ⟨text, output, known, hd, he, hfit⟩ := Progress.exists_of_read hread
      obtain ⟨left, -, hq⟩ := Progress.read_of_fits hd he hfit
      rw [runLines_cons_of_continue hc hq] at h
      obtain ⟨before, bad, behind, fault, rfl, hbefore, hbad, he⟩ := ih h
      refine ⟨raw :: before, bad, behind, fault, rfl, ?_, hbad, ?_⟩
      · exact List.forall_mem_cons.mpr ⟨Utf8.isText_iff_decode.mpr ⟨text, hd⟩, hbefore⟩
      · have hnumber : p.stats.linesRead + 1 + before.length = p.stats.linesRead +
            (raw :: before).length := by
          rw [List.length_cons]
          omega
        rw [← hnumber]
        exact he
    · rw [runLines_cons_of_stop hc hread] at h
      obtain ⟨rfl, -⟩ : cause = e ∧ next = q := by simpa using h
      rcases Progress.cause_of_read heval hread with hfull | ⟨fault, hd, he⟩
      · exact absurd hfull hsink
      · exact ⟨[], raw, rest, fault, rfl, List.forall_mem_nil _, hd, he⟩

/-- A source whose lines get through is a text. -/
theorem isText_of_ok {cancel : Cancel σ} {start : σ} {source : Source} {sink : Sink} {stats : Stats}
    (h : (run cancel eval start source sink).1 = .ok stats) : IsText source.bytes := by
  obtain ⟨hfault, texts, _, _, hpass, _, _⟩ := exists_passes_of_ok h
  have hlines := hpass.encode_eq
  rw [← source.map_chomp_rawLines, source.rawLines_eq hfault] at hlines
  have hflat : (rawLines source.bytes).flatten = source.bytes := flatten_rawLinesFrom [] _
  rw [← hflat]
  refine Utf8.isText_flatten fun raw hraw => isText_of_chomp ?_
  have hmem : chomp raw ∈ texts.map Utf8.encode := hlines ▸ List.mem_map_of_mem hraw
  obtain ⟨text, -, htext⟩ := List.mem_map.mp hmem
  exact ⟨text.toList, htext⟩

/-! ### Where they fail -/

/-- A run that nothing else can end fails exactly if its source is no text as a whole. It fails at
the end of the longest text that the source begins with, which is where a decoder of the whole
stops: the line that it names is the one behind the line feeds of this text, and the index in it is
what the text has of this line. -/
theorem fails_where_text_ends (eval : Evaluator σ) (heval : Tireless eval) (start : σ)
    (source : Source) (hsource : source.fault = none) (sink : Sink)
    (hsink : (run never eval start source sink).1 ≠ .error (.system Sink.full)) :
    ((∃ e, (run never eval start source sink).1 = .error e) ↔ ¬ IsText source.bytes) ∧
    ∀ e, (run never eval start source sink).1 = .error e →
      ∃ whole fault n, Utf8.decode source.bytes = .error whole ∧
        LongestText source.bytes whole.validUpTo ∧
        n = (source.bytes.take whole.validUpTo).count lineFeed ∧
        e = .system (.invalidLine (1 + n) fault) ∧
        lineStart source.bytes n + fault.validUpTo = whole.validUpTo := by
  have hplace : ∀ e, (run never eval start source sink).1 = .error e →
      ¬ IsText source.bytes ∧ ∃ fault n v, LongestText source.bytes v ∧
        n = (source.bytes.take v).count lineFeed ∧ e = .system (.invalidLine (1 + n) fault) ∧
        lineStart source.bytes n + fault.validUpTo = v := by
    intro e he
    rw [he] at hsink
    have hrun : runLines never eval none (.start start sink) (rawLines source.bytes) =
        (.error e, (run never eval start source sink).2) := by
      rw [← source.rawLines_eq hsource, ← hsource]
      exact Prod.ext he rfl
    obtain ⟨before, raw, behind, fault, hraws, hbefore, hd, hnumber⟩ :=
      exists_of_runLines_error heval hrun fun hfull => hsink (congrArg Except.error hfull)
    obtain ⟨hno, hlongest, hcount⟩ := longestText_of_rawLines hraws hbefore hd
    refine ⟨hno, fault, before.length, _, hlongest, hcount.symm, ?_, rfl⟩
    rw [hnumber, Nat.add_comm 1]
    simp [Progress.start, Stats.zero]
  refine ⟨⟨?_, fun hno => ?_⟩, fun e he => ?_⟩
  · rintro ⟨e, he⟩
    exact (hplace e he).1
  · cases hresult : (run never eval start source sink).1 with
    | ok stats => exact absurd (isText_of_ok hresult) hno
    | error e => exact ⟨e, rfl⟩
  · obtain ⟨hno, fault, n, v, hlongest, hn, hnumber, hindex⟩ := hplace e he
    cases hd : Utf8.decode source.bytes with
    | ok text => exact absurd (Utf8.isText_iff_decode.mpr ⟨text, hd⟩) hno
    | error whole =>
      obtain rfl := hlongest.unique (Utf8.longestText_of_decode hd)
      exact ⟨whole, fault, n, rfl, hlongest, hn, hnumber, hindex⟩

/-- A character is cut short by a line end, behind a line and a byte. -/
theorem fails_where_text_ends_within_line :
    let eval : Evaluator Nat := fun n text => (.ok (some text), n + 1)
    let bytes : List Byte := [97, 10, 98, 226, 130, 13, 10, 99]
    let source : Source := ⟨[[97], [10, 98, 226], [130, 13, 10, 99]], none⟩
    (run never eval 0 source (.limited 2)).1 = .error (.system (.invalidLine 2 ⟨1, none⟩)) ∧
      ¬ IsText bytes ∧ LongestText bytes 3 ∧ (bytes.take 3).count lineFeed = 1 ∧
      lineStart bytes 1 + 1 = 3 := by
  intro eval bytes source
  have herror : (run never eval 0 source (.limited 2)).1 =
      .error (.system (.invalidLine 2 ⟨1, none⟩)) := by decide
  obtain ⟨hiff, hplace⟩ := fails_where_text_ends eval (fun n text => ⟨_, _, rfl⟩) 0 source rfl
    (.limited 2) (by rw [herror]; decide)
  obtain ⟨whole, fault, n, hd, hlongest, hn, he, hindex⟩ := hplace _ herror
  have hwhole : whole = ⟨3, some 2⟩ := by
    have hbytes : Utf8.decode source.bytes = .error ⟨3, some 2⟩ := rfl
    rw [hd] at hbytes
    exact Except.error.inj hbytes
  rw [hwhole] at hlongest
  exact ⟨herror, hiff.mp ⟨_, herror⟩, hlongest, by decide, by decide⟩

end LineSieve.Stream
