import LineSieve.Proofs.Stream.Halting
import LineSieve.Proofs.Text.Utf8

/-!
# Runs that succeed

A run that succeeds has come through all lines, so each of them was UTF-8, the evaluator took
each of them and the sink had room for all outputs. A run depends on its source only through the
lines and the fault: neither where the chunks end matters nor whether the last line is ended.
-/

namespace LineSieve.Text

open Utf8 (Byte)

/-! ### A line feed at the end -/

theorem splitOn_append_lineFeed (bytes : List Byte) :
    (bytes ++ [lineFeed]).splitOn lineFeed = bytes.splitOn lineFeed ++ [[]] := by
  induction bytes with
  | nil => simp [List.splitOn_cons_eq_if_modifyHead]
  | cons b rest ih =>
    obtain ⟨first, more, hrest⟩ :=
      List.exists_cons_of_ne_nil (List.splitOn_ne_nil lineFeed rest)
    rw [List.cons_append, List.splitOn_cons_eq_if_modifyHead, ih,
      List.splitOn_cons_eq_if_modifyHead, hrest]
    by_cases hb : b = lineFeed
    · simp [hb]
    · simp [hb]

/-- Nothing is left behind the last line feed only where bytes end with one. -/
theorem getLast?_of_lastPiece {bytes : List Byte} (hlast : lastPiece bytes = [])
    (hne : bytes ≠ []) : bytes.getLast? = some lineFeed := by
  induction bytes with
  | nil => exact absurd rfl hne
  | cons b rest ih =>
    obtain ⟨first, more, hrest⟩ :=
      List.exists_cons_of_ne_nil (List.splitOn_ne_nil lineFeed rest)
    rw [lastPiece, List.splitOn_cons_eq_if_modifyHead, hrest] at hlast
    by_cases hnil : rest = []
    · subst hnil
      obtain ⟨rfl, rfl⟩ : [] = first ∧ [] = more := by simpa using hrest
      by_cases hb : b = lineFeed
      · rw [hb, List.getLast?_singleton]
      · simp [hb] at hlast
    · have hbehind : lastPiece rest = [] := by
        rw [lastPiece, hrest]
        by_cases hb : b = lineFeed
        · simpa [hb] using hlast
        · cases more with
          | nil => simp [hb] at hlast
          | cons second more => simpa [hb] using hlast
      rw [List.getLast?_cons, ih hbehind hnil, Option.getD_some]

theorem pieces_append_lineFeed {bytes : List Byte} (hne : bytes ≠ [])
    (hlast : bytes.getLast? ≠ some lineFeed) :
    pieces (bytes ++ [lineFeed]) = pieces bytes := by
  have hleft : lastPiece bytes ≠ [] := fun h => hlast (getLast?_of_lastPiece h hne)
  have hend : lastPiece (bytes ++ [lineFeed]) = [] := by
    rw [lastPiece, splitOn_append_lineFeed, List.getLast?_concat, Option.getD_some]
  rw [pieces, if_pos hend, pieces, if_neg hleft, endedPieces, splitOn_append_lineFeed,
    List.dropLast_concat, endedPieces, lastPiece,
    List.getLast?_eq_some_getLast (List.splitOn_ne_nil _ _), Option.getD_some,
    List.dropLast_append_getLast]

end LineSieve.Text

namespace LineSieve.Stream

open Text
open Text.Utf8 (Byte)

variable {σ : Type} {cancel : Cancel σ} {eval : Evaluator σ} {start : σ} {source other : Source}
  {sink : Sink}

/-! ### What a run depends on -/

theorem runLines_congr {fault : Option SystemError} {p : Progress σ}
    {raws others : List (List Byte)} (h : raws.map chomp = others.map chomp) :
    runLines cancel eval fault p raws = runLines cancel eval fault p others := by
  induction raws generalizing others p with
  | nil =>
    have hnil : others = [] := by simpa using h.symm
    rw [hnil]
  | cons raw rest ih =>
    obtain ⟨raw', rest', rfl, hraw, hrest⟩ := List.map_eq_cons_iff.mp h.symm
    have hread : p.read eval raw' = p.read eval raw := by simp only [Progress.read, hraw]
    simp only [runLines, hread]
    cases p.cancelled? cancel with
    | some e => rfl
    | none =>
      rcases p.read eval raw with ⟨_ | e, next⟩
      · exact ih hrest.symm
      · rfl

theorem run_congr (hlines : source.contents = other.contents)
    (hfault : source.fault = other.fault) :
    run cancel eval start source sink = run cancel eval start other sink := by
  rw [← source.map_chomp_rawLines, ← other.map_chomp_rawLines] at hlines
  rw [run, run, hfault, runLines_congr hlines]

/-- A run does not tell two sources apart: it comes out alike, and the evaluator is asked the same
texts. -/
def Alike (cancel : Cancel σ) (eval : Evaluator σ) (start : σ) (sink : Sink)
    (source other : Source) : Prop :=
  run cancel eval start source sink = run cancel eval start other sink ∧
    asked cancel eval start source sink = asked cancel eval start other sink

theorem alike_of_contents (hlines : source.contents = other.contents)
    (hfault : source.fault = other.fault) : Alike cancel eval start sink source other :=
  ⟨run_congr hlines hfault, by rw [asked, asked, run_congr hlines hfault]⟩

theorem contents_congr (hbytes : source.bytes = other.bytes)
    (hfault : source.fault = other.fault) : source.contents = other.contents := by
  rw [Source.contents, Source.contents, hbytes, hfault]

/-! ### Lines of a run that succeeds -/

/-- A sink that takes bytes in two parts has room for both. -/
theorem Sink.Extends.fits {next : Sink} {bytes : List Byte} (h : sink.Extends bytes next)
    (hfit : sink.Fits bytes.length) {count : Nat} (hnext : next.Fits count) :
    sink.Fits (bytes.length + count) := by
  intro room hr
  have hle := hfit room hr
  have hrest := hnext (room - bytes.length) (by rw [h.room_eq, hr, Option.map_some])
  omega

/-- A line that does not end the run is UTF-8, the evaluator takes it, and there is room for
the output. -/
theorem Progress.exists_of_read {p q : Progress σ} {raw : List Byte}
    (h : p.read eval raw = (none, q)) :
    ∃ text output next, Utf8.decode (chomp raw) = .ok text ∧
      eval p.state text = (.ok output, next) ∧ p.sink.Fits (outputBytes [output]).length := by
  cases hd : Utf8.decode (chomp raw) with
  | error fault =>
    obtain ⟨_, _, _, hread⟩ := read_of_invalid (p := p) eval hd
    rw [hread] at h
    cases h
  | ok text =>
    cases he : eval p.state text with
    | mk result next =>
      cases result with
      | error e =>
        obtain ⟨_, _, _, hread⟩ := read_of_refused hd he
        rw [hread] at h
        cases h
      | ok output =>
        refine ⟨text, output, next, rfl, he, fun room hr => ?_⟩
        by_contra hlt
        obtain ⟨_, _, _, hread⟩ := read_of_full hd he hr (Nat.lt_of_not_le hlt)
        rw [hread] at h
        cases h

theorem passes_of_ok {fault : Option SystemError} {p : Progress σ} {raws : List (List Byte)}
    {stats : Stats} (h : (runLines cancel eval fault p raws).1 = .ok stats) :
    fault = none ∧ ∃ texts outputs last,
      Passes cancel eval p.stats.linesRead p.state (raws.map chomp) texts outputs last ∧
        cancel (p.stats.linesRead + raws.length) last = false ∧
        p.sink.Fits (outputBytes outputs).length := by
  induction raws generalizing p with
  | nil =>
    cases hc : cancel p.stats.linesRead p.state with
    | true => simp [runLines, Progress.cancelled?, hc] at h
    | false =>
      cases fault with
      | some e => simp [runLines, Progress.cancelled?, hc] at h
      | none => exact ⟨rfl, [], [], p.state, .nil _ _, hc, fun room _ => Nat.zero_le room⟩
  | cons raw rest ih =>
    cases hc : cancel p.stats.linesRead p.state with
    | true => simp [runLines, Progress.cancelled?, hc] at h
    | false =>
      cases hread : p.read eval raw with
      | mk result q =>
        cases result with
        | some e =>
          rw [runLines_cons_of_stop hc hread] at h
          cases h
        | none =>
          obtain ⟨text, output, next, hd, he, hfirst⟩ := Progress.exists_of_read hread
          obtain ⟨left, hext, hq⟩ := Progress.read_of_fits hd he hfirst
          rw [hq, Prod.mk.injEq] at hread
          obtain ⟨-, rfl⟩ := hread
          rw [runLines_cons_of_continue hc hq] at h
          obtain ⟨hfault, texts, outputs, last, hpass, hend, hrest⟩ := ih h
          refine ⟨hfault, text :: texts, output :: outputs, last, .cons hc hd he hpass, ?_, ?_⟩
          · rwa [List.length_cons, ← Nat.add_assoc, Nat.add_right_comm]
          · rw [outputBytes_cons, List.length_append]
            exact hext.fits hfirst hrest

theorem Passes.encode_eq {n : Nat} {s last : σ} {lines : List (List Byte)} {texts : List String}
    {outputs : List (Option String)} (h : Passes cancel eval n s lines texts outputs last) :
    texts.map Utf8.encode = lines := by
  induction h with
  | nil => rfl
  | cons _ hd _ _ ih => rw [List.map_cons, Utf8.encode_of_decode hd, ih]

/-! ### Runs that succeed -/

theorem exists_passes_of_ok {stats : Stats}
    (h : (run cancel eval start source sink).1 = .ok stats) :
    source.fault = none ∧ ∃ texts outputs last,
      Passes cancel eval 0 start source.contents texts outputs last ∧
        stats = ⟨source.contents.length, keptCount outputs⟩ ∧
        Ends cancel eval start source sink (.ok stats) last (sink.written ++ outputBytes outputs)
          texts := by
  obtain ⟨hfault, texts, outputs, last, hpass, hc, hfit⟩ := passes_of_ok h
  have hcount : 0 + source.rawLines.length = source.contents.length := by
    rw [Nat.zero_add, ← source.map_chomp_rawLines, List.length_map]
  simp only [Progress.start, Stats.zero, source.map_chomp_rawLines, hcount] at hpass hc hfit
  have hends := (Halts.finished hpass hc hfault).ends_behind hfit
  have hstats : stats = ⟨source.contents.length, keptCount outputs⟩ :=
    Except.ok.inj (h.symm.trans hends.result_eq)
  exact ⟨hfault, texts, outputs, last, hpass, hstats, hstats ▸ hends⟩

/-- A run that succeeds has read all lines: they are the encodings of the texts that the evaluator
was asked one after another, and behind what the sink had there are the outputs. No run, whether it
succeeds or not, depends on where the chunks end, or on the line feed at the end of the last
line. -/
theorem complete_of_ok (cancel : Cancel σ) (eval : Evaluator σ) (start : σ) (sink : Sink)
    (bytes : List Byte) :
    (∀ chunks fault stats, chunks.flatten = bytes →
      (run cancel eval start ⟨chunks, fault⟩ sink).1 = .ok stats →
      ∃ texts outputs last,
        texts.map Utf8.encode = (pieces bytes).map (dropLastByte carriageReturn) ∧
        Passes cancel eval 0 start ((pieces bytes).map (dropLastByte carriageReturn)) texts outputs
          last ∧
        stats = ⟨(pieces bytes).length, keptCount outputs⟩ ∧
        Ends cancel eval start ⟨chunks, fault⟩ sink (.ok stats) last
          (sink.written ++ outputBytes outputs) texts) ∧
    (∀ chunks others fault, chunks.flatten = bytes → others.flatten = bytes →
      Alike cancel eval start sink ⟨chunks, fault⟩ ⟨others, fault⟩) ∧
    (bytes ≠ [] → bytes.getLast? ≠ some lineFeed →
      ∀ chunks others, chunks.flatten = bytes → others.flatten = bytes ++ [lineFeed] →
        Alike cancel eval start sink ⟨chunks, none⟩ ⟨others, none⟩) := by
  refine ⟨?_, ?_, ?_⟩
  · intro chunks fault stats hbytes h
    obtain ⟨rfl, texts, outputs, last, hpass, hstats, hends⟩ := exists_passes_of_ok h
    have hlines : Source.contents ⟨chunks, none⟩ =
        (pieces bytes).map (dropLastByte carriageReturn) := by
      rw [← hbytes]
      rfl
    rw [hlines] at hpass hstats
    rw [List.length_map] at hstats
    exact ⟨texts, outputs, last, hpass.encode_eq, hpass, hstats, hends⟩
  · intro chunks others fault hchunks hothers
    exact alike_of_contents (contents_congr (hchunks.trans hothers.symm) rfl) rfl
  · intro hne hlast chunks others hchunks hothers
    refine alike_of_contents ?_ rfl
    have hended := congrArg (List.map (dropLastByte carriageReturn))
      (pieces_append_lineFeed hne hlast)
    rw [← hchunks] at hended hothers
    exact hended.symm.trans (by rw [← hothers]; rfl)

/-- The chunks end between a carriage return and its line feed, and within a character. -/
theorem complete_across_chunks :
    let eval : Evaluator Nat := fun n text =>
      (.ok (if text = "" then none else some (text ++ "!")), n + 1)
    let bytes : List Byte := [97, 13, 10, 10, 98, 195, 169]
    let chunks : List (List Byte) := [[97, 13], [10, 10, 98, 195], [169]]
    (run never eval 0 ⟨chunks, none⟩ .unlimited).1 = .ok ⟨3, 2⟩ ∧
    (∃ texts outputs last,
      texts.map Utf8.encode = [[97], [], [98, 195, 169]] ∧
      Passes never eval 0 0 [[97], [], [98, 195, 169]] texts outputs last ∧
      (⟨3, 2⟩ : Stats) = ⟨3, keptCount outputs⟩ ∧
      Ends never eval 0 ⟨chunks, none⟩ .unlimited (.ok ⟨3, 2⟩) last ([] ++ outputBytes outputs)
        texts) ∧
    Alike never eval 0 .unlimited ⟨chunks, none⟩ ⟨[bytes], none⟩ ∧
    Alike never eval 0 .unlimited ⟨chunks, none⟩ ⟨[bytes, [lineFeed]], none⟩ := by
  intro eval bytes chunks
  exact ⟨rfl, (complete_of_ok never eval 0 .unlimited bytes).1 chunks none ⟨3, 2⟩ rfl rfl,
    (complete_of_ok never eval 0 .unlimited bytes).2.1 chunks [bytes] none rfl rfl,
    (complete_of_ok never eval 0 .unlimited bytes).2.2 (by decide) (by decide) chunks
      [bytes, [lineFeed]] rfl rfl⟩

end LineSieve.Stream
