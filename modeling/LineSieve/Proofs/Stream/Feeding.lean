import LineSieve.Proofs.Stream.Completion
import LineSieve.Stream.Feed

/-!
# Feeds and runs

A run asks its source for whole lines, a feed is given bytes one after another and reads a line
when its end arrives. `feed_eq_run` shows that a feed ends as the run does, with the same error or
counts, the same bytes written and the evaluator at the same point.

What a feed still has before it are the raw lines that begin with the bytes it holds
(`linesLeft`). One byte either makes the held line longer or turns the first of these lines into a
step of the run, so the induction is on the bytes, for any held line.
-/

namespace LineSieve.Stream

open Text
open Text.Utf8 (Byte)

variable {σ : Type} {cancel : Cancel σ} {eval : Evaluator σ} {fault : Option SystemError}

/-! ### The lines that are left -/

/-- The raw lines of bytes behind the start of a line, which is given in reverse. -/
def linesLeft (fault : Option SystemError) (line bytes : List Byte) : List (List Byte) :=
  let (whole, last) := cutChunk line bytes
  if fault.isSome || last.isEmpty then whole else whole ++ [last.reverse]

theorem linesLeft_nil_of_fault (h : fault.isSome = true) (line : List Byte) :
    linesLeft fault line [] = [] := by
  simp [linesLeft, cutChunk, h]

theorem linesLeft_nil_nil : linesLeft fault [] [] = [] := by
  simp [linesLeft, cutChunk]

theorem linesLeft_nil_of_ne_nil {line : List Byte} (h : line ≠ []) :
    linesLeft none line [] = [line.reverse] := by
  simp [linesLeft, cutChunk, h]

theorem linesLeft_lineFeed (line bytes : List Byte) :
    linesLeft fault line (lineFeed :: bytes) =
      (lineFeed :: line).reverse :: linesLeft fault [] bytes := by
  simp only [linesLeft, cutChunk, if_true]
  split <;> rfl

theorem linesLeft_cons {b : Byte} (h : b ≠ lineFeed) (line bytes : List Byte) :
    linesLeft fault line (b :: bytes) = linesLeft fault (b :: line) bytes := by
  simp only [linesLeft, cutChunk, if_neg h]

theorem Source.rawLines_eq_linesLeft (s : Source) : s.rawLines = linesLeft s.fault [] s.bytes := by
  rw [rawLines, linesLeft, cutChunks_eq, Source.bytes]
  dsimp only
  rw [List.isEmpty_reverse]

/-! ### Ends of feeds -/

namespace Feed

variable {f : Feed σ} {p : Progress σ} {e : Error}

/-- How a feed ends if its source has no more bytes, with or without a fault. -/
def finish (cancel : Cancel σ) (eval : Evaluator σ) (fault : Option SystemError) (f : Feed σ) :
    Outcome σ :=
  match fault with
  | none => (f.flush cancel eval).close cancel
  | some e => f.abort cancel e

theorem push_of_failure (h : f.failure = some e) (b : Byte) : f.push cancel eval b = f := by
  simp [push, h]

theorem foldl_push_of_failure (h : f.failure = some e) (bytes : List Byte) :
    bytes.foldl (push cancel eval) f = f := by
  induction bytes with
  | nil => rfl
  | cons b rest ih => rw [List.foldl_cons, push_of_failure h, ih]

theorem finish_of_failure (h : f.failure = some e) :
    f.finish cancel eval fault = (.error e, f.progress) := by
  cases fault with
  | none => simp [finish, flush, close, h]
  | some fault => simp [finish, abort, h]

/-- A feed that holds no part of a line ends as a run behind its last line. -/
theorem finish_of_line_nil (p : Progress σ) :
    (⟨p, [], none⟩ : Feed σ).finish cancel eval fault = runLines cancel eval fault p [] := by
  cases fault with
  | none =>
    simp only [finish, flush, List.isEmpty_nil, Bool.or_true, if_true, close, runLines]
    cases p.cancelled? cancel <;> rfl
  | some fault =>
    simp only [finish, abort, runLines]
    cases p.cancelled? cancel <;> rfl

theorem line_readLine (f : Feed σ) (raw : List Byte) : (f.readLine cancel eval raw).line = [] := by
  unfold readLine
  split <;> rfl

theorem flush_of_line_nil (h : f.line = []) : f.flush cancel eval = f := by
  simp [flush, h]

/-- A feed that reads a line makes the step of a run over it. What comes behind is left open: it
is enough that the feed agrees with the run on it if the line does not end the run. -/
theorem finish_foldl_readLine (bytes : List Byte) {rest : List (List Byte)}
    (hrest : ∀ q : Progress σ, (bytes.foldl (push cancel eval) ⟨q, [], none⟩).finish cancel eval
      fault = runLines cancel eval fault q rest) (p : Progress σ) (held raw : List Byte) :
    (bytes.foldl (push cancel eval) (readLine cancel eval ⟨p, held, none⟩ raw)).finish cancel eval
      fault = runLines cancel eval fault p (raw :: rest) := by
  cases hc : p.cancelled? cancel with
  | some e =>
    have hread : readLine cancel eval ⟨p, held, none⟩ raw = ⟨p, [], some e⟩ := by
      simp only [readLine, hc]
    rw [hread, foldl_push_of_failure rfl, finish_of_failure rfl]
    simp only [runLines, hc]
  | none =>
    cases hstep : p.read eval raw with
    | mk failure q =>
      have hread : readLine cancel eval ⟨p, held, none⟩ raw = ⟨q, [], failure⟩ := by
        simp only [readLine, hc, hstep]
      rw [hread]
      cases failure with
      | some e =>
        rw [foldl_push_of_failure rfl, finish_of_failure rfl]
        simp only [runLines, hc, hstep]
      | none =>
        rw [hrest]
        simp only [runLines, hc, hstep]

/-- The line that is not ended is read only if the source ends without a fault. -/
theorem finish_eq_runLines (p : Progress σ) (line : List Byte) :
    (⟨p, line, none⟩ : Feed σ).finish cancel eval fault =
      runLines cancel eval fault p (linesLeft fault line []) := by
  by_cases hline : line = []
  · rw [hline, finish_of_line_nil, linesLeft_nil_nil]
  · cases fault with
    | some e =>
      rw [linesLeft_nil_of_fault rfl, ← finish_of_line_nil]
      rfl
    | none =>
      have hflush : (⟨p, line, none⟩ : Feed σ).flush cancel eval =
          readLine cancel eval ⟨p, line, none⟩ line.reverse := by
        simp [flush, hline]
      have hread : (readLine cancel eval ⟨p, line, none⟩ line.reverse).finish cancel eval none =
          runLines cancel eval none p [line.reverse] :=
        finish_foldl_readLine [] finish_of_line_nil p line line.reverse
      rw [linesLeft_nil_of_ne_nil hline, ← hread, finish, finish, hflush,
        flush_of_line_nil (line_readLine _ _)]

theorem finish_foldl_push (p : Progress σ) (line bytes : List Byte) :
    (bytes.foldl (push cancel eval) ⟨p, line, none⟩).finish cancel eval fault =
      runLines cancel eval fault p (linesLeft fault line bytes) := by
  -- a byte may move on the progress or the held line, so both are general
  induction bytes generalizing p line with
  | nil => exact finish_eq_runLines p line
  | cons b rest ih =>
    rw [List.foldl_cons]
    by_cases hb : b = lineFeed
    · have hpush : push cancel eval ⟨p, line, none⟩ b =
          readLine cancel eval ⟨p, line, none⟩ (lineFeed :: line).reverse := by
        simp [push, hb]
      rw [hpush, hb, linesLeft_lineFeed]
      exact finish_foldl_readLine rest (fun q => ih q []) p line _
    · have hpush : push cancel eval ⟨p, line, none⟩ b = ⟨p, b :: line, none⟩ := by
        simp [push, hb]
      rw [hpush, linesLeft_cons hb]
      exact ih p (b :: line)

end Feed

/-! ### Feeds -/

theorem foldl_pushChunk (chunks : List (List Byte)) (f : Feed σ) :
    chunks.foldl (Feed.pushChunk cancel eval) f =
      chunks.flatten.foldl (Feed.push cancel eval) f :=
  List.foldl_flatten.symm

/-- A feed ends as the run over its source does. -/
theorem feed_eq_run (cancel : Cancel σ) (eval : Evaluator σ) (state : σ) (source : Source)
    (sink : Sink) : feed cancel eval state source sink = run cancel eval state source sink := by
  have hfinish : feed cancel eval state source sink =
      (source.bytes.foldl (Feed.push cancel eval) (.start state sink)).finish cancel eval
        source.fault := by
    rw [feed, foldl_pushChunk, Source.bytes]
    cases source.fault <;> rfl
  rw [hfinish, run, source.rawLines_eq_linesLeft]
  exact Feed.finish_foldl_push (.start state sink) [] source.bytes

/-- The texts that the evaluator is asked in a feed. -/
def askedFed (cancel : Cancel σ) (eval : Evaluator σ) (start : σ) (source : Source)
    (sink : Sink) : List String :=
  (feed (pastNotes cancel) (noting eval) (start, []) source sink).2.state.2

theorem askedFed_eq_asked (cancel : Cancel σ) (eval : Evaluator σ) (start : σ) (source : Source)
    (sink : Sink) :
    askedFed cancel eval start source sink = asked cancel eval start source sink := by
  rw [askedFed, asked, feed_eq_run]

end LineSieve.Stream
