import LineSieve.Stream.Run

/-!
# Feeding (SPEC_FULL.md 4.4, `async-io`)

A feed is a run that does not ask for bytes but is given them as they come. It keeps the
start of a line that is not ended yet and reads a line as soon as its end arrives. Behind
the first error bytes have no effect.
-/

namespace LineSieve.Stream

open Text.Utf8 (Byte)

variable {σ : Type}

/-- A run that is given bytes: how far it has come, the start of the line that is not ended
in reverse, and the error that ended the run. -/
structure Feed (σ : Type) where
  progress : Progress σ
  line : List Byte
  failure : Option Error

namespace Feed

def start (state : σ) (sink : Sink) : Feed σ := ⟨.start state sink, [], none⟩

/-- Reads a raw line unless the run was cancelled. -/
def readLine (cancel : Cancel σ) (eval : Evaluator σ) (f : Feed σ) (raw : List Byte) :
    Feed σ :=
  match f.progress.cancelled? cancel with
  | some e => ⟨f.progress, [], some e⟩
  | none =>
    let (failure, progress) := f.progress.read eval raw
    ⟨progress, [], failure⟩

def push (cancel : Cancel σ) (eval : Evaluator σ) (f : Feed σ) (b : Byte) : Feed σ :=
  if f.failure.isSome then f
  else if b = Text.lineFeed then f.readLine cancel eval (b :: f.line).reverse
  else { f with line := b :: f.line }

def pushChunk (cancel : Cancel σ) (eval : Evaluator σ) (f : Feed σ) (chunk : List Byte) :
    Feed σ :=
  chunk.foldl (push cancel eval) f

/-- Reads the line that is not ended, if there is one. -/
def flush (cancel : Cancel σ) (eval : Evaluator σ) (f : Feed σ) : Feed σ :=
  if f.failure.isSome || f.line.isEmpty then f else f.readLine cancel eval f.line.reverse

/-- How the run ends if no bytes come any more. -/
def close (cancel : Cancel σ) (f : Feed σ) : Outcome σ :=
  match f.failure, f.progress.cancelled? cancel with
  | some e, _ | none, some e => (.error e, f.progress)
  | none, none => (.ok f.progress.stats, f.progress)

/-- How the run ends if the source fails. The line that is not ended is lost. -/
def abort (cancel : Cancel σ) (f : Feed σ) (fault : SystemError) : Outcome σ :=
  match f.failure, f.progress.cancelled? cancel with
  | some e, _ | none, some e => (.error e, f.progress)
  | none, none => (.error (.system fault), f.progress)

end Feed

def feed (cancel : Cancel σ) (eval : Evaluator σ) (state : σ) (source : Source)
    (sink : Sink) : Outcome σ :=
  let f := source.chunks.foldl (Feed.pushChunk cancel eval) (.start state sink)
  match source.fault with
  | none => (f.flush cancel eval).close cancel
  | some e => f.abort cancel e

/-- Filters a source with a rule set by feeding its chunks. -/
def feedRules (rules : Rule.Set) (session : Session) (source : Source) (sink : Sink) :
    Outcome Session :=
  feed never (sieve rules) session source sink

end LineSieve.Stream
