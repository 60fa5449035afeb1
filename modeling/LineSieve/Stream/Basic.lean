import LineSieve.Error.Basic
import LineSieve.Text.Lines

/-!
# Streams (SPEC_FULL.md 4.4)

A source gives bytes in chunks and then ends or fails. A sink takes bytes as long as it
has room. A stream is filtered by an evaluator, which reads the lines one after another,
knows what it learned from the earlier ones, and for each gives an output, drops the line
or gives up.

`Progress.read` is what is done with one raw line. Both ways to go through a stream, all
of it at once and chunk by chunk, consist of it and of the question whether the run was
cancelled.
-/

namespace LineSieve.Stream

open Text.Utf8 (Byte)

/-! ### Sources -/

/-- Bytes that arrive in chunks, and what goes wrong behind them. -/
structure Source where
  chunks : List (List Byte)
  fault : Option SystemError
deriving Repr

namespace Source

def ofBytes (bytes : List Byte) : Source := ⟨[bytes], none⟩

def bytes (s : Source) : List Byte := s.chunks.flatten

/-- The raw lines that a source gives. A line that is not ended counts only if the source
ends there without a fault. -/
def rawLines (s : Source) : List (List Byte) :=
  let (whole, last) := Text.cutChunks [] s.chunks
  if s.fault.isSome || last.isEmpty then whole else whole ++ [last]

end Source

/-! ### Sinks -/

/-- The pieces that were written, the last one first, and how many more bytes can be
written, if there is a limit. -/
structure Sink where
  pieces : List (List Byte)
  room : Option Nat
deriving DecidableEq, Repr

namespace Sink

def written (s : Sink) : List Byte := s.pieces.reverse.flatten

/-- Nothing has been written, and there is no limit. -/
def unlimited : Sink := ⟨[], none⟩

/-- Nothing has been written, and only `room` bytes can be. -/
def limited (room : Nat) : Sink := ⟨[], some room⟩

/-- What is reported when there is no room. -/
def full : SystemError := .other "write limit"

/-- Writes bytes; if there is not enough room, what fits is written. -/
def write (s : Sink) (bytes : List Byte) : Option SystemError × Sink :=
  match s.room with
  | none => (none, { s with pieces := bytes :: s.pieces })
  | some room =>
    (if bytes.length ≤ room then none else some full,
      ⟨bytes.take room :: s.pieces, some (room - bytes.length)⟩)

theorem written_unlimited : unlimited.written = [] := rfl

theorem written_limited (room : Nat) : (limited room).written = [] := rfl

theorem written_write_of_room_none {s : Sink} (h : s.room = none) (bytes : List Byte) :
    (s.write bytes).2.written = s.written ++ bytes := by
  simp [write, h, written]

theorem written_write_of_room_some {s : Sink} {room : Nat} (h : s.room = some room)
    (bytes : List Byte) :
    (s.write bytes).2.written = s.written ++ bytes.take room := by
  simp [write, h, written]

end Sink

/-! ### Progress -/

/-- How many lines were read, and how many outputs were written (`StreamStats`). -/
structure Stats where
  linesRead : Nat
  linesKept : Nat
deriving DecidableEq, Repr

def Stats.zero : Stats := ⟨0, 0⟩

/-- What reads lines: from what it knows and a line it gives an output, or none if the line
is dropped, or an error, and what it knows then. -/
abbrev Evaluator (σ : Type) := σ → String → Except Error (Option String) × σ

/-- Whether a run is cancelled (`CancelFlag`), by the number of lines read and what the
evaluator knows. -/
abbrev Cancel (σ : Type) := Nat → σ → Bool

/-- How far a run has come: what the evaluator knows, what was written, and the counts. -/
structure Progress (σ : Type) where
  state : σ
  sink : Sink
  stats : Stats

namespace Progress

variable {σ : Type}

def start (state : σ) (sink : Sink) : Progress σ := ⟨state, sink, .zero⟩

def keep (p : Progress σ) (output : String) : Option Error × Progress σ :=
  match p.sink.write (Text.Utf8.encode output ++ [Text.lineFeed]) with
  | (none, sink) =>
    (none, { p with sink := sink, stats := { p.stats with
      linesKept := p.stats.linesKept + 1 } })
  | (some e, sink) => (some (.system e), { p with sink := sink })

/-- Reads a line: the error that ends the run, if there is one. -/
def evaluate (eval : Evaluator σ) (p : Progress σ) (line : String) :
    Option Error × Progress σ :=
  match eval p.state line with
  | (.error e, state) => (some e, { p with state := state })
  | (.ok none, state) => (none, { p with state := state })
  | (.ok (some output), state) => { p with state := state }.keep output

/-- Reads a raw line, which counts also if it is not UTF-8. -/
def read (eval : Evaluator σ) (p : Progress σ) (raw : List Byte) :
    Option Error × Progress σ :=
  let number := p.stats.linesRead + 1
  let p := { p with stats := { p.stats with linesRead := number } }
  match Text.Utf8.decode (Text.chomp raw) with
  | .error fault => (some (.system (.invalidLine number fault)), p)
  | .ok line => p.evaluate eval line

def cancelled? (cancel : Cancel σ) (p : Progress σ) : Option Error :=
  if cancel p.stats.linesRead p.state then some (.cancelled p.stats.linesRead) else none

end Progress

/-- How a run ends: with the counts or an error, and how far it has come. -/
abbrev Outcome (σ : Type) := Except Error Stats × Progress σ

end LineSieve.Stream
