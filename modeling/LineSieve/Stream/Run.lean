import LineSieve.Session
import LineSieve.Stream.Basic

/-!
# Runs (SPEC_FULL.md 4.4)

A run goes through the lines of a source. Before each line and before the end it is asked
whether the run was cancelled; the first error ends it. What was written before stays
written.
-/

namespace LineSieve.Stream

open Text.Utf8 (Byte)

variable {σ : Type}

/-- Goes through raw lines, behind which the source ends or fails. -/
def runLines (cancel : Cancel σ) (eval : Evaluator σ) (fault : Option SystemError)
    (p : Progress σ) : List (List Byte) → Outcome σ
  | [] =>
    match p.cancelled? cancel, fault with
    | some e, _ => (.error e, p)
    | none, some e => (.error (.system e), p)
    | none, none => (.ok p.stats, p)
  | raw :: rest =>
    match p.cancelled? cancel with
    | some e => (.error e, p)
    | none =>
      match p.read eval raw with
      | (some e, p) => (.error e, p)
      | (none, p) => runLines cancel eval fault p rest

def run (cancel : Cancel σ) (eval : Evaluator σ) (state : σ) (source : Source)
    (sink : Sink) : Outcome σ :=
  runLines cancel eval source.fault (.start state sink) source.rawLines

/-! ### Sessions -/

def never : Cancel σ := fun _ _ => false

/-- A session as an evaluator; it does not give up. -/
def sieve (rules : Rule.Set) : Evaluator Session := fun s line =>
  let (output, s) := s.step rules line
  (.ok output, s)

def runRules (rules : Rule.Set) (session : Session) (source : Source) (sink : Sink) :
    Outcome Session :=
  run never (sieve rules) session source sink

end LineSieve.Stream
