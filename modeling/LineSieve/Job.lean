import LineSieve.FileSystem.Walk
import LineSieve.Settings.Plan
import LineSieve.Stream.Feed

/-!
# Jobs (SPEC_FULL.md 2, File Runner, and 5)

A job filters files. The result is written to a temporary file in the folder that it goes
to, gets the mode of the input, and is moved to its place when it is complete. If anything
fails the temporary file is removed, and nothing else has changed.

`run` goes through the input at once, `runFed` by feeding it; both put a result in its
place in the same way.
-/

namespace LineSieve

open Text.Utf8 (Byte)
open LineSieve.Stream (Source Sink Stats Outcome Cancel)

/-- A rule set, where results go, and whether the job is cancelled. -/
structure Job where
  rules : Rule.Set
  output : OutputSettings
  cancelled : Bool

/-- What a job did with a file. -/
structure Report where
  input : Path
  output : Path
  overwrite : Bool
  stats : Stats
deriving DecidableEq, Repr

namespace Job

/-! ### Streams -/

def cancel (job : Job) : Cancel Session := fun _ _ => job.cancelled

def filter (job : Job) (source : Source) : Outcome Session :=
  Stream.run job.cancel (Stream.sieve job.rules) .start source .unlimited

def filterFed (job : Job) (source : Source) : Outcome Session :=
  Stream.feed job.cancel (Stream.sieve job.rules) .start source .unlimited

/-- Filters a source that is no file: the counts or an error, and what was written. -/
def runStream (job : Job) (source : Source) : Except RunError Stats × List Byte :=
  let (result, p) := job.filter source
  (result.mapError .core, p.sink.written)

/-! ### Files -/

/-- The contents and the mode of the regular file that an input is. -/
def regularFile (fs : FileSystem) (input : Path) : Except RunError (List Byte × Nat) :=
  match fs.stat input with
  | .error e => .error (.system e)
  | .ok (_, .directory) => .error (.notFile input)
  | .ok (_, .file bytes mode) => .ok (bytes, mode)

/-- Gives a temporary file the mode that the input has by now and moves it to its place
(SPEC_FULL.md 5). -/
def publish (fs : FileSystem) (temporary : Location) (input path : Path) :
    Except RunError Unit × FileSystem :=
  match regularFile fs input with
  | .error e => (.error e, fs)
  | .ok (_, mode) =>
    let fs := fs.setMode temporary mode
    match fs.move temporary path with
    | .error e => (.error (.publish e), fs)
    | .ok fs => (.ok (), fs)

/-- Fills a temporary file with what was written, and publishes it unless the run failed. -/
def complete (fs : FileSystem) (temporary : Location) (input path : Path)
    (outcome : Outcome Session) : Except RunError Stats × FileSystem :=
  let fs := fs.fill temporary outcome.2.sink.written
  match outcome.1 with
  | .error e => (.error (.core e), fs)
  | .ok stats =>
    let (result, fs) := publish fs temporary input path
    (result.map fun _ => stats, fs)

/-- Filters a file, where `go` goes through its bytes. The temporary file is removed with the
error, if there is one. -/
def runWith (job : Job) (go : Source → Outcome Session) (fs : FileSystem) (input : Path) :
    Except RunError Report × FileSystem :=
  match regularFile fs input with
  | .error e => (.error e, fs)
  | .ok (bytes, _) =>
    let plan := Plan.forInput input job.output
    match fs.createTemporary plan.path.folder with
    | .error e => (.error (.system e), fs)
    | .ok (temporary, fs) =>
      match complete fs temporary input plan.path (go (.ofBytes bytes)) with
      | (.error e, fs) => (.error e, fs.erase temporary)
      | (.ok stats, fs) => (.ok ⟨input, plan.path, plan.overwrite, stats⟩, fs)

def run (job : Job) (fs : FileSystem) (input : Path) :
    Except RunError Report × FileSystem :=
  job.runWith job.filter fs input

def runFed (job : Job) (fs : FileSystem) (input : Path) :
    Except RunError Report × FileSystem :=
  job.runWith job.filterFed fs input

end Job
end LineSieve
