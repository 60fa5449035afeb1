import LineSieve.Proofs.FileSystem.Writing
import LineSieve.Proofs.Job.Failure
import LineSieve.Proofs.Stream.Feeding

/-!
# Jobs that feed

A job may go through its input at once or feed it, and its result may come into the temporary file
at once or through a writer that holds bytes back. None of this can be told afterwards: the report
or the error is the same, and so is the file system.

A writer matters only between the first piece and the end of the stream. If the stream succeeds,
what is held is passed on before the file is published; if it fails, the file is removed with
whatever has come into it.
-/

namespace LineSieve.Job

open FileSystem
open Text.Utf8 (Byte)
open LineSieve.Stream (Source Sink Stats Outcome Cancel Evaluator Alike)

variable {temporary : Location}

/-! ### Jobs that write through a buffer -/

/-- Fills a temporary file through a writer, and publishes it unless the run failed. What the writer
still holds is passed on before that. -/
def completeThrough (schedule : Schedule) (fs : FileSystem) (temporary : Location)
    (input path : Path) (outcome : Outcome Session) : Except RunError Stats × FileSystem :=
  let (held, fs) := writePieces schedule temporary 0 [] fs outcome.2.sink.pieces.reverse
  match outcome.1 with
  | .error e => (.error (.core e), fs)
  | .ok stats =>
    let (result, fs) := publish (fs.append temporary held) temporary input path
    (result.map fun _ => stats, fs)

/-- Filters a file like `runWith`, but writes its result through a buffer. -/
def runThrough (job : Job) (schedule : Schedule) (go : Source → Outcome Session)
    (fs : FileSystem) (input : Path) : Except RunError Report × FileSystem :=
  match regularFile fs input with
  | .error e => (.error e, fs)
  | .ok (bytes, _) =>
    let plan := Plan.forInput input job.output
    match fs.createTemporary plan.path.folder with
    | .error e => (.error (.system e), fs)
    | .ok (temporary, fs) =>
      match completeThrough schedule fs temporary input plan.path (go (.ofBytes bytes)) with
      | (.error e, fs) => (.error e, fs.erase temporary)
      | (.ok stats, fs) => (.ok ⟨input, plan.path, plan.overwrite, stats⟩, fs)

/-- A writer gives the result of the stream the file that it has without a writer. -/
theorem completeThrough_of_ok (schedule : Schedule) (fs : FileSystem) (hne : temporary ≠ [])
    (mode : Nat) (input path : Path) {outcome : Outcome Session} {stats : Stats}
    (hok : outcome.1 = .ok stats) :
    completeThrough schedule (fs.put temporary (.file [] mode)) temporary input path outcome =
      complete (fs.put temporary (.file [] mode)) temporary input path outcome := by
  obtain ⟨passed, left, hall, hwrite⟩ := writePieces_put schedule fs hne 0 [] [] mode
    outcome.2.sink.pieces.reverse
  have hwritten : passed ++ left = outcome.2.sink.written := by
    rw [hall, List.nil_append, Sink.written]
  simp only [completeThrough, complete, hwrite, hok, List.nil_append, append_put fs hne, hwritten,
    fill_put fs hne]

/-- If the stream fails, the temporary file is all that a writer has touched. -/
theorem completeThrough_of_error (schedule : Schedule) (fs : FileSystem) (hne : temporary ≠ [])
    (mode : Nat) (input path : Path) {outcome : Outcome Session} {e : Error}
    (herror : outcome.1 = .error e) :
    ∃ bytes, completeThrough schedule (fs.put temporary (.file [] mode)) temporary input path
      outcome = (.error (.core e), fs.put temporary (.file bytes mode)) := by
  obtain ⟨passed, left, -, hwrite⟩ := writePieces_put schedule fs hne 0 [] [] mode
    outcome.2.sink.pieces.reverse
  refine ⟨passed, ?_⟩
  simp only [completeThrough, hwrite, herror, List.nil_append]

theorem runThrough_eq_runWith (job : Job) (schedule : Schedule) (go : Source → Outcome Session)
    (fs : FileSystem) (input : Path) :
    job.runThrough schedule go fs input = job.runWith go fs input := by
  unfold runThrough runWith
  cases hinput : regularFile fs input with
  | error e => rfl
  | ok file =>
    obtain ⟨bytes, mode⟩ := file
    cases hcreate : fs.createTemporary (Plan.forInput input job.output).path.folder with
    | error e => simp only [hcreate]
    | ok created =>
      obtain ⟨temporary, opened⟩ := created
      obtain ⟨hne, -, rfl⟩ := createTemporary_eq hcreate
      simp only [hcreate]
      cases hgo : (go (.ofBytes bytes)).1 with
      | ok stats =>
        have hthrough := completeThrough_of_ok schedule fs hne temporaryMode input
          (Plan.forInput input job.output).path hgo
        cases hended : complete (fs.put temporary (.file [] temporaryMode)) temporary input
            (Plan.forInput input job.output).path (go (.ofBytes bytes)) with
        | mk result after => cases result <;> simp only [hthrough, hended]
      | error e =>
        -- the two files differ until they are erased
        obtain ⟨written, hthrough⟩ := completeThrough_of_error schedule fs hne temporaryMode input
          (Plan.forInput input job.output).path hgo
        simp only [hthrough, complete, hgo, fill_put fs hne, erase_put]

/-! ### Jobs that feed -/

theorem filterFed_eq_filter (job : Job) : job.filterFed = job.filter :=
  funext fun source => Stream.feed_eq_run job.cancel (Stream.sieve job.rules) .start source _

/-- A feed and a run end alike, with the same error or counts, the same bytes written and the
evaluator asked the same texts, whatever the evaluator does, whenever the run is cancelled and
wherever the chunks of either end. So a job that feeds its input gives the same report or error as
one that goes through it at once and leaves the same file system, also if each writes its result
through a buffer of its own. -/
theorem feeding_agrees :
    (∀ (σ : Type) (cancel : Cancel σ) (eval : Evaluator σ) (start : σ) (sink : Sink)
      (chunks others : List (List Byte)) (fault : Option SystemError),
      chunks.flatten = others.flatten →
      Stream.feed cancel eval start ⟨others, fault⟩ sink =
        Stream.run cancel eval start ⟨chunks, fault⟩ sink ∧
      Stream.askedFed cancel eval start ⟨others, fault⟩ sink =
        Stream.asked cancel eval start ⟨chunks, fault⟩ sink) ∧
    ∀ (job : Job) (cancel : Cancel Session) (fs : FileSystem) (input : Path),
      job.runFed fs input = job.run fs input ∧
      job.runFedUnder cancel fs input = job.runUnder cancel fs input ∧
      ∀ schedule : Schedule,
        job.runThrough schedule (Stream.feed cancel (Stream.sieve job.rules) .start · .unlimited)
          fs input = job.runUnder cancel fs input ∧
        job.runThrough schedule (Stream.run cancel (Stream.sieve job.rules) .start · .unlimited)
          fs input = job.runUnder cancel fs input := by
  refine ⟨?_, fun job cancel fs input => ?_⟩
  · intro σ cancel eval start sink chunks others fault hbytes
    have halike : Alike cancel eval start sink ⟨others, fault⟩ ⟨chunks, fault⟩ :=
      Stream.alike_of_contents (Stream.contents_congr hbytes.symm rfl) rfl
    rw [Stream.feed_eq_run, Stream.askedFed_eq_asked]
    exact halike
  · have hgo : (Stream.feed cancel (Stream.sieve job.rules) .start · .unlimited) =
        (Stream.run cancel (Stream.sieve job.rules) .start · .unlimited) :=
      funext fun source => Stream.feed_eq_run cancel (Stream.sieve job.rules) .start source _
    refine ⟨?_, ?_, fun schedule => ⟨?_, ?_⟩⟩
    · rw [runFed, run, filterFed_eq_filter]
    · rw [runFedUnder, runUnder, hgo]
    · rw [runThrough_eq_runWith, hgo, runUnder]
    · rw [runThrough_eq_runWith, runUnder]

/-- The evaluator refuses the third line, and would have the run cancelled behind it. The chunks
end between a carriage return and its line feed, and within lines. -/
theorem feeding_agrees_at_refusal :
    let eval : Evaluator Nat := fun n text =>
      (if text = "c" then .error (.evaluation text) else .ok (some text), n + 1)
    let cancel : Cancel Nat := fun _ n => n == 3
    let chunks : List (List Byte) := [[97, 13], [10, 98, 10, 99], [10, 100]]
    let others : List (List Byte) := [[97], [13, 10], [98, 10, 99, 10, 100]]
    chunks.flatten = others.flatten ∧
    (Stream.run cancel eval 0 ⟨chunks, none⟩ .unlimited).1 = .error (.evaluation "c") ∧
    Stream.asked cancel eval 0 ⟨chunks, none⟩ .unlimited = ["a", "b", "c"] ∧
    Stream.feed cancel eval 0 ⟨others, none⟩ .unlimited =
      Stream.run cancel eval 0 ⟨chunks, none⟩ .unlimited ∧
    Stream.askedFed cancel eval 0 ⟨others, none⟩ .unlimited =
      Stream.asked cancel eval 0 ⟨chunks, none⟩ .unlimited := by
  intro eval cancel chunks others
  exact ⟨rfl, rfl, rfl,
    feeding_agrees.1 Nat cancel eval 0 .unlimited chunks others none rfl⟩

end LineSieve.Job
