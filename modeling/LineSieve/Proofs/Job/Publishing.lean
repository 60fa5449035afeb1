import LineSieve.Job
import LineSieve.Proofs.FileSystem.Moving
import LineSieve.Proofs.Stream.Completion

/-!
# Jobs that succeed

A job that succeeds has put what the stream of its input gives in the place of its output, with the
mode that the input had, and nothing else is different. The input is read before anything is
moved, so this is also true where it is the input that is replaced.
-/

namespace LineSieve.Job

open FileSystem
open Text.Utf8 (Byte)
open LineSieve.Stream (Source Stats Outcome Cancel)

variable {job : Job} {fs after opened : FileSystem} {temporary place : Location}
  {input path : Path} {bytes old : List Byte} {mode : Nat} {report : Report} {stats : Stats}
  {go : Source → Outcome Session}

/-! ### Inputs -/

theorem regularFile_of_stat (h : fs.stat input = .ok (place, .file bytes mode)) :
    regularFile fs input = .ok (bytes, mode) := by
  simp only [regularFile, h]

theorem stat_of_regularFile (h : regularFile fs input = .ok (bytes, mode)) :
    ∃ place, fs.stat input = .ok (place, .file bytes mode) := by
  unfold regularFile at h
  split at h
  · cases h
  · cases h
  · next heq =>
    cases h
    exact ⟨_, heq⟩

/-! ### Publishing -/

theorem replaces_of_publish (hvacant : fs.Vacant temporary) (hne : temporary ≠ [])
    (hinput : fs.stat input = .ok (place, .file old mode)) {initialMode : Nat}
    (h : publish (fs.put temporary (.file bytes initialMode)) temporary input path =
      (.ok (), after)) : Replaces fs path bytes mode after := by
  have hstat := hvacant.stat_put hne hinput bytes initialMode
  simp only [publish, regularFile_of_stat hstat, setMode_put fs hne] at h
  split at h
  · cases h
  · next moved hmove =>
    cases h
    exact hvacant.replaces_of_move hne hmove

theorem replaces_of_complete (hvacant : fs.Vacant temporary) (hne : temporary ≠ [])
    (hinput : fs.stat input = .ok (place, .file old mode)) {initialMode : Nat}
    {outcome : Outcome Session}
    (h : complete (fs.put temporary (.file [] initialMode)) temporary input path outcome =
      (.ok stats, after)) :
    outcome.1 = .ok stats ∧ Replaces fs path outcome.2.sink.written mode after := by
  obtain ⟨result, progress⟩ := outcome
  simp only [complete, fill_put fs hne] at h
  cases result with
  | error e => cases h
  | ok counts =>
    simp only at h
    cases hpublish : publish (fs.put temporary (.file progress.sink.written initialMode))
        temporary input path with
    | mk published last =>
      cases published with
      | error e => simp [hpublish, Except.map] at h
      | ok _ =>
        simp only [hpublish, Except.map, Prod.mk.injEq, Except.ok.injEq] at h
        obtain ⟨rfl, rfl⟩ := h
        exact ⟨rfl, replaces_of_publish hvacant hne hinput hpublish⟩

/-! ### Runs -/

theorem replaces_of_runWith (h : job.runWith go fs input = (.ok report, after)) :
    ∃ place bytes mode, fs.stat input = .ok (place, .file bytes mode) ∧
      report = ⟨input, (Plan.forInput input job.output).path,
        (Plan.forInput input job.output).overwrite, report.stats⟩ ∧
      (go (.ofBytes bytes)).1 = .ok report.stats ∧
      Replaces fs report.output (go (.ofBytes bytes)).2.sink.written mode after := by
  unfold runWith at h
  cases hinput : regularFile fs input with
  | error e => simp [hinput] at h
  | ok file =>
    obtain ⟨bytes, mode⟩ := file
    cases hcreate : fs.createTemporary (Plan.forInput input job.output).path.folder with
    | error e => simp [hinput, hcreate] at h
    | ok created =>
      obtain ⟨temporary, opened⟩ := created
      simp only [hinput, hcreate] at h
      obtain ⟨place, hstat⟩ := stat_of_regularFile hinput
      obtain ⟨hne, hvacant, rfl⟩ := createTemporary_eq hcreate
      split at h
      · cases h
      · next stats last hcomplete =>
        cases h
        obtain ⟨hstats, hreplaces⟩ := replaces_of_complete hvacant hne hstat hcomplete
        exact ⟨place, bytes, mode, hstat, rfl, hstats, hreplaces⟩

theorem runWith_error (hstat : fs.stat input = .ok (place, .file bytes mode))
    (hcreate : fs.createTemporary (Plan.forInput input job.output).path.folder =
      .ok (temporary, opened)) {e : Error} (hgo : (go (.ofBytes bytes)).1 = .error e) :
    (job.runWith go fs input).1 = .error (.core e) := by
  simp only [runWith, regularFile_of_stat hstat, hcreate, complete, hgo]

theorem runStream_eq (job : Job) (source : Source) :
    job.runStream source =
      ((job.filter source).1.mapError .core, (job.filter source).2.sink.written) := rfl

/-- A source is filtered like its bytes in one chunk. -/
theorem filter_ofBytes (job : Job) {source : Source} (hfault : source.fault = none) :
    job.filter source = job.filter (.ofBytes source.bytes) := by
  have hbytes : source.bytes = (Source.ofBytes source.bytes).bytes := by
    simp [Source.ofBytes, Source.bytes]
  exact Stream.run_congr (Stream.contents_congr hbytes hfault) hfault

/-! ### Files and streams -/

/-- What a job that succeeds has done. The stream of the bytes that the input had before, however
they arrive, gives the counts that are reported; what it gives replaces the file at the output,
with the mode that the input had before. -/
structure Publishes (job : Job) (fs : FileSystem) (input : Path) (report : Report)
    (after : FileSystem) : Prop where
  input_eq : report.input = input
  output_eq : report.output = (Plan.forInput input job.output).path
  exists_stream : ∃ place bytes mode out, fs.stat input = .ok (place, .file bytes mode) ∧
    (∀ source : Source, source.bytes = bytes → source.fault = none →
      job.runStream source = (.ok report.stats, out)) ∧
    Replaces fs report.output out mode after

/-- A job that succeeds publishes what its stream gives and changes nothing else. A job whose
stream fails fails with the same error, once its input is read and its temporary file is made. -/
theorem publishes_stream (job : Job) (fs : FileSystem) (input : Path) :
    (∀ report, (job.run fs input).1 = .ok report →
      job.Publishes fs input report (job.run fs input).2) ∧
    ∀ place bytes mode created (source : Source) e,
      fs.stat input = .ok (place, .file bytes mode) →
      fs.createTemporary (Plan.forInput input job.output).path.folder = .ok created →
      source.bytes = bytes → source.fault = none → (job.runStream source).1 = .error e →
      (job.run fs input).1 = .error e := by
  refine ⟨?_, ?_⟩
  · intro report h
    have hrun : job.runWith job.filter fs input = (.ok report, (job.run fs input).2) :=
      Prod.ext h rfl
    obtain ⟨place, bytes, mode, hstat, hreport, hstats, hreplaces⟩ := replaces_of_runWith hrun
    refine ⟨by rw [hreport], by rw [hreport], place, bytes, mode, _, hstat, ?_, hreplaces⟩
    intro source hbytes hfault
    rw [runStream_eq, job.filter_ofBytes hfault, hbytes, hstats]
    rfl
  · intro place bytes mode created source e hstat hcreate hbytes hfault herror
    rw [runStream_eq, job.filter_ofBytes hfault, hbytes] at herror
    cases hgo : (job.filter (.ofBytes bytes)).1 with
    | ok stats => simp [hgo, Except.mapError] at herror
    | error fault =>
      simp only [hgo, Except.mapError, Except.error.injEq] at herror
      rw [← herror]
      exact runWith_error hstat hcreate hgo

/-- The input is replaced; then an output in another folder that has another mode is; then the
stream fails at a byte that is not UTF-8. -/
theorem publishes_over_input :
    let job (output : Option Path) : Job := ⟨.texts false ["a"], ⟨".kept", output⟩, false⟩
    let input : Path := ⟨"in.kept.log"⟩
    let fs (bytes : List Byte) : FileSystem :=
      ⟨[(["w"], .directory), (["w", "in.kept.log"], .file bytes 0o640),
        (["w", "d"], .directory), (["w", "d", "out"], .file [120] 0o600)], ["w"]⟩
    let inPlace : Report := ⟨input, input, true, ⟨2, 1⟩⟩
    let elsewhere : Report := ⟨input, ⟨"d/out"⟩, false, ⟨2, 1⟩⟩
    ((job none).run (fs [97, 13, 10, 98]) input).1 = .ok inPlace ∧
    (job none).Publishes (fs [97, 13, 10, 98]) input inPlace
      ((job none).run (fs [97, 13, 10, 98]) input).2 ∧
    ((job (some ⟨"d/out"⟩)).run (fs [97, 13, 10, 98]) input).1 = .ok elsewhere ∧
    (job (some ⟨"d/out"⟩)).Publishes (fs [97, 13, 10, 98]) input elsewhere
      ((job (some ⟨"d/out"⟩)).run (fs [97, 13, 10, 98]) input).2 ∧
    ((job none).run (fs [97, 10, 128]) input).1 =
      .error (.core (.system (.invalidLine 2 ⟨0, some 1⟩))) := by
  refine ⟨?_, ?_, ?_, ?_, ?_⟩
  · rfl
  · exact (publishes_stream _ _ _).1 _ (by rfl)
  · rfl
  · exact (publishes_stream _ _ _).1 _ (by rfl)
  · exact (publishes_stream _ _ _).2 ["w", "in.kept.log"] [97, 10, 128] 0o640 _
      (.ofBytes [97, 10, 128]) _ (by rfl) (by rfl) (by rfl) (by rfl) (by rfl)

end LineSieve.Job
