import LineSieve.Job
import LineSieve.Proofs.FileSystem.Temporary

/-!
# Jobs that fail

Up to the move a job touches only its temporary file, and a job that fails has not moved it.
So what is left when this file is removed is what was there before.
-/

namespace LineSieve.Job

open FileSystem
open LineSieve.Stream (Source Stats Outcome Cancel)

variable {before fs after : FileSystem} {temporary : Location} {input path : Path} {e : RunError}

/-- Publishing that fails, before the move or by it, touches only the temporary file. -/
theorem publish_beside (hb : Beside before temporary fs)
    (h : publish fs temporary input path = (.error e, after)) :
    Beside before temporary after := by
  unfold publish at h
  cases hinput : regularFile fs input with
  | error fault =>
    simp only [hinput, Prod.mk.injEq] at h
    obtain ⟨-, rfl⟩ := h
    exact hb
  | ok file =>
    obtain ⟨bytes, mode⟩ := file
    cases hmove : (fs.setMode temporary mode).move temporary path with
    | error fault =>
      simp only [hinput, hmove, Prod.mk.injEq] at h
      obtain ⟨-, rfl⟩ := h
      exact hb.setMode mode
    | ok moved => simp [hinput, hmove] at h

theorem complete_beside (hb : Beside before temporary fs) {outcome : Outcome Session}
    (h : complete fs temporary input path outcome = (.error e, after)) :
    Beside before temporary after := by
  obtain ⟨result, progress⟩ := outcome
  have hfilled := hb.fill progress.sink.written
  cases result with
  | error fault =>
    simp only [complete, Prod.mk.injEq] at h
    obtain ⟨-, rfl⟩ := h
    exact hfilled
  | ok stats =>
    cases hpublish : publish (fs.fill temporary progress.sink.written) temporary input path with
    | mk published last =>
      cases published with
      | ok _ => simp [complete, hpublish, Except.map] at h
      | error fault =>
        simp only [complete, hpublish, Prod.mk.injEq] at h
        obtain ⟨-, rfl⟩ := h
        exact publish_beside hfilled hpublish

/-- However a job goes through the bytes of its input, it leaves everything as it was if it
fails. -/
theorem runWith_unchanged (job : Job) (go : Source → Outcome Session)
    (h : (job.runWith go fs input).1 = .error e) : (job.runWith go fs input).2 = fs := by
  unfold runWith at h ⊢
  cases hinput : regularFile fs input with
  | error fault => rfl
  | ok file =>
    obtain ⟨bytes, mode⟩ := file
    cases hcreate : fs.createTemporary (Plan.forInput input job.output).path.folder with
    | error fault => simp only [hcreate]
    | ok created =>
      obtain ⟨temporary, opened⟩ := created
      have hopened : Beside fs temporary opened := createTemporary_beside hcreate
      simp only [hinput, hcreate] at h ⊢
      cases hcomplete : complete opened temporary input (Plan.forInput input job.output).path
          (go (.ofBytes bytes)) with
      | mk result last =>
        cases result with
        | ok stats => simp [hcomplete] at h
        | error fault => exact (complete_beside hopened hcomplete).erase_eq

/-- A job that goes through its input at once and is cancelled as `cancel` says. -/
def runUnder (job : Job) (cancel : Cancel Session) (fs : FileSystem) (input : Path) :
    Except RunError Report × FileSystem :=
  job.runWith (Stream.run cancel (Stream.sieve job.rules) .start · .unlimited) fs input

/-- A job that feeds its input and is cancelled as `cancel` says. -/
def runFedUnder (job : Job) (cancel : Cancel Session) (fs : FileSystem) (input : Path) :
    Except RunError Report × FileSystem :=
  job.runWith (Stream.feed cancel (Stream.sieve job.rules) .start · .unlimited) fs input

/-- A job that fails changes nothing, whether it goes through its input at once or feeds it, and
whether it is cancelled from the start or at any time later. -/
theorem unchanged_of_error (job : Job) (cancel : Cancel Session) (fs : FileSystem)
    (input : Path) (e : RunError) :
    ((job.run fs input).1 = .error e → (job.run fs input).2 = fs) ∧
    ((job.runFed fs input).1 = .error e → (job.runFed fs input).2 = fs) ∧
    ((job.runUnder cancel fs input).1 = .error e → (job.runUnder cancel fs input).2 = fs) ∧
    ((job.runFedUnder cancel fs input).1 = .error e → (job.runFedUnder cancel fs input).2 = fs) :=
  ⟨job.runWith_unchanged _, job.runWith_unchanged _, job.runWith_unchanged _,
    job.runWith_unchanged _⟩

/-- The output is a directory; behind the first line the input is not UTF-8; the job is cancelled
there. -/
theorem unchanged_behind_first_line :
    let job : Job := ⟨.texts false ["a"], ⟨".kept", some ⟨"out"⟩⟩, false⟩
    let cancel : Cancel Session := fun n _ => n == 1
    let fs (bytes : List Text.Utf8.Byte) : FileSystem :=
      ⟨[(["w"], .directory), (["w", "in"], .file bytes 0o640), (["w", "out"], .directory)], ["w"]⟩
    ((job.run (fs [97, 10]) ⟨"in"⟩).1 = .error (.publish .isDirectory) ∧
      (job.run (fs [97, 10]) ⟨"in"⟩).2 = fs [97, 10]) ∧
    ((job.runFed (fs [97, 10, 128]) ⟨"in"⟩).1 =
        .error (.core (.system (.invalidLine 2 ⟨0, some 1⟩))) ∧
      (job.runFed (fs [97, 10, 128]) ⟨"in"⟩).2 = fs [97, 10, 128]) ∧
    ((job.runUnder cancel (fs [97, 10]) ⟨"in"⟩).1 = .error (.core (.cancelled 1)) ∧
      (job.runUnder cancel (fs [97, 10]) ⟨"in"⟩).2 = fs [97, 10]) ∧
    ((job.runFedUnder cancel (fs [97, 10]) ⟨"in"⟩).1 = .error (.core (.cancelled 1)) ∧
      (job.runFedUnder cancel (fs [97, 10]) ⟨"in"⟩).2 = fs [97, 10]) := by
  exact ⟨⟨rfl, (unchanged_of_error _ (fun _ _ => false) _ _ _).1 rfl⟩,
    ⟨rfl, (unchanged_of_error _ (fun _ _ => false) _ _ _).2.1 rfl⟩,
    ⟨rfl, (unchanged_of_error _ _ _ _ _).2.2.1 rfl⟩,
    ⟨rfl, (unchanged_of_error _ _ _ _ _).2.2.2 rfl⟩⟩

end LineSieve.Job
