import LineSieve.Proofs.FileSystem.Places
import LineSieve.Proofs.Job.Publishing
import LineSieve.Proofs.Settings.Planning

/-!
# Reports of overwriting

A job decides by the texts of two paths whether it reports that its input is overwritten, and the
file system decides which file is. What is reported is so. What is not reported is not so if no
dots, no change between absolute and relative paths and no slash in the marker can hide it.
-/

namespace LineSieve.Job

open FileSystem
open Text.Utf8 (Byte)

variable {fs : FileSystem} {input : Path} {output : OutputSettings} {place other : Location}
  {bytes : List Byte} {mode : Nat}

/-! ### Plans -/

/-- Settings under which an output that is the input can be told by its path. -/
def ToldByPath (output : OutputSettings) (input : Path) : Prop :=
  match output.path with
  | some path => path.IsPlain ∧ input.IsPlain ∧ path.isAbsolute = input.isAbsolute
  | none => '/' ∉ output.marker.toList

/-- An output that is planned to be the input is the input. -/
theorem eq_of_overwrite (h : (Plan.forInput input output).overwrite = true)
    (hinput : fs.locate input = .ok place)
    (houtput : fs.locate (Plan.forInput input output).path = .ok other) : other = place := by
  obtain ⟨marker, path⟩ := output
  cases path with
  | some path => exact eq_of_same h houtput hinput
  | none =>
    by_cases hinfix : (Plan.tail input marker).toList <:+: input.text.toList
    · rw [Plan.forInput_of_isInfix hinfix, hinput, Except.ok.injEq] at houtput
      exact houtput.symm
    · rw [Plan.forInput_of_not_isInfix hinfix] at h
      cases h

/-- An output that can be told by its path and is not planned to be the input is another file. -/
theorem ne_of_not_overwrite (htold : ToldByPath output input)
    (h : (Plan.forInput input output).overwrite = false)
    (hinput : fs.stat input = .ok (place, .file bytes mode))
    (houtput : fs.locate (Plan.forInput input output).path = .ok other) : other ≠ place := by
  obtain ⟨hplace, hfile⟩ := stat_eq_ok_iff.mp hinput
  obtain ⟨marker, path⟩ := output
  cases path with
  | some path =>
    rintro rfl
    have hsame := same_of_isPlain htold.1 htold.2.1 htold.2.2 houtput hplace
    exact Bool.false_ne_true (h.symm.trans hsame)
  | none =>
    have hinfix := Plan.not_isInfix_of_overwrite h
    rw [Plan.forInput_of_not_isInfix hinfix] at houtput
    refine ne_of_locate_append (Plan.slash_not_mem_tail htold) ?_ hplace hfile houtput
    intro hempty
    exact hinfix (hempty ▸ List.nil_infix)

/-! ### Reports -/

/-- A job that reports an overwritten input has replaced the input. One that has replaced another
file has left the input as it was. Where an output that is the input can be told by its path, it
is reported: the input is replaced exactly when the report says so. -/
theorem reports_overwrite (job : Job) (fs : FileSystem) (input : Path) (report : Report)
    (h : (job.run fs input).1 = .ok report) :
    ∃ place bytes mode outputPlace, fs.stat input = .ok (place, .file bytes mode) ∧
      fs.locate report.output = .ok outputPlace ∧
      (report.overwrite = true → outputPlace = place) ∧
      (outputPlace ≠ place → (job.run fs input).2.stat input = .ok (place, .file bytes mode)) ∧
      (ToldByPath job.output input → (report.overwrite = true ↔ outputPlace = place)) := by
  have hrun : job.runWith job.filter fs input = (.ok report, (job.run fs input).2) :=
    Prod.ext h rfl
  obtain ⟨place, bytes, mode, hstat, hreport, -, hreplaces⟩ := replaces_of_runWith hrun
  obtain ⟨outputPlace, hlocate, -⟩ := hreplaces.exists_place
  have hinput := (stat_eq_ok_iff.mp hstat).1
  have hplan : report.overwrite = (Plan.forInput input job.output).overwrite := by rw [hreport]
  have hpath : fs.locate (Plan.forInput input job.output).path = .ok outputPlace := by
    rw [← hlocate, hreport]
  have hsame : report.overwrite = true → outputPlace = place := by
    rw [hplan]
    exact fun hoverwrite => eq_of_overwrite hoverwrite hinput hpath
  refine ⟨place, bytes, mode, outputPlace, hstat, hlocate, hsame, ?_, ?_⟩
  · intro hne
    exact hreplaces.stat_eq hlocate hstat (Ne.symm hne)
  · intro htold
    refine ⟨hsame, fun heq => ?_⟩
    by_contra hoverwrite
    rw [hplan, Bool.not_eq_true] at hoverwrite
    exact ne_of_not_overwrite htold hoverwrite hstat hpath heq

/-- The output is told to be another file, so the input stays. -/
theorem reports_overwrite_elsewhere :
    let job : Job := ⟨.texts false ["x"], ⟨".kept", some ⟨"b"⟩⟩, false⟩
    let file : Entry := .file [120, 10, 121, 10] 0o640
    let fs : FileSystem := ⟨[(["w"], .directory), (["w", "a"], file)], ["w"]⟩
    (job.run fs ⟨"a"⟩).1 = .ok ⟨⟨"a"⟩, ⟨"b"⟩, false, ⟨2, 1⟩⟩ ∧
      (job.run fs ⟨"a"⟩).2.stat ⟨"a"⟩ = .ok (["w", "a"], file) := by
  have hok : (Job.run ⟨.texts false ["x"], ⟨".kept", some ⟨"b"⟩⟩, false⟩
      ⟨[(["w"], .directory), (["w", "a"], .file [120, 10, 121, 10] 0o640)], ["w"]⟩ ⟨"a"⟩).1 =
      .ok ⟨⟨"a"⟩, ⟨"b"⟩, false, ⟨2, 1⟩⟩ := by rfl
  refine ⟨hok, ?_⟩
  obtain ⟨place, bytes, mode, outputPlace, hstat, -, -, hkept, hiff⟩ :=
    reports_overwrite _ _ _ _ hok
  have hplain (name : String) (h : (⟨name⟩ : Path).components = [.name name]) :
      (⟨name⟩ : Path).IsPlain := by simp [Path.IsPlain, h]
  have htold := hiff ⟨hplain "b" (by decide), hplain "a" (by decide), by decide⟩
  have hne : outputPlace ≠ place := fun heq => Bool.false_ne_true (htold.mpr heq)
  rw [hkept hne, ← hstat]
  rfl

/-- A replaced input is not always reported: the path of the output can start with a dot. -/
theorem overwrites_unreported :
    ¬∀ (job : Job) (fs : FileSystem) (input : Path) (report : Report) (place : Location)
      (e : Entry), fs.stat input = .ok (place, e) →
      (job.run fs input).1 = .ok report →
      (report.overwrite = true ↔ fs.locate report.output = .ok place) ∧
        (report.overwrite = false → (job.run fs input).2.stat input = .ok (place, e)) := by
  intro h
  have hreport := h ⟨.texts false ["x"], ⟨".kept", some ⟨"./a"⟩⟩, false⟩
    ⟨[(["w"], .directory), (["w", "a"], .file [120, 10, 121, 10] 0o640)], ["w"]⟩ ⟨"a"⟩
    ⟨⟨"a"⟩, ⟨"./a"⟩, false, ⟨2, 1⟩⟩ ["w", "a"] (.file [120, 10, 121, 10] 0o640) (by rfl) (by rfl)
  exact absurd (hreport.2 rfl) (by decide +kernel)

end LineSieve.Job
