import LineSieve.Proofs.FileSystem.Temporary

/-!
# Moving files

Where a path leads depends only on where the directories are. A file that is put at a location,
filled or moved to a path is no directory and takes the place of none, so every path leads to the
same location before and after.
-/

namespace LineSieve.FileSystem

open Text.Utf8 (Byte)

variable {fs other after : FileSystem} {loc start mid : Location} {path : Path}

/-! ### The same directories -/

/-- Two file systems with their directories at the same locations. -/
structure SameDirectories (fs other : FileSystem) : Prop where
  workingDir_eq : fs.workingDir = other.workingDir
  directory_iff (loc : Location) :
    fs.entryAt? loc = some .directory ↔ other.entryAt? loc = some .directory

theorem SameDirectories.symm (h : SameDirectories fs other) : SameDirectories other fs :=
  ⟨h.workingDir_eq.symm, fun loc => (h.directory_iff loc).symm⟩

theorem ne_nil_of_entryAt? (h : fs.entryAt? loc ≠ some .directory) : loc ≠ [] := by
  rintro rfl
  exact h rfl

theorem sameDirectories_put (h : fs.entryAt? loc ≠ some .directory) (bytes : List Byte)
    (mode : Nat) : SameDirectories fs (fs.put loc (.file bytes mode)) := by
  refine ⟨rfl, fun place => ?_⟩
  by_cases hplace : place = loc
  · rw [hplace, entryAt?_put_self fs (ne_nil_of_entryAt? h)]
    exact ⟨fun hdir => absurd hdir h, fun hfile => nomatch hfile⟩
  · rw [entryAt?_put_of_ne fs hplace]

theorem Vacant.sameDirectories_put (h : fs.Vacant loc) (hne : loc ≠ []) (bytes : List Byte)
    (mode : Nat) : SameDirectories fs (fs.put loc (.file bytes mode)) :=
  FileSystem.sameDirectories_put (by simp [h.entryAt?_eq hne]) bytes mode

/-! ### Walking -/

/-- Only a directory can be asked for a piece. -/
theorem directory_of_step {piece : String} (h : fs.step start piece = .ok loc) :
    fs.entryAt? start = some .directory := by
  match hentry : fs.entryAt? start with
  | none => simp [step, hentry] at h
  | some (.file _ _) => simp [step, hentry] at h
  | some .directory => rfl

theorem SameDirectories.step (h : SameDirectories fs other) {piece : String}
    (hs : fs.step start piece = .ok loc) : other.step start piece = .ok loc := by
  have hdir := directory_of_step hs
  have hdir' := (h.directory_iff start).mp hdir
  simp only [FileSystem.step, hdir] at hs
  simp only [FileSystem.step, hdir', hs]

theorem SameDirectories.walk (h : SameDirectories fs other) {pieces : List String}
    (hw : fs.walk start pieces = .ok loc) : other.walk start pieces = .ok loc := by
  induction pieces generalizing start with
  | nil => exact hw
  | cons piece rest ih =>
    cases hs : fs.step start piece with
    | error e => simp [FileSystem.walk, hs] at hw
    | ok next =>
      simp only [FileSystem.walk, hs] at hw
      simp only [FileSystem.walk, h.step hs, ih hw]

theorem walk_append {pieces more : List String} (hw : fs.walk start pieces = .ok mid)
    (hmore : fs.walk mid more = .ok loc) : fs.walk start (pieces ++ more) = .ok loc := by
  induction pieces generalizing start with
  | nil =>
    cases hw
    exact hmore
  | cons piece rest ih =>
    cases hs : fs.step start piece with
    | error e => simp [walk, hs] at hw
    | ok next =>
      simp only [walk, hs] at hw
      simp only [List.cons_append, walk, hs, ih hw]

theorem SameDirectories.locate (h : SameDirectories fs other) (hl : fs.locate path = .ok loc) :
    other.locate path = .ok loc := by
  unfold FileSystem.locate at hl ⊢
  cases hrefused : refused? path with
  | some e => simp [hrefused] at hl
  | none =>
    simp only [hrefused, origin] at hl ⊢
    rw [← h.workingDir_eq]
    exact h.walk hl

theorem stat_eq_ok_iff {e : Entry} :
    fs.stat path = .ok (loc, e) ↔ fs.locate path = .ok loc ∧ fs.entryAt? loc = some e := by
  unfold stat
  cases hlocate : fs.locate path with
  | error fault => simp
  | ok place =>
    constructor
    · intro h
      cases hentry : fs.entryAt? place with
      | none => simp [hentry] at h
      | some entry =>
        simp only [hentry, Except.ok.injEq, Prod.mk.injEq] at h
        obtain ⟨rfl, rfl⟩ := h
        exact ⟨rfl, hentry⟩
    · rintro ⟨hplace, hentry⟩
      cases hplace
      simp only [hentry]

/-! ### Targets -/

/-- A path that does not end in a slash loses no pieces at its end. -/
theorem pieces_eq_of_dropWhile {pieces : List String} {last : String} {before : List String}
    (h : pieces.reverse.dropWhile (· = "") = last :: before) (hend : pieces.getLast? ≠ some "") :
    pieces = before.reverse ++ [last] := by
  rw [← List.head?_reverse] at hend
  cases hpieces : pieces.reverse with
  | nil => simp [hpieces] at h
  | cons piece rest =>
    have hne : piece ≠ "" := fun he => hend (by rw [hpieces, he, List.head?_cons])
    rw [hpieces, List.dropWhile_cons_of_neg (by simpa using hne), List.cons.injEq] at h
    rw [← List.reverse_reverse pieces, hpieces, h.1, h.2, List.reverse_cons]

/-- A file is moved only to where its path leads, and there is no directory. -/
theorem locate_of_target (h : fs.target path = .ok loc) :
    fs.locate path = .ok loc ∧ fs.entryAt? loc ≠ some .directory := by
  unfold target at h
  cases hrefused : refused? path with
  | some e => cases e <;> simp [hrefused] at h
  | none =>
    simp only [hrefused] at h
    cases hpieces : path.pieces.reverse.dropWhile (· = "") with
    | nil => simp [hpieces] at h
    | cons last before =>
      simp only [hpieces] at h
      cases hwalk : fs.walk (fs.origin path) before.reverse with
      | error e => simp [hwalk] at h
      | ok dir =>
        simp only [hwalk] at h
        cases hstep : fs.step dir last with
        | error e => simp [hstep] at h
        | ok place =>
          simp only [hstep] at h
          split_ifs at h with hdots hend hentry
          cases h
          have hlast : fs.walk dir [last] = .ok loc := by simp only [walk, hstep]
          refine ⟨?_, hentry⟩
          rw [locate, hrefused, pieces_eq_of_dropWhile hpieces hend]
          exact walk_append hwalk hlast

theorem move_eq_ok {source : Location} (h : fs.move source path = .ok after) :
    ∃ loc e, fs.locate path = .ok loc ∧ fs.entryAt? loc ≠ some .directory ∧
      fs.entryAt? source = some e ∧ after = (fs.erase source).put loc e := by
  unfold move at h
  cases htarget : fs.target path with
  | error e => simp [htarget] at h
  | ok loc =>
    cases hentry : fs.entryAt? source with
    | none => simp [htarget, hentry] at h
    | some e =>
      simp only [htarget, hentry, Except.ok.injEq] at h
      obtain ⟨hlocate, hdir⟩ := locate_of_target htarget
      exact ⟨loc, e, hlocate, hdir, rfl, h.symm⟩

/-! ### A file at a path -/

/-- The file at a path is replaced, or there is a new one; everything else is as it was. -/
structure Replaces (fs : FileSystem) (path : Path) (bytes : List Byte) (mode : Nat)
    (after : FileSystem) : Prop where
  workingDir_eq : after.workingDir = fs.workingDir
  exists_place : ∃ place, fs.locate path = .ok place ∧ fs.entryAt? place ≠ some .directory ∧
    after.stat path = .ok (place, .file bytes mode) ∧
    ∀ other, other ≠ place → after.entryAt? other = fs.entryAt? other

theorem replaces_put {bytes : List Byte} {mode : Nat} (hlocate : fs.locate path = .ok loc)
    (hdir : fs.entryAt? loc ≠ some .directory) :
    Replaces fs path bytes mode (fs.put loc (.file bytes mode)) := by
  refine ⟨rfl, loc, hlocate, hdir, ?_, fun other hother => entryAt?_put_of_ne fs hother _⟩
  exact stat_eq_ok_iff.mpr ⟨(sameDirectories_put hdir bytes mode).locate hlocate,
    entryAt?_put_self fs (ne_nil_of_entryAt? hdir) _⟩

theorem Replaces.sameDirectories {bytes : List Byte} {mode : Nat}
    (h : Replaces fs path bytes mode after) : SameDirectories fs after := by
  obtain ⟨place, -, hdir, hstat, hother⟩ := h.exists_place
  have hfile := (stat_eq_ok_iff.mp hstat).2
  refine ⟨h.workingDir_eq.symm, fun loc => ?_⟩
  by_cases hloc : loc = place
  · rw [hloc, hfile]
    exact ⟨fun hdir' => absurd hdir' hdir, fun hdir' => nomatch hdir'⟩
  · rw [hother loc hloc]

/-- What is at another place is found there as before. -/
theorem Replaces.stat_eq {bytes : List Byte} {mode : Nat} {place other : Location} {input : Path}
    {e : Entry} (h : Replaces fs path bytes mode after) (hlocate : fs.locate path = .ok place)
    (hinput : fs.stat input = .ok (other, e)) (hne : other ≠ place) :
    after.stat input = .ok (other, e) := by
  obtain ⟨place', hlocate', -, -, hother⟩ := h.exists_place
  rw [hlocate, Except.ok.injEq] at hlocate'
  subst hlocate'
  obtain ⟨hplace, hentry⟩ := stat_eq_ok_iff.mp hinput
  exact stat_eq_ok_iff.mpr ⟨h.sameDirectories.locate hplace, by rw [hother other hne, hentry]⟩

/-- A temporary file that is moved to a path is all that is new. -/
theorem Vacant.replaces_of_move {temporary : Location} (hvacant : fs.Vacant temporary)
    (hne : temporary ≠ []) {bytes : List Byte} {mode : Nat}
    (h : (fs.put temporary (.file bytes mode)).move temporary path = .ok after) :
    Replaces fs path bytes mode after := by
  have hsame := (hvacant.sameDirectories_put hne bytes mode).symm
  obtain ⟨loc, e, hlocate, hdir, hentry, rfl⟩ := move_eq_ok h
  rw [entryAt?_put_self fs hne, Option.some.injEq] at hentry
  rw [erase_put, hvacant.erase_eq, ← hentry]
  exact replaces_put (hsame.locate hlocate) fun hd => hdir ((hsame.directory_iff loc).mpr hd)

/-- A file that is there is found also beside a temporary one. -/
theorem Vacant.stat_put {temporary place : Location} (hvacant : fs.Vacant temporary)
    (hne : temporary ≠ []) {e : Entry} (h : fs.stat path = .ok (place, e)) (bytes : List Byte)
    (mode : Nat) :
    (fs.put temporary (.file bytes mode)).stat path = .ok (place, e) := by
  obtain ⟨hlocate, hentry⟩ := stat_eq_ok_iff.mp h
  have hother : place ≠ temporary := by
    rintro rfl
    rw [hvacant.entryAt?_eq hne] at hentry
    cases hentry
  refine stat_eq_ok_iff.mpr ⟨(hvacant.sameDirectories_put hne bytes mode).locate hlocate, ?_⟩
  rw [entryAt?_put_of_ne fs hother, hentry]

end LineSieve.FileSystem
