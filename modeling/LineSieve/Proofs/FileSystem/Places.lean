import LineSieve.Proofs.FileSystem.Moving
import LineSieve.Proofs.Path.Names

/-!
# Places of paths

Where a path leads, if it leads anywhere, can be told from its components without a look at what
is there. Paths that are the same therefore lead to the same place, and of two paths without dots,
either both or neither absolute, only those that are the same do.
-/

namespace LineSieve

/-! ### Components as steps -/

/-- The place that a component leads to from a place. -/
def Path.Component.goFrom (loc : Location) : Path.Component → Location
  | .root => []
  | .here => loc
  | .up => loc.dropLast
  | .name s => loc ++ [s]

/-- A path with no dots among its components. -/
def Path.IsPlain (path : Path) : Prop := ∀ c ∈ path.components, c ≠ .here ∧ c ≠ .up

namespace FileSystem

open LineSieve.Path (Component componentOf? firstComponent? IsName)

variable {fs : FileSystem} {loc place other start mid : Location} {path more : Path}
  {piece last : String} {pieces : List String}

/-- A piece that is a component leads to where the component does, and any other piece nowhere. -/
theorem eq_of_step (h : fs.step start piece = .ok loc) :
    loc = (componentOf? piece).toList.foldl Component.goFrom start := by
  have hdir := directory_of_step h
  simp only [step, hdir] at h
  unfold componentOf?
  split_ifs at h ⊢ with hidle hdots <;> cases h <;> rfl

theorem eq_of_walk (h : fs.walk start pieces = .ok loc) :
    loc = (pieces.filterMap componentOf?).foldl Component.goFrom start := by
  induction pieces generalizing start with
  | nil =>
    cases h
    rfl
  | cons piece rest ih =>
    cases hstep : fs.step start piece with
    | error e => simp [walk, hstep] at h
    | ok next =>
      simp only [walk, hstep] at h
      rw [ih h, eq_of_step hstep, List.filterMap_cons]
      cases componentOf? piece <;> rfl

theorem walk_of_locate (h : fs.locate path = .ok loc) :
    path.text ≠ "" ∧ fs.walk (fs.origin path) path.pieces = .ok loc := by
  unfold locate at h
  cases hrefused : refused? path with
  | some e => simp [hrefused] at h
  | none =>
    refine ⟨?_, by simpa only [hrefused] using h⟩
    intro hempty
    unfold refused? at hrefused
    split_ifs at hrefused

/-- The place that a path leads to is told by its components. -/
theorem eq_of_locate (h : fs.locate path = .ok loc) :
    loc = path.components.foldl Component.goFrom fs.workingDir := by
  have hplace := eq_of_walk (walk_of_locate h).2
  unfold Path.components
  by_cases habsolute : path.isAbsolute = true
  · obtain ⟨rest, -, hpieces⟩ := Path.pieces_of_isAbsolute habsolute
    rw [origin, if_pos habsolute] at hplace
    simp only [hpieces, firstComponent?, if_pos habsolute]
    rw [hplace, hpieces]
    rfl
  · rw [origin, if_neg habsolute] at hplace
    rw [hplace]
    cases path.pieces with
    | nil => rfl
    | cons first rest =>
      simp only [firstComponent?, if_neg habsolute, List.filterMap_cons]
      by_cases hdot : first = "."
      · rw [if_pos hdot, hdot]
        rfl
      · rw [if_neg hdot]
        cases componentOf? first <;> rfl

theorem eq_of_same (hsame : path.same more = true) (h : fs.locate path = .ok place)
    (hmore : fs.locate more = .ok other) : place = other := by
  rw [eq_of_locate h, eq_of_locate hmore, beq_iff_eq.mp hsame]

/-! ### Plain paths -/

theorem foldl_goFrom_names (names : List String) (start : Location) :
    (names.map Component.name).foldl Component.goFrom start = start ++ names := by
  induction names generalizing start with
  | nil => simp
  | cons s rest ih => simp [Component.goFrom, ih]

theorem ne_root_of_componentOf? {c : Component} (h : componentOf? piece = some c) :
    c ≠ .root := by
  unfold componentOf? at h
  split_ifs at h <;> cases h <;> simp

theorem exists_names {cs : List Component}
    (h : ∀ c ∈ cs, c ≠ .root ∧ c ≠ .here ∧ c ≠ .up) :
    ∃ names : List String, cs = names.map .name := by
  induction cs with
  | nil => exact ⟨[], rfl⟩
  | cons c rest ih =>
    obtain ⟨hc, hrest⟩ := List.forall_mem_cons.mp h
    obtain ⟨names, rfl⟩ := ih hrest
    cases c with
    | root => exact absurd rfl hc.1
    | here => exact absurd rfl hc.2.1
    | up => exact absurd rfl hc.2.2
    | name s => exact ⟨s :: names, rfl⟩

/-- A plain path has names only, behind the root if it is absolute. -/
theorem exists_names_of_isPlain (h : path.IsPlain) :
    ∃ names : List String, path.components =
      (if path.isAbsolute then [Component.root] else []) ++ names.map .name := by
  have hrest : ∀ rest : List String, ∀ c ∈ rest.filterMap componentOf?, c ≠ .root := by
    intro rest c hc
    obtain ⟨piece, -, hpiece⟩ := List.mem_filterMap.mp hc
    exact ne_root_of_componentOf? hpiece
  unfold Path.IsPlain at h
  unfold Path.components at h ⊢
  by_cases habsolute : path.isAbsolute = true
  · obtain ⟨rest, -, hpieces⟩ := Path.pieces_of_isAbsolute habsolute
    simp only [hpieces, firstComponent?, if_pos habsolute, Option.toList_some,
      List.singleton_append, List.forall_mem_cons] at h ⊢
    obtain ⟨names, hnames⟩ := exists_names fun c hc => ⟨hrest rest c hc, h.2 c hc⟩
    exact ⟨names, by rw [hnames]⟩
  · cases hpieces : path.pieces with
    | nil => exact ⟨[], by simp [habsolute]⟩
    | cons first rest =>
      simp only [hpieces] at h
      have hroot : ∀ c ∈ (path.firstComponent? first).toList ++ rest.filterMap componentOf?,
          c ≠ .root := by
        intro c hc
        rcases List.mem_append.mp hc with hfirst | hbehind
        · rw [Option.mem_toList, firstComponent?, if_neg habsolute] at hfirst
          split_ifs at hfirst
          · cases hfirst
            simp
          · exact ne_root_of_componentOf? hfirst
        · exact hrest rest c hbehind
      obtain ⟨names, hnames⟩ := exists_names fun c hc => ⟨hroot c hc, h c hc⟩
      exact ⟨names, by simp only [hnames, if_neg habsolute, List.nil_append]⟩

theorem same_of_isPlain (hplain : path.IsPlain) (hmore : more.IsPlain)
    (habsolute : path.isAbsolute = more.isAbsolute) (h : fs.locate path = .ok place)
    (h' : fs.locate more = .ok place) : path.same more = true := by
  obtain ⟨names, hnames⟩ := exists_names_of_isPlain hplain
  obtain ⟨names', hnames'⟩ := exists_names_of_isPlain hmore
  have heq := (eq_of_locate h).symm.trans (eq_of_locate h')
  rw [hnames, hnames', ← habsolute, List.foldl_append, List.foldl_append, foldl_goFrom_names,
    foldl_goFrom_names, List.append_cancel_left_eq] at heq
  rw [Path.same, beq_iff_eq, hnames, hnames', ← habsolute, heq]

/-! ### Names that get longer -/

theorem exists_of_walk_append {before : List String}
    (h : fs.walk start (before ++ pieces) = .ok loc) :
    ∃ mid, fs.walk start before = .ok mid ∧ fs.walk mid pieces = .ok loc := by
  induction before generalizing start with
  | nil => exact ⟨start, rfl, h⟩
  | cons piece rest ih =>
    cases hstep : fs.step start piece with
    | error e => simp [walk, hstep] at h
    | ok next =>
      simp only [List.cons_append, walk, hstep] at h ⊢
      exact ih h

theorem walk_singleton : fs.walk start [piece] = fs.step start piece := by
  cases h : fs.step start piece <;> simp only [walk, h]

theorem isAbsolute_append {tail : String} (hne : path.text ≠ "") :
    (⟨path.text ++ tail⟩ : Path).isAbsolute = path.isAbsolute := by
  have hchars : path.text.toList ≠ [] := fun hnil => hne (String.toList_eq_nil_iff.mp hnil)
  rw [Path.isAbsolute, Path.isAbsolute, String.toList_append,
    List.head?_append_of_ne_nil _ hchars]

/-- What the path of a file gets behind it without a slash leads to another place. -/
theorem ne_of_locate_append {tail : String} {bytes : List Text.Utf8.Byte} {mode : Nat}
    (hslash : '/' ∉ tail.toList) (htail : tail ≠ "") (h : fs.locate path = .ok place)
    (hfile : fs.entryAt? place = some (.file bytes mode))
    (hmore : fs.locate ⟨path.text ++ tail⟩ = .ok other) : other ≠ place := by
  obtain ⟨hne, hwalk⟩ := walk_of_locate h
  have hwalk' := (walk_of_locate hmore).2
  obtain ⟨before, last, hpieces, hpieces'⟩ := Path.pieces_append hslash path
  rw [hpieces] at hwalk
  rw [hpieces', origin, isAbsolute_append hne, ← origin] at hwalk'
  obtain ⟨dir, hdir, hstep⟩ := exists_of_walk_append hwalk
  obtain ⟨dir', hdir', hstep'⟩ := exists_of_walk_append hwalk'
  rw [hdir, Except.ok.injEq] at hdir'
  subst hdir'
  rw [walk_singleton] at hstep hstep'
  have hplace := eq_of_step hstep
  have hother := eq_of_step hstep'
  -- the last piece names something, since a directory is no file
  have hidle : ¬(last = "" ∨ last = ".") := by
    intro hidle
    rw [componentOf?, if_pos hidle] at hplace
    rw [hplace, Option.toList_none, List.foldl_nil, directory_of_step hstep] at hfile
    cases hfile
  have hname : IsName (last ++ tail) := Path.isName_append (fun h => hidle (Or.inl h))
    (fun h => hidle (Or.inr h)) htail
  rw [Path.componentOf?_of_isName hname] at hother
  rw [hplace, hother]
  unfold componentOf?
  rw [if_neg hidle]
  split_ifs with hdots
  · intro heq
    have := congrArg List.length heq
    simp [Component.goFrom] at this
    omega
  · intro heq
    have htext : last ++ tail = last ++ "" := by simpa [Component.goFrom] using heq
    exact htail ((String.append_right_inj last).mp htext)

end FileSystem
end LineSieve
