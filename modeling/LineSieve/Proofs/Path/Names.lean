import LineSieve.Path
import LineSieve.Proofs.Text.Splitting

/-!
# Names at the end of paths

The last piece of a path, if it is a name, is the last name of the path. What is added to a path
without a slash is added to that piece, so it shows in the last name and in its extension, which
is what stands behind the last dot.
-/

namespace LineSieve.Path

open Text (splitOn_append_of_not_mem)

variable {p : Path} {name last : String} {before : List String}

/-! ### Pieces -/

theorem piecesFrom_eq (piece cs : List Char) :
    piecesFrom piece cs = (cs.splitOn '/').modifyHead (piece.reverse ++ ·) := by
  induction cs generalizing piece with
  | nil => simp [piecesFrom]
  | cons c rest ih =>
    obtain ⟨first, more, hrest⟩ := List.exists_cons_of_ne_nil (List.splitOn_ne_nil '/' rest)
    rw [List.splitOn_cons_eq_if_modifyHead, hrest, piecesFrom, ih, ih, hrest]
    by_cases hc : c = '/'
    · simp [hc]
    · simp [hc]

theorem pieces_eq (p : Path) : p.pieces = (p.text.toList.splitOn '/').map String.ofList := by
  obtain ⟨first, more, hsplit⟩ :=
    List.exists_cons_of_ne_nil (List.splitOn_ne_nil '/' p.text.toList)
  rw [pieces, piecesFrom_eq, hsplit, List.modifyHead_cons, List.reverse_nil, List.nil_append]

theorem not_mem_of_mem_pieces {piece : String} (h : piece ∈ p.pieces) : '/' ∉ piece.toList := by
  rw [pieces_eq] at h
  obtain ⟨cs, hcs, rfl⟩ := List.mem_map.mp h
  rw [String.toList_ofList]
  exact Text.not_mem_of_mem_splitOn hcs

/-- What is added without a slash is added to the last piece. -/
theorem pieces_append {tail : String} (h : '/' ∉ tail.toList) (p : Path) :
    ∃ before last, p.pieces = before ++ [last] ∧
      (⟨p.text ++ tail⟩ : Path).pieces = before ++ [last ++ tail] := by
  obtain ⟨before, last, hp, hmore⟩ := splitOn_append_of_not_mem h p.text.toList
  refine ⟨before.map String.ofList, String.ofList last, ?_, ?_⟩
  · rw [pieces_eq, hp, List.map_append, List.map_singleton]
  · rw [pieces_eq, String.toList_append, hmore, List.map_append, List.map_singleton,
      String.ofList_append, String.ofList_toList]

/-- Only the first piece of an absolute path has nothing before it, and it is empty. -/
theorem pieces_of_isAbsolute (h : p.isAbsolute = true) :
    ∃ rest, rest ≠ [] ∧ p.pieces = "" :: rest := by
  obtain ⟨text⟩ := p
  cases hcs : text.toList with
  | nil => simp [isAbsolute, hcs] at h
  | cons c rest =>
    have hc : c = '/' := by simpa [isAbsolute, hcs] using h
    refine ⟨(rest.splitOn '/').map String.ofList, ?_, ?_⟩
    · simp [List.splitOn_ne_nil]
    · rw [pieces_eq, hcs, hc, List.splitOn_cons_eq_if_modifyHead, if_pos (by decide),
        List.map_cons, String.ofList_nil]

/-! ### Last names -/

/-- A piece that is a name, and neither nothing nor dots. -/
def IsName (piece : String) : Prop := piece ≠ "" ∧ piece ≠ "." ∧ piece ≠ ".."

theorem componentOf?_of_isName (h : IsName name) : componentOf? name = some (.name name) := by
  obtain ⟨hempty, hdot, hdots⟩ := h
  rw [componentOf?, if_neg (by simp [hempty, hdot]), if_neg hdots]

theorem isName_of_componentOf? {piece : String} (h : componentOf? piece = some (.name name)) :
    IsName piece ∧ piece = name := by
  unfold componentOf? at h
  split_ifs at h with hidle hdots
  · cases h
  · rw [not_or] at hidle
    rw [Option.some.injEq, Component.name.injEq] at h
    exact ⟨⟨hidle.1, hidle.2, hdots⟩, h⟩

theorem isName_of_firstComponent? {piece : String}
    (h : p.firstComponent? piece = some (.name name)) : IsName piece ∧ piece = name := by
  unfold firstComponent? at h
  split_ifs at h
  · cases h
  · cases h
  · exact isName_of_componentOf? h

theorem lastName?_of_pieces (h : p.pieces = before ++ [last]) (hlast : IsName last) :
    p.lastName? = some last := by
  have hcomponents : ∃ more, p.components = more ++ [.name last] := by
    cases before with
    | nil =>
      have habsolute : ¬p.isAbsolute = true := by
        intro habs
        obtain ⟨rest, hne, hpieces⟩ := pieces_of_isAbsolute habs
        rw [hpieces, List.nil_append, List.cons.injEq] at h
        exact hne h.2
      refine ⟨[], ?_⟩
      rw [components, h]
      simp [firstComponent?, habsolute, hlast.2.1, componentOf?_of_isName hlast]
    | cons first more =>
      refine ⟨(p.firstComponent? first).toList ++ more.filterMap componentOf?, ?_⟩
      rw [components, h]
      simp [componentOf?_of_isName hlast]
  obtain ⟨more, hmore⟩ := hcomponents
  rw [lastName?, hmore, List.getLast?_concat]

/-- The last name of a path is one of its pieces. -/
theorem mem_pieces_of_lastName? (h : p.lastName? = some name) : IsName name ∧ name ∈ p.pieces := by
  unfold lastName? at h
  split at h
  · next s heq =>
    cases h
    have hmem := List.mem_of_getLast? heq
    unfold components at hmem
    cases hpieces : p.pieces with
    | nil => simp [hpieces] at hmem
    | cons first rest =>
      simp only [hpieces, List.mem_append, Option.mem_toList, List.mem_filterMap] at hmem
      rcases hmem with hfirst | ⟨piece, hpiece, hcomponent⟩
      · obtain ⟨hname, rfl⟩ := isName_of_firstComponent? hfirst
        exact ⟨hname, List.mem_cons_self⟩
      · obtain ⟨hname, rfl⟩ := isName_of_componentOf? hcomponent
        exact ⟨hname, List.mem_cons_of_mem _ hpiece⟩
  · cases h

/-- What gets longer is a name if it was more than nothing and a dot. -/
theorem isName_append (hne : last ≠ "") (hdot : last ≠ ".") {tail : String} (htail : tail ≠ "") :
    IsName (last ++ tail) := by
  have hlast : last.toList ≠ [] := fun hnil => hne (String.toList_eq_nil_iff.mp hnil)
  have htail' : tail.toList ≠ [] := fun hnil => htail (String.toList_eq_nil_iff.mp hnil)
  have hlength : 2 ≤ (last ++ tail).toList.length := by
    have := List.length_pos_of_ne_nil hlast
    have := List.length_pos_of_ne_nil htail'
    rw [String.toList_append, List.length_append]
    omega
  refine ⟨?_, ?_, ?_⟩
  · intro heq
    simp [heq] at hlength
  · intro heq
    simp [heq] at hlength
  · intro heq
    have hchars := congrArg String.toList heq
    rw [String.toList_append] at hchars
    obtain ⟨c, rest, hc⟩ := List.exists_cons_of_ne_nil hlast
    obtain ⟨d, more, hd⟩ := List.exists_cons_of_ne_nil htail'
    -- two characters in all, so the first one is the dot that it must not be
    rw [hc, hd, show "..".toList = ['.', '.'] from rfl] at hchars
    cases rest with
    | nil =>
      refine hdot (String.toList_inj.mp ?_)
      rw [hc]
      simp only [List.cons_append, List.cons.injEq] at hchars
      rw [hchars.1]
      rfl
    | cons e rest =>
      have := congrArg List.length hchars
      simp at this

/-! ### Extensions -/

theorem splitLastDot?_eq_none_iff {cs : List Char} : splitLastDot? cs = none ↔ '.' ∉ cs := by
  induction cs with
  | nil => simp [splitLastDot?]
  | cons c rest ih =>
    rw [splitLastDot?, List.mem_cons, not_or]
    cases hrest : splitLastDot? rest with
    | some split => simp [← ih, hrest]
    | none =>
      have hnot : '.' ∉ rest := ih.mp hrest
      by_cases hc : c = '.'
      · simp [hc]
      · simp [hc, Ne.symm hc, hnot]

theorem splitLastDot?_append (stem : List Char) {ext : List Char} (h : '.' ∉ ext) :
    splitLastDot? (stem ++ '.' :: ext) = some (stem, ext) := by
  induction stem with
  | nil =>
    rw [List.nil_append, splitLastDot?, splitLastDot?_eq_none_iff.mpr h]
    rfl
  | cons c rest ih => rw [List.cons_append, splitLastDot?, ih]

theorem eq_of_splitLastDot? {cs stem ext : List Char} (h : splitLastDot? cs = some (stem, ext)) :
    cs = stem ++ '.' :: ext ∧ '.' ∉ ext := by
  induction cs generalizing stem with
  | nil => cases h
  | cons c rest ih =>
    rw [splitLastDot?] at h
    cases hrest : splitLastDot? rest with
    | some split =>
      obtain ⟨before, behind⟩ := split
      simp only [hrest, Option.some.injEq, Prod.mk.injEq] at h
      obtain ⟨rfl, rfl⟩ := h
      obtain ⟨heq, hnot⟩ := ih hrest
      exact ⟨by rw [heq, List.cons_append], hnot⟩
    | none =>
      simp only [hrest] at h
      split_ifs at h with hc
      cases h
      exact ⟨by rw [hc, List.nil_append], splitLastDot?_eq_none_iff.mp hrest⟩

theorem extensionOf?_eq_some_iff {ext : String} :
    extensionOf? name = some ext ↔
      ∃ stem, stem ≠ [] ∧ name.toList = stem ++ '.' :: ext.toList ∧ '.' ∉ ext.toList := by
  constructor
  · intro h
    unfold extensionOf? at h
    split at h
    · next c stem behind heq =>
      cases h
      obtain ⟨hname, hnot⟩ := eq_of_splitLastDot? heq
      rw [String.toList_ofList]
      exact ⟨c :: stem, List.cons_ne_nil c stem, hname, hnot⟩
    · cases h
  · rintro ⟨stem, hne, hname, hnot⟩
    obtain ⟨c, rest, rfl⟩ := List.exists_cons_of_ne_nil hne
    rw [extensionOf?, hname, splitLastDot?_append _ hnot]
    exact congrArg some String.ofList_toList

/-- A name without an extension has no dot behind its first character. -/
theorem extensionOf?_eq_none_iff : extensionOf? name = none ↔ '.' ∉ name.toList.tail := by
  rw [← not_iff_not, Decidable.not_not, ← ne_eq, Option.ne_none_iff_exists']
  constructor
  · rintro ⟨ext, h⟩
    obtain ⟨stem, hne, hname, -⟩ := extensionOf?_eq_some_iff.mp h
    obtain ⟨c, rest, rfl⟩ := List.exists_cons_of_ne_nil hne
    simp [hname]
  · intro h
    have hmem : '.' ∈ name.toList := List.mem_of_mem_tail h
    cases hsplit : splitLastDot? name.toList with
    | none => exact absurd hmem (splitLastDot?_eq_none_iff.mp hsplit)
    | some split =>
      obtain ⟨stem, ext⟩ := split
      obtain ⟨hname, hnot⟩ := eq_of_splitLastDot? hsplit
      refine ⟨String.ofList ext, extensionOf?_eq_some_iff.mpr ⟨stem, ?_, ?_, ?_⟩⟩
      · rintro rfl
        rw [hname] at h
        exact hnot h
      · rw [hname, String.toList_ofList]
      · rwa [String.toList_ofList]

/-- What ends with an extension that has characters is a name. -/
theorem isName_of_extension {ext : String} (hne : ext ≠ "") (hdot : '.' ∉ ext.toList)
    (stem : String) : IsName (stem ++ ("." ++ ext)) := by
  have hext : ext.toList ≠ [] := fun hnil => hne (String.toList_eq_nil_iff.mp hnil)
  have hlast : (stem ++ ("." ++ ext)).toList.getLast? = some (ext.toList.getLast hext) := by
    rw [String.toList_append, String.toList_append, ← List.append_assoc,
      List.getLast?_append_of_ne_nil _ hext, List.getLast?_eq_some_getLast hext]
  have hchar : ext.toList.getLast hext ≠ '.' := by
    intro heq
    exact hdot (heq ▸ List.getLast_mem hext)
  refine ⟨?_, ?_, ?_⟩
  · intro heq
    simp [heq] at hlast
  · intro heq
    rw [heq] at hlast
    exact hchar (Option.some.inj hlast).symm
  · intro heq
    rw [heq] at hlast
    exact hchar (Option.some.inj hlast).symm

/-- The extension of a path stands at the end of its last name. -/
theorem exists_of_extension? {ext : String} (h : p.extension? = some ext) :
    ∃ name, p.lastName? = some name ∧ extensionOf? name = some ext :=
  Option.bind_eq_some_iff.mp h

theorem not_mem_extension {ext : String} (h : p.extension? = some ext) :
    '.' ∉ ext.toList ∧ '/' ∉ ext.toList := by
  obtain ⟨name, hname, hext⟩ := exists_of_extension? h
  obtain ⟨stem, -, heq, hdot⟩ := extensionOf?_eq_some_iff.mp hext
  refine ⟨hdot, fun hmem => not_mem_of_mem_pieces (mem_pieces_of_lastName? hname).2 ?_⟩
  rw [heq]
  exact List.mem_append_right _ (List.mem_cons_of_mem _ hmem)

theorem extension?_of_lastName? (h : p.lastName? = some name) :
    p.extension? = extensionOf? name := by
  rw [extension?, h, Option.bind_some]

end LineSieve.Path
