import LineSieve.Proofs.Path.Names
import LineSieve.Settings.Plan

/-!
# Results of results

The result of an input bears the marker and the extension of the input at its end. Filtered again
it is overwritten as long as its own extension is that of the input, or it has none. The marker
can change this: behind a name without an extension, what follows the last dot of the marker
becomes one, and the result has another tail to look for.
-/

namespace LineSieve.Plan

open LineSieve.Path (IsName extensionOf?)

variable {input : Path} {marker name ext : String}

/-! ### First results -/

/-- The path of an input with its tail. -/
def resultPath (input : Path) (marker : String) : Path := ⟨input.text ++ tail input marker⟩

theorem forInput_of_isInfix (h : (tail input marker).toList <:+: input.text.toList) :
    forInput input ⟨marker, none⟩ = ⟨input, true⟩ :=
  if_pos ((Text.occursIn_iff_isInfix _ _).mpr h)

theorem forInput_of_not_isInfix (h : ¬(tail input marker).toList <:+: input.text.toList) :
    forInput input ⟨marker, none⟩ = ⟨resultPath input marker, false⟩ :=
  if_neg fun hoccurs => h ((Text.occursIn_iff_isInfix _ _).mp hoccurs)

theorem not_isInfix_of_overwrite (h : (forInput input ⟨marker, none⟩).overwrite = false) :
    ¬(tail input marker).toList <:+: input.text.toList := by
  intro hinfix
  rw [forInput_of_isInfix hinfix] at h
  cases h

theorem tail_of_extension (h : input.extension? = some ext) :
    tail input marker = marker ++ "." ++ ext := by
  rw [tail, h]

theorem tail_of_none (h : input.extension? = none) : tail input marker = marker := by
  rw [tail, h]

theorem tail_ne (h : marker ≠ "") : tail input marker ≠ "" := by
  cases hext : input.extension? with
  | none => exact tail_of_none hext ▸ h
  | some ext =>
    rw [tail_of_extension hext]
    exact fun heq => h (by simpa using congrArg String.toList heq)

theorem slash_not_mem_tail (h : '/' ∉ marker.toList) : '/' ∉ (tail input marker).toList := by
  cases hext : input.extension? with
  | none => exact tail_of_none hext ▸ h
  | some ext =>
    rw [tail_of_extension hext]
    simp [h, (Path.not_mem_extension hext).2]

/-! ### The extension of a result -/

/-- A result with no extension or with that of its input bears its own tail. -/
theorem forInput_resultPath (h : (resultPath input marker).extension? = none ∨
    (resultPath input marker).extension? = input.extension?) :
    forInput (resultPath input marker) ⟨marker, none⟩ = ⟨resultPath input marker, true⟩ := by
  refine forInput_of_isInfix ?_
  have hresult : (resultPath input marker).text.toList =
      input.text.toList ++ (tail input marker).toList := String.toList_append
  have hmarker : marker.toList <+: (tail input marker).toList := by
    cases hext : input.extension? with
    | none => exact (tail_of_none hext).symm ▸ List.prefix_refl _
    | some ext =>
      rw [tail_of_extension hext, String.toList_append, String.toList_append, List.append_assoc]
      exact List.prefix_append _ _
  rw [hresult]
  rcases h with h | h
  · rw [tail_of_none h]
    exact hmarker.isInfix.trans (List.suffix_append _ _).isInfix
  · rw [show tail (resultPath input marker) marker = tail input marker by rw [tail, tail, h]]
    exact (List.suffix_append _ _).isInfix

/-- An extension with characters is kept, unless all of the last name is a dot and it. -/
theorem extension?_resultPath_of_ne (h : input.extension? = some ext) (hne : ext ≠ "") :
    (resultPath input marker).extension? = none ∨
      (resultPath input marker).extension? = some ext := by
  obtain ⟨hdot, hslash⟩ := Path.not_mem_extension h
  have hbehind : ("." ++ ext).toList = '.' :: ext.toList := String.toList_append
  have hnot : '/' ∉ ("." ++ ext).toList := by
    rw [hbehind]
    exact List.not_mem_cons_of_ne_of_not_mem (by decide) hslash
  obtain ⟨before, last, -, hpieces⟩ := Path.pieces_append hnot ⟨input.text ++ marker⟩
  have hpath : (⟨(⟨input.text ++ marker⟩ : Path).text ++ ("." ++ ext)⟩ : Path) =
      resultPath input marker := by
    rw [resultPath, tail_of_extension h, String.append_assoc, String.append_assoc]
  have hchars : (last ++ ("." ++ ext)).toList = last.toList ++ '.' :: ext.toList := by
    rw [String.toList_append, hbehind]
  have hname : IsName (last ++ ("." ++ ext)) := Path.isName_of_extension hne hdot last
  rw [hpath] at hpieces
  rw [Path.extension?_of_lastName? (Path.lastName?_of_pieces hpieces hname)]
  by_cases hlast : last.toList = []
  · left
    rw [Path.extensionOf?_eq_none_iff, hchars, hlast]
    exact hdot
  · right
    exact Path.extensionOf?_eq_some_iff.mpr ⟨last.toList, hlast, hchars, hdot⟩

/-- The last name of a result is that of its input with the tail, where the input ends with its
last name and the marker has no slash. -/
theorem lastName?_resultPath (hname : input.lastName? = some name) (hmarker : marker ≠ "")
    (hslash : '/' ∉ marker.toList) (hend : input.pieces.getLast? = some name) :
    (resultPath input marker).lastName? = some (name ++ tail input marker) := by
  have htail : '/' ∉ (tail input marker).toList := slash_not_mem_tail hslash
  obtain ⟨before, last, hinput, hresult⟩ := Path.pieces_append htail input
  rw [hinput, List.getLast?_concat, Option.some.injEq] at hend
  subst hend
  have hlast := (Path.mem_pieces_of_lastName? hname).1
  exact Path.lastName?_of_pieces hresult (Path.isName_append hlast.1 hlast.2.1 (tail_ne hmarker))

/-- What follows the last dot of a text is the extension of every name that the text ends. -/
theorem extensionOf?_append (hne : name ≠ "") {stem ext : List Char}
    (h : Path.splitLastDot? marker.toList = some (stem, ext)) :
    extensionOf? (name ++ marker) = some (String.ofList ext) := by
  obtain ⟨hmarker, hdot⟩ := Path.eq_of_splitLastDot? h
  refine Path.extensionOf?_eq_some_iff.mpr ⟨name.toList ++ stem, ?_, ?_, ?_⟩
  · simp [hne]
  · simp [hmarker]
  · rwa [String.toList_ofList]

theorem extensionOf?_append_of_not_mem (hne : name ≠ "") (hnone : extensionOf? name = none)
    (hdot : '.' ∉ marker.toList) : extensionOf? (name ++ marker) = none := by
  rw [Path.extensionOf?_eq_none_iff] at hnone ⊢
  have hname : name.toList ≠ [] := fun hnil => hne (String.toList_eq_nil_iff.mp hnil)
  rw [String.toList_append, List.tail_append_of_ne_nil hname, List.mem_append, not_or]
  exact ⟨hnone, hdot⟩

/-- What does not occur in a text occurs behind it, but not with as much as itself behind it. -/
theorem not_isInfix_append {xs marker more : List Char} (h : ¬marker <:+: xs)
    (hlength : marker.length ≤ more.length) : ¬(marker ++ more) <:+: (xs ++ marker) := by
  rintro ⟨before, behind, heq⟩
  have hsum := congrArg List.length heq
  simp only [List.length_append] at hsum
  have hstart : before ++ marker <+: xs ++ marker :=
    ⟨more ++ behind, by rw [← heq]; simp only [List.append_assoc]⟩
  have hwithin : before ++ marker <+: xs := by
    refine List.prefix_of_prefix_length_le hstart (List.prefix_append xs marker) ?_
    rw [List.length_append]
    omega
  exact h ((List.suffix_append before marker).isInfix.trans hwithin.isInfix)

/-! ### Second results -/

/-- Behind the path of the input the marker stands in such a way that a dot and what follows the
last dot of the marker stand behind it once more. -/
def BearsMarkerTwice (input : Path) (marker : String) : Prop :=
  ∃ stem ext, Path.splitLastDot? marker.toList = some (stem, ext) ∧
    (marker.toList ++ '.' :: ext) <:+: (input.text.toList ++ marker.toList)

/-- Where the name has no extension, the last dot of the marker gives the result one. -/
theorem forInput_resultPath_iff_bears (hlast : (resultPath input marker).lastName? = some
    (name ++ marker)) (hne : name ≠ "") (hext : input.extension? = none) {stem ext : List Char}
    (hsplit : Path.splitLastDot? marker.toList = some (stem, ext)) :
    forInput (resultPath input marker) ⟨marker, none⟩ = ⟨resultPath input marker, true⟩ ↔
      BearsMarkerTwice input marker := by
  have hresult : (resultPath input marker).extension? = some (String.ofList ext) := by
    rw [Path.extension?_of_lastName? hlast, extensionOf?_append hne hsplit]
  have htail : (tail (resultPath input marker) marker).toList = marker.toList ++ '.' :: ext := by
    rw [tail_of_extension hresult]
    simp
  have htext : (resultPath input marker).text.toList = input.text.toList ++ marker.toList := by
    rw [resultPath, tail_of_none hext, String.toList_append]
  constructor
  · intro hagain
    refine ⟨stem, ext, hsplit, ?_⟩
    by_contra hbears
    rw [← htail, ← htext] at hbears
    rw [forInput_of_not_isInfix hbears, Plan.mk.injEq] at hagain
    exact Bool.false_ne_true hagain.2
  · rintro ⟨stem', ext', hsplit', hbears⟩
    rw [hsplit', Option.some.injEq, Prod.mk.injEq] at hsplit
    obtain ⟨-, rfl⟩ := hsplit
    rw [← htail, ← htext] at hbears
    exact forInput_of_isInfix hbears

theorem forInput_resultPath_iff (hname : input.lastName? = some name) (hmarker : marker ≠ "")
    (hslash : '/' ∉ marker.toList) (hend : input.pieces.getLast? = some name) :
    forInput (resultPath input marker) ⟨marker, none⟩ = ⟨resultPath input marker, true⟩ ↔
      input.extension?.isSome ∨ '.' ∉ marker.toList ∨ BearsMarkerTwice input marker := by
  have hlast := lastName?_resultPath hname hmarker hslash hend
  have hne : name ≠ "" := (Path.mem_pieces_of_lastName? hname).1.1
  cases hext : input.extension? with
  | some ext =>
    -- the name goes on with the marker, and the extension follows the last dot
    have hsplit : Path.splitLastDot? (tail input marker).toList =
        some (marker.toList, ext.toList) := by
      rw [tail_of_extension hext, String.toList_append, String.toList_append, List.append_assoc]
      exact Path.splitLastDot?_append _ (Path.not_mem_extension hext).1
    have hresult := (Path.extension?_of_lastName? hlast).trans (extensionOf?_append hne hsplit)
    rw [String.ofList_toList] at hresult
    exact ⟨fun _ => Or.inl rfl, fun _ => forInput_resultPath (Or.inr (hresult.trans hext.symm))⟩
  | none =>
    have hnone : extensionOf? name = none := (Path.extension?_of_lastName? hname).symm.trans hext
    rw [tail_of_none hext] at hlast
    cases hsplit : Path.splitLastDot? marker.toList with
    | none =>
      have hdot := Path.splitLastDot?_eq_none_iff.mp hsplit
      have hresult := (Path.extension?_of_lastName? hlast).trans
        (extensionOf?_append_of_not_mem hne hnone hdot)
      exact ⟨fun _ => Or.inr (Or.inl hdot), fun _ => forInput_resultPath (Or.inl hresult)⟩
    | some split =>
      have hdot : '.' ∈ marker.toList := by
        by_contra hnot
        rw [Path.splitLastDot?_eq_none_iff.mpr hnot] at hsplit
        cases hsplit
      rw [forInput_resultPath_iff_bears hlast hne hext hsplit]
      simp [hdot]

/-- A marker that is a dot and a text without dots is not borne twice. -/
theorem not_bearsMarkerTwice (hfirst : ¬(tail input marker).toList <:+: input.text.toList)
    (hext : input.extension? = none) {ext : List Char} (hdot : '.' ∉ ext)
    (hmarker : marker.toList = '.' :: ext) : ¬BearsMarkerTwice input marker := by
  rintro ⟨stem, ext', hsplit, hbears⟩
  have hsplit' := Path.splitLastDot?_append [] hdot
  rw [hmarker] at hsplit
  rw [List.nil_append, hsplit, Option.some.injEq, Prod.mk.injEq] at hsplit'
  obtain ⟨-, rfl⟩ := hsplit'
  rw [tail_of_none hext] at hfirst
  exact not_isInfix_append hfirst (Nat.le_of_eq (congrArg List.length hmarker)) hbears

/-- When a result is a result that is overwritten. Its input has an extension with characters in
it, whatever the marker is. Where the marker has no slash and the input ends with its last name,
exactly these: the input has an extension, the marker has no dot, or the marker stands behind the
input as if it were there twice; and where all of the marker is a dot and a text without dots, only
if the input has an extension. -/
theorem result_again (input : Path) (output : OutputSettings) (name : String)
    (hname : input.lastName? = some name) (hpath : output.path = none)
    (hmarker : output.marker ≠ "") (hfirst : (forInput input output).overwrite = false) :
    let result := (forInput input output).path
    (∀ ext, input.extension? = some ext → ext ≠ "" →
      forInput result output = ⟨result, true⟩) ∧
    ('/' ∉ output.marker.toList → input.pieces.getLast? = some name →
      (forInput result output = ⟨result, true⟩ ↔
        input.extension?.isSome ∨ '.' ∉ output.marker.toList ∨
          BearsMarkerTwice input output.marker) ∧
      ∀ ext, '.' ∉ ext → output.marker.toList = '.' :: ext →
        (forInput result output = ⟨result, true⟩ ↔ input.extension?.isSome)) := by
  obtain ⟨marker, path⟩ := output
  dsimp only at hpath hmarker
  subst hpath
  have hnot := not_isInfix_of_overwrite hfirst
  rw [forInput_of_not_isInfix hnot]
  refine ⟨?_, fun hslash hend => ?_⟩
  · intro ext hext hne
    refine forInput_resultPath ?_
    rw [hext]
    exact extension?_resultPath_of_ne hext hne
  · have hiff := forInput_resultPath_iff hname hmarker hslash hend
    refine ⟨hiff, fun ext hdot heq => hiff.trans ⟨?_, Or.inl⟩⟩
    rintro (hsome | hno | hbears)
    · exact hsome
    · exact absurd (by rw [heq]; exact List.mem_cons_self) hno
    · cases hext : input.extension? with
      | some ext' => rfl
      | none => exact absurd hbears (not_bearsMarkerTwice hnot hext hdot heq)

/-- With the default marker the result of `app.log` is overwritten, and that of `notes` is not. -/
theorem result_again_app_log_notes :
    let again (input : Path) := forInput (forInput input .default).path .default
    again ⟨"app.log"⟩ = ⟨⟨"app.log.filterline.log"⟩, true⟩ ∧
      again ⟨"notes"⟩ ≠ ⟨⟨"notes.filterline"⟩, true⟩ := by
  intro again
  have hmarker := Settings.marker_checked_ne .default
  have hlog := result_again ⟨"app.log"⟩ .default "app.log" (by decide) rfl hmarker (by decide)
  have hnotes := result_again ⟨"notes"⟩ .default "notes" (by decide) rfl hmarker (by decide)
  refine ⟨hlog.1 "log" (by decide) (by decide), fun heq => ?_⟩
  have hiff := (hnotes.2 (by decide) (by decide)).2 "filterline".toList (by decide) (by decide)
  exact absurd (hiff.mp heq) (by decide)

/-- A result is not always a result that is overwritten: that of `notes` takes the marker for its
extension, and there is a third file. -/
theorem result_makes_third_file :
    ¬∀ (input : Path) (settings : Settings), input.lastName?.isSome →
      settings.checked.output.path = none →
      (forInput input settings.checked.output).overwrite = false →
      let result := (forInput input settings.checked.output).path
      forInput result settings.checked.output = ⟨result, true⟩ := by
  intro h
  exact absurd (h ⟨"notes"⟩ .default (by decide) rfl (by decide)) (by decide)

end LineSieve.Plan
