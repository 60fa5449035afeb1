import Mathlib.Data.List.Basic
import Mathlib.Data.List.TakeWhile
import LineSieve.Text.Lines
import LineSieve.Text.Blank

/-!
# Trimmed texts and written lines

A text is trimmed if it has no blank at either end, and these are the texts that trimming
leaves as they are. Lines without a line feed that are trimmed come back when they are written
one after another and read again.
-/

namespace LineSieve.Text

/-! ### Trimming -/

theorem trimEnd_isPrefix (cs : List Char) : trimEnd cs <+: cs := by
  induction cs with
  | nil => exact List.prefix_refl []
  | cons c rest ih =>
    unfold trimEnd
    split
    · split
      · exact List.nil_prefix
      · exact List.cons_prefix_cons.mpr ⟨rfl, List.nil_prefix⟩
    · next heq => exact List.cons_prefix_cons.mpr ⟨rfl, ih⟩

theorem trimEnd_eq_self_iff (cs : List Char) :
    trimEnd cs = cs ↔ ∀ c, cs.getLast? = some c → isBlank c = false := by
  induction cs with
  | nil => simp [trimEnd]
  | cons c rest ih =>
    cases rest with
    | nil => cases hc : isBlank c <;> simp [trimEnd, hc]
    | cons d more =>
      rw [List.getLast?_cons_cons, ← ih]
      constructor
      · intro h
        unfold trimEnd at h
        split at h
        · split at h <;> simp at h
        · exact (List.cons.inj h).2
      · intro h
        unfold trimEnd
        rw [h]

/-- A text that trimming leaves as it is has no blank at either end. -/
theorem trimChars_eq_self_iff (cs : List Char) :
    trimChars cs = cs ↔
      (∀ c, cs.head? = some c → isBlank c = false) ∧
        ∀ c, cs.getLast? = some c → isBlank c = false := by
  have hdrop : cs.dropWhile isBlank = cs ↔ ∀ c, cs.head? = some c → isBlank c = false := by
    cases cs with
    | nil => simp
    | cons c rest => simp [List.dropWhile_eq_self_iff]
  constructor
  · intro h
    -- trimming only removes, so if nothing is gone no step has removed anything
    have hle : cs.length ≤ (cs.dropWhile isBlank).length := by
      have hend := (trimEnd_isPrefix (cs.dropWhile isBlank)).length_le
      rwa [show trimEnd (cs.dropWhile isBlank) = cs from h] at hend
    have hsuffix := List.dropWhile_suffix (l := cs) isBlank
    have hsame : cs.dropWhile isBlank = cs :=
      hsuffix.eq_of_length (Nat.le_antisymm hsuffix.length_le hle)
    refine ⟨hdrop.mp hsame, (trimEnd_eq_self_iff cs).mp ?_⟩
    rwa [trimChars, hsame] at h
  · rintro ⟨hfirst, hlast⟩
    rw [trimChars, hdrop.mpr hfirst, (trimEnd_eq_self_iff cs).mpr hlast]

theorem trimEnd_trimEnd (cs : List Char) : trimEnd (trimEnd cs) = trimEnd cs := by
  induction cs with
  | nil => rfl
  | cons c rest ih =>
    cases hkept : trimEnd rest with
    | nil => cases hc : isBlank c <;> simp [trimEnd, hkept, hc]
    | cons d kept =>
      rw [hkept] at ih
      have hstep : trimEnd (c :: rest) = c :: d :: kept := by simp only [trimEnd, hkept]
      rw [hstep, trimEnd, ih]

theorem trimChars_cons {c : Char} (hc : isBlank c = false) (rest : List Char) :
    trimChars (c :: rest) = trimEnd (c :: rest) := by
  rw [trimChars, List.dropWhile_cons_of_neg (by simp [hc])]

/-- A text that starts with a character that is no blank keeps it. -/
theorem head?_trimChars_cons {c : Char} (hc : isBlank c = false) (rest : List Char) :
    (trimChars (c :: rest)).head? = some c := by
  rw [trimChars_cons hc]
  cases hkept : trimEnd rest <;> simp [trimEnd, hkept, hc]

theorem trimChars_trimChars (cs : List Char) : trimChars (trimChars cs) = trimChars cs := by
  cases hcut : cs.dropWhile isBlank with
  | nil => simp [trimChars, hcut, trimEnd]
  | cons c rest =>
    have hc : isBlank c = false := by
      have hhead := List.head?_dropWhile_not isBlank cs
      rw [hcut] at hhead
      simpa using hhead
    have htrim : trimChars cs = trimChars (c :: rest) := by
      rw [trimChars_cons hc, trimChars, hcut]
    obtain ⟨more, hmore⟩ := List.head?_eq_some_iff.mp (head?_trimChars_cons hc rest)
    rw [htrim, hmore, trimChars_cons hc, ← hmore, trimChars_cons hc, trimEnd_trimEnd]

theorem trim_trim (s : String) : trim (trim s) = trim s := by
  rw [trim, trim, String.toList_ofList, trimChars_trimChars]

theorem trim_eq_self_iff (s : String) : trim s = s ↔ trimChars s.toList = s.toList := by
  rw [trim, ← String.toList_inj, String.toList_ofList]

/-- Two trimmed texts with a mark between them that is no blank are trimmed. -/
theorem trimChars_append_cons {xs ys : List Char} {c : Char} (hx : trimChars xs = xs)
    (hy : trimChars ys = ys) (hc : isBlank c = false) :
    trimChars (xs ++ c :: ys) = xs ++ c :: ys := by
  rw [trimChars_eq_self_iff] at hx hy ⊢
  constructor
  · intro d hd
    cases xs with
    | nil =>
      obtain rfl : c = d := by simpa using hd
      exact hc
    | cons x more => exact hx.1 d (by simpa using hd)
  · intro d hd
    cases ys with
    | nil =>
      obtain rfl : c = d := by simpa using hd
      exact hc
    | cons y more =>
      rw [List.getLast?_append_cons, List.getLast?_cons_cons] at hd
      exact hy.2 d hd

/-! ### Lines -/

/-- A text that makes up a line when it is written: nothing in it ends the line before its own
end does, and reading leaves it as it is. -/
structure IsLine (t : String) : Prop where
  trimmed : trim t = t
  no_feed : '\n' ∉ t.toList

instance (t : String) : Decidable (IsLine t) :=
  decidable_of_iff (trim t = t ∧ '\n' ∉ t.toList)
    ⟨fun h => ⟨h.1, h.2⟩, fun h => ⟨h.trimmed, h.no_feed⟩⟩

theorem IsLine.getLast?_ne {t : String} (h : IsLine t) : t.toList.getLast? ≠ some '\r' := by
  intro hlast
  have htrim := (trim_eq_self_iff t).mp h.trimmed
  have hno := ((trimChars_eq_self_iff t.toList).mp htrim).2 '\r' hlast
  exact absurd hno (by decide)

theorem linesFrom_append {cs : List Char} (h : '\n' ∉ cs) (line rest : List Char) :
    linesFrom line (cs ++ rest) = linesFrom (cs.reverse ++ line) rest := by
  induction cs generalizing line with
  | nil => rfl
  | cons c more ih =>
    have hc : c ≠ '\n' := fun he => h (he ▸ List.mem_cons_self)
    have hmore := ih (fun he => h (List.mem_cons_of_mem c he)) (c :: line)
    simp only [List.cons_append, linesFrom, if_neg hc, hmore, List.reverse_cons,
      List.append_assoc, List.nil_append]

theorem linesFrom_ended {t : String} (h : IsLine t) (rest : List Char) :
    linesFrom [] (t.toList ++ '\n' :: rest) = t.toList :: linesFrom [] rest := by
  rw [linesFrom_append h.no_feed]
  simp only [List.append_nil, linesFrom, if_true, List.cons.injEq, and_true]
  split
  · next before heq =>
    have hlast : t.toList.getLast? = some '\r' := by
      rw [← List.head?_reverse, heq]
      rfl
    exact absurd hlast h.getLast?_ne
  · exact List.reverse_reverse t.toList

theorem linesFrom_unended {t : String} (h : IsLine t) (hne : t ≠ "") :
    linesFrom [] t.toList = [t.toList] := by
  have hscan := linesFrom_append h.no_feed [] []
  have hsome : t.toList.isEmpty = false := by simpa using hne
  simpa [linesFrom, hsome] using hscan

/-- Lines that are written with their ends are read again. -/
theorem lines_join {texts : List String} (h : ∀ t ∈ texts, IsLine t) :
    lines (String.join (texts.map (· ++ "\n"))) = texts := by
  have hchars : linesFrom [] (String.join (texts.map (· ++ "\n"))).toList =
      texts.map String.toList := by
    rw [String.toList_join]
    induction texts with
    | nil => rfl
    | cons t rest ih =>
      have hrest := ih fun u hu => h u (List.mem_cons_of_mem t hu)
      simp only [List.map_cons, List.flatMap_cons, String.toList_append, List.append_assoc]
      rw [show ("\n" : String).toList = ['\n'] from rfl, List.singleton_append,
        linesFrom_ended (h t List.mem_cons_self), hrest]
  rw [lines, hchars, List.map_map]
  simp [Function.comp_def]

/-- So are lines that are written with ends between them, if none is empty. -/
theorem lines_intercalate {texts : List String} (h : ∀ t ∈ texts, IsLine t)
    (hne : ∀ t ∈ texts, t ≠ "") : lines ("\n".intercalate texts) = texts := by
  have hchars : linesFrom [] ("\n".intercalate texts).toList = texts.map String.toList := by
    rw [String.toList_intercalate]
    induction texts with
    | nil => rfl
    | cons t rest ih =>
      have ht := h t List.mem_cons_self
      have hrest := ih (fun u hu => h u (List.mem_cons_of_mem t hu))
        fun u hu => hne u (List.mem_cons_of_mem t hu)
      cases rest with
      | nil => simpa using linesFrom_unended ht (hne t List.mem_cons_self)
      | cons u more =>
        rw [List.map_cons, List.map_cons, List.intercalate_cons_cons, List.append_assoc,
          show ("\n" : String).toList = ['\n'] from rfl, List.singleton_append,
          linesFrom_ended ht]
        exact congrArg (t.toList :: ·) hrest
  rw [lines, hchars, List.map_map]
  simp [Function.comp_def]

end LineSieve.Text
