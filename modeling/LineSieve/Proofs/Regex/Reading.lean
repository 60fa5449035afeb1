import Mathlib.Data.List.TakeWhile
import Mathlib.Tactic.SplitIfs
import LineSieve.Regex.Reader

/-!
# Reading a longer text

What is read of a text is read in the same way when a group is put behind the text. Only a comment
that is still open at the end, or a blank that does not count there, could reach into the group; so
a construct must be followed by something, or blanks must count where it ends.
-/

namespace LineSieve.Regex.Reader

open Text (isBlank)

/-- The text of a group that takes the rest of a line. -/
def restGroup : List Char := ['(', '.', '+', ')']

variable {v : Bool} {cs rest after : List Char} {c : Char}

/-! ### Blanks -/

theorem skipFrom_append {inComment : Bool} (h : skipFrom inComment cs ≠ []) :
    skipFrom inComment (cs ++ restGroup) = skipFrom inComment cs ++ restGroup := by
  induction cs generalizing inComment with
  | nil => exact absurd rfl h
  | cons c rest ih =>
    rw [List.cons_append]
    unfold skipFrom at h ⊢
    split_ifs at h ⊢
    · exact ih h
    · exact ih h
    · exact ih h
    · rfl

theorem skip_append (h : skip v cs ≠ [] ∨ v = false) :
    skip v (cs ++ restGroup) = skip v cs ++ restGroup := by
  cases v with
  | false => rfl
  | true => exact skipFrom_append (h.resolve_right Bool.noConfusion)

theorem skip_append_of_eq_cons (h : skip v cs = c :: rest) :
    skip v (cs ++ restGroup) = c :: (rest ++ restGroup) := by
  rw [skip_append (Or.inl (by rw [h]; exact List.cons_ne_nil c rest)), h, List.cons_append]

theorem length_skip_le (v : Bool) (cs : List Char) : (skip v cs).length ≤ cs.length := by
  have hfrom : ∀ inComment, (skipFrom inComment cs).length ≤ cs.length := by
    induction cs with
    | nil => exact fun _ => Nat.le_refl _
    | cons c rest ih =>
      intro inComment
      unfold skipFrom
      rw [List.length_cons]
      split_ifs
      · exact Nat.le_succ_of_le (ih _)
      · exact Nat.le_succ_of_le (ih _)
      · exact Nat.le_succ_of_le (ih _)
      · exact Nat.le_refl _
  cases v with
  | false => exact Nat.le_refl _
  | true => exact hfrom false

/-- What does not start with a character does not start with it either when more is behind. -/
theorem not_cons_append {d : Char} (h : ∀ more, c :: rest = d :: more → False) :
    ∀ more, c :: (rest ++ restGroup) = d :: more → False :=
  fun _ heq => h rest (by rw [(List.cons.inj heq).1])

theorem not_cons_cons_append {d : Char} (hd : d ≠ '(')
    (h : ∀ more, c :: rest = d :: d :: more → False) :
    ∀ more, c :: (rest ++ restGroup) = d :: d :: more → False := by
  intro more heq
  obtain ⟨rfl, hrest⟩ := List.cons.inj heq
  cases rest with
  | nil => exact hd (List.cons.inj hrest).1.symm
  | cons e rest => exact h rest (by rw [(List.cons.inj hrest).1])

/-! ### Words and numbers -/

theorem word_append {ends : Char → Bool} {fuel more : Nat} (hfuel : cs.length < fuel)
    (hmore : fuel ≤ more) {letters : List Char} (h : word v ends fuel cs = (letters, c :: after)) :
    word v ends more (cs ++ restGroup) = (letters, c :: (after ++ restGroup)) := by
  induction fuel generalizing cs letters more with
  | zero => exact absurd hfuel (Nat.not_lt_zero _)
  | succ fuel ih =>
    obtain ⟨more, rfl⟩ : ∃ m, more = m + 1 := ⟨more - 1, by omega⟩
    cases cs with
    | nil => simp [word] at h
    | cons d rest =>
      rw [List.cons_append]
      unfold word at h ⊢
      split_ifs at h ⊢ with hends
      · simp only [Prod.mk.injEq, List.cons.injEq] at h
        obtain ⟨rfl, rfl, rfl⟩ := h
        rfl
      · dsimp only at h ⊢
        rw [Prod.mk.injEq] at h
        obtain ⟨rfl, hafter⟩ := h
        have hlength : (skip v rest).length < fuel := by
          have := length_skip_le v rest
          rw [List.length_cons] at hfuel
          omega
        have hskip : skip v rest ≠ [] := by
          intro hnil
          rw [hnil] at hafter
          cases fuel <;> simp [word] at hafter
        rw [skip_append (Or.inl hskip), ih hlength (by omega) (Prod.ext rfl hafter)]

theorem wordUntil_append {ends : Char → Bool} {letters : List Char}
    (h : wordUntil v ends cs = (letters, c :: after)) :
    wordUntil v ends (cs ++ restGroup) = (letters, c :: (after ++ restGroup)) := by
  refine word_append (Nat.lt_succ_self _) ?_ h
  rw [List.length_append]
  omega

/-- A word behind blanks, which are not all that is left. -/
theorem wordUntil_skip_append {ends : Char → Bool} {letters : List Char}
    (h : wordUntil v ends (skip v cs) = (letters, c :: after)) :
    wordUntil v ends (skip v (cs ++ restGroup)) = (letters, c :: (after ++ restGroup)) := by
  have hskip : skip v cs ≠ [] := by
    intro hnil
    rw [hnil] at h
    cases h
  rw [skip_append (Or.inl hskip), wordUntil_append h]

theorem exactly_append {n : Nat} {digits : List Char} (h : exactly v n cs = some (digits, after))
    (hafter : after ≠ [] ∨ v = false) :
    exactly v n (cs ++ restGroup) = some (digits, after ++ restGroup) := by
  induction n generalizing cs digits with
  | zero =>
    rw [exactly] at h ⊢
    cases h
    rfl
  | succ n ih =>
    cases cs with
    | nil => cases h
    | cons c rest =>
      rw [exactly, Option.map_eq_some_iff] at h
      obtain ⟨⟨more, after'⟩, hmore, heq⟩ := h
      cases heq
      have hskip : skip v rest ≠ [] ∨ v = false := by
        refine hafter.imp_left fun hne hnil => ?_
        rw [hnil] at hmore
        cases n with
        | zero =>
          cases hmore
          exact hne rfl
        | succ n => cases hmore
      rw [List.cons_append, exactly, skip_append hskip, ih hmore]
      rfl

theorem dropWhile_append_of_ne_nil {p : Char → Bool} (h : cs.dropWhile p ≠ []) :
    (cs ++ restGroup).dropWhile p = cs.dropWhile p ++ restGroup := by
  rw [List.dropWhile_append, if_neg (by simpa using h)]

theorem decimal?_append {value : Nat} (h : decimal? v cs = some (value, c :: after)) :
    decimal? v (cs ++ restGroup) = some (value, c :: (after ++ restGroup)) := by
  unfold decimal? at h ⊢
  cases hdigits : wordUntil v (fun c => !c.isDigit) (cs.dropWhile isBlank) with
  | mk digits behind =>
    cases hblanks : wordUntil v (fun c => !isBlank c) behind with
    | mk blanks last =>
      simp only [hdigits, hblanks] at h
      split_ifs at h with hbad
      rw [Option.some.injEq, Prod.mk.injEq] at h
      obtain ⟨rfl, rfl⟩ := h
      -- something is left behind the blanks, so also behind the digits
      cases behind with
      | nil => cases hblanks
      | cons d behind =>
        have hcs : cs.dropWhile isBlank ≠ [] := by
          intro hnil
          rw [hnil] at hdigits
          cases hdigits
        simp only [dropWhile_append_of_ne_nil hcs, wordUntil_append hdigits]
        rw [← List.cons_append, wordUntil_append hblanks]
        simp only [if_neg hbad]

/-! ### Escapes -/

theorem hexEscape?_append {count : Nat} {prim : Primitive}
    (h : hexEscape? v count cs = some (prim, after)) (hafter : after ≠ [] ∨ v = false) :
    hexEscape? v count (cs ++ restGroup) = some (prim, after ++ restGroup) := by
  unfold hexEscape? at h ⊢
  split at h
  · cases h
  · next rest hskip =>
    rw [skip_append_of_eq_cons hskip]
    cases hword : wordUntil v (fun x => x == '\x7d') (skip v rest) with
    | mk digits behind =>
      simp only [hword] at h
      cases behind with
      | nil => cases h
      | cons d behind =>
        rw [Option.map_eq_some_iff] at h
        obtain ⟨char, hchar, heq⟩ := h
        cases heq
        simp only [wordUntil_skip_append hword, hchar, Option.map_some, skip_append hafter]
  · next hnil hbrace =>
    obtain ⟨c, rest, hskip⟩ := List.exists_cons_of_ne_nil hnil
    rw [hskip] at h hbrace
    rw [skip_append_of_eq_cons hskip]
    have hbrace' := not_cons_append hbrace
    cases hexactly : exactly v count (c :: rest) with
    | none => simp [hexactly] at h
    | some read =>
      obtain ⟨digits, behind⟩ := read
      simp only [hexactly, Option.map_eq_some_iff] at h
      obtain ⟨char, hchar, heq⟩ := h
      cases heq
      have happend := exactly_append hexactly hafter
      rw [List.cons_append] at happend
      simp only [happend, hchar, Option.map_some]

theorem propertyEscape?_append {negated : Bool} {prim : Primitive}
    (h : propertyEscape? v negated cs = some (prim, after)) (hafter : after ≠ [] ∨ v = false) :
    propertyEscape? v negated (cs ++ restGroup) = some (prim, after ++ restGroup) := by
  unfold propertyEscape? at h ⊢
  split at h
  · cases h
  · next rest hskip =>
    rw [skip_append_of_eq_cons hskip]
    cases hword : wordUntil v (fun x => x == '\x7d') (skip v rest) with
    | mk name behind =>
      simp only [hword] at h
      cases behind with
      | nil => cases h
      | cons d behind =>
        cases h
        simp only [wordUntil_skip_append hword]
  · cases h
  · next hskip =>
    cases h
    rw [skip_append_of_eq_cons hskip]
    simp only [skip_append hafter]

theorem boundaryEscape?_append {prim : Primitive}
    (h : boundaryEscape? v cs = some (prim, after)) :
    boundaryEscape? v (cs ++ restGroup) = some (prim, after ++ restGroup) := by
  unfold boundaryEscape? at h ⊢
  split at h
  · next rest =>
    rw [List.cons_append]
    cases hskip : skip v rest with
    | nil => simp [hskip] at h
    | cons c inner =>
      simp only [hskip, skip_append_of_eq_cons hskip] at h ⊢
      by_cases hletter : isBoundaryLetter c = true
      · rw [if_pos hletter] at h ⊢
        cases hword : wordUntil v (fun c => !isBoundaryLetter c) (c :: inner) with
        | mk name behind =>
          simp only [hword] at h
          split at h
          · have hname := wordUntil_append hword
            rw [List.cons_append] at hname
            simp only [hname]
            split_ifs at h ⊢ <;> cases h <;> rfl
          · cases h
      · rw [if_neg hletter] at h ⊢
        cases h
        rfl
  · next hbrace =>
    cases h
    cases cs with
    | nil => rfl
    | cons c rest =>
      have hbrace' := not_cons_append hbrace
      simp only [List.cons_append]

theorem escape?_append {prim : Primitive} (h : escape? v cs = some (prim, after))
    (hafter : after ≠ [] ∨ v = false) :
    escape? v (cs ++ restGroup) = some (prim, after ++ restGroup) := by
  cases cs with
  | nil => cases h
  | cons c rest =>
    rw [List.cons_append]
    unfold escape? at h ⊢
    dsimp only at h ⊢
    by_cases hescapable : isEscapable c = true
    · rw [if_pos hescapable] at h ⊢
      cases h
      rfl
    · rw [if_neg hescapable] at h ⊢
      split at h
      · exact hexEscape?_append h hafter
      · exact hexEscape?_append h hafter
      · exact hexEscape?_append h hafter
      · exact propertyEscape?_append h hafter
      · exact propertyEscape?_append h hafter
      -- classes, control characters and the ends of the text
      iterate 14
        cases h
        rfl
      · exact boundaryEscape?_append h
      iterate 3
        cases h
        rfl
      · cases h

/-! ### Bracketed classes -/

theorem takeWhile_append_of_dropWhile {p : Char → Bool} (h : cs.dropWhile p = c :: after) :
    (cs ++ restGroup).takeWhile p = cs.takeWhile p ∧
      (cs ++ restGroup).dropWhile p = c :: (after ++ restGroup) := by
  have hsplit : cs ++ restGroup = cs.takeWhile p ++ (c :: (after ++ restGroup)) := by
    rw [← List.cons_append, ← h, ← List.append_assoc, List.takeWhile_append_dropWhile]
  have hbefore : ∀ x ∈ cs.takeWhile p, p x = true := fun x hx => List.mem_takeWhile_imp hx
  have hc : ¬p c = true := by
    have hhead := List.head?_dropWhile_not p cs
    rw [h, List.head?_cons] at hhead
    simp [hhead]
  rw [hsplit, List.takeWhile_append_of_pos hbefore, List.dropWhile_append_of_pos hbefore,
    List.takeWhile_cons_of_neg hc, List.dropWhile_cons_of_neg hc, List.append_nil]
  exact ⟨rfl, rfl⟩

/-- Reads the name of a class, from its first character on. -/
def className? (negated : Bool) (cs : List Char) : Option (ClassSet × List Char) :=
  match cs.dropWhile (· != ':') with
  | ':' :: ']' :: after =>
    (asciiClass? (String.ofList (cs.takeWhile (· != ':')))).map fun c => (.ascii c negated, after)
  | _ => none

theorem namedClass?_of_ne (h : cs.head? ≠ some '^') :
    namedClass? (':' :: cs) = className? false cs := by
  have hcaret : ∀ more, cs = '^' :: more → False := fun _ heq => h (by rw [heq, List.head?_cons])
  simp only [namedClass?]
  rfl

theorem namedClass?_eq_none (h : cs.head? ≠ some ':') : namedClass? cs = none := by
  have hcolon : ∀ more, cs = ':' :: more → False := fun _ heq => h (by rw [heq, List.head?_cons])
  simp only [namedClass?]

theorem head?_append_ne (h : cs.head? ≠ some c) (hc : c ≠ '(') :
    (cs ++ restGroup).head? ≠ some c := by
  cases cs with
  | nil => simpa [restGroup] using hc.symm
  | cons d rest => exact h

theorem className?_append (negated : Bool) (cs : List Char) :
    className? negated (cs ++ restGroup) =
      (className? negated cs).map fun found => (found.1, found.2 ++ restGroup) := by
  unfold className?
  cases hdrop : cs.dropWhile (· != ':') with
  | nil =>
    have hgroup : (cs ++ restGroup).dropWhile (· != ':') = [] := by
      rw [List.dropWhile_append, hdrop]
      rfl
    rw [hgroup]
    rfl
  | cons c behind =>
    obtain ⟨htake, happend⟩ := takeWhile_append_of_dropWhile hdrop
    rw [htake, happend]
    by_cases hstart : ∃ after, c :: behind = ':' :: ']' :: after
    · obtain ⟨after, heq⟩ := hstart
      cases heq
      simp [Option.map_map, Function.comp_def]
    · have hnone : ∀ after, c :: (behind ++ restGroup) = ':' :: ']' :: after → False := by
        intro after heq
        cases behind with
        | nil => simp [restGroup] at heq
        | cons d behind =>
          simp only [List.cons_append, List.cons.injEq] at heq
          exact hstart ⟨behind, by rw [heq.1, heq.2.1]⟩
      have hnone' : ∀ after, c :: behind = ':' :: ']' :: after → False :=
        fun after heq => hstart ⟨after, heq⟩
      simp only [Option.map_none]

theorem namedClass?_append (cs : List Char) :
    namedClass? (cs ++ restGroup) =
      (namedClass? cs).map fun found => (found.1, found.2 ++ restGroup) := by
  by_cases hcolon : cs.head? = some ':'
  · obtain ⟨rest, rfl⟩ := List.head?_eq_some_iff.mp hcolon
    rw [List.cons_append]
    by_cases hcaret : rest.head? = some '^'
    · obtain ⟨rest, rfl⟩ := List.head?_eq_some_iff.mp hcaret
      exact className?_append true rest
    · rw [namedClass?_of_ne hcaret, namedClass?_of_ne (head?_append_ne hcaret (by decide))]
      exact className?_append false rest
  · rw [namedClass?_eq_none hcolon, namedClass?_eq_none (head?_append_ne hcolon (by decide))]
    rfl

theorem leadingHyphens_of_ne (hc : c ≠ '-') (fuel : Nat) (items : List ClassSet) :
    leadingHyphens v fuel items (c :: rest) = (items, c :: rest) := by
  cases fuel with
  | zero => rfl
  | succ fuel => simp [leadingHyphens, hc]

theorem leadingHyphens_append {fuel more : Nat} {items found : List ClassSet}
    (hfuel : cs.length ≤ fuel) (hmore : fuel ≤ more)
    (h : leadingHyphens v fuel items cs = (found, c :: after)) :
    leadingHyphens v more items (cs ++ restGroup) = (found, c :: (after ++ restGroup)) := by
  induction fuel generalizing items cs more with
  | zero =>
    obtain rfl := List.eq_nil_of_length_eq_zero (Nat.le_zero.mp hfuel)
    simp [leadingHyphens] at h
  | succ fuel ih =>
    obtain ⟨more, rfl⟩ : ∃ m, more = m + 1 := ⟨more - 1, by omega⟩
    cases cs with
    | nil => simp [leadingHyphens] at h
    | cons d rest =>
      rw [List.cons_append]
      by_cases hd : d = '-'
      · subst hd
        rw [leadingHyphens] at h ⊢
        have hskip : skip v rest ≠ [] := by
          intro hnil
          rw [hnil] at h
          cases fuel <;> simp [leadingHyphens] at h
        rw [skip_append (Or.inl hskip)]
        refine ih ?_ (by omega) h
        have := length_skip_le v rest
        rw [List.length_cons] at hfuel
        omega
      · rw [leadingHyphens_of_ne hd] at h ⊢
        cases h
        rfl

/-- Reads the start of a class behind the sign of negation. -/
def classOpening? (v negated : Bool) (cs : List Char) :
    Option (Bool × List ClassSet × List Char) :=
  let (items, cs) := leadingHyphens v cs.length [] cs
  let (items, cs) := match items, cs with
    | [], ']' :: rest => ([ClassSet.literal ⟨']', false⟩], skip v rest)
    | _, _ => (items, cs)
  if cs.isEmpty then none else some (negated, items, cs)

theorem classStart?_negated (h : skip v cs = '^' :: rest) :
    classStart? v cs = classOpening? v true (skip v rest) := by
  simp only [classStart?, h]
  rfl

theorem classStart?_of_ne (h : (skip v cs).head? ≠ some '^') :
    classStart? v cs = classOpening? v false (skip v cs) := by
  have hcaret : ∀ more, skip v cs = '^' :: more → False :=
    fun _ heq => h (by rw [heq, List.head?_cons])
  simp only [classStart?]
  rfl

theorem classOpening?_append {negated : Bool} {read : Bool × List ClassSet}
    (h : classOpening? v negated cs = some (read.1, read.2, after)) :
    classOpening? v negated (cs ++ restGroup) = some (read.1, read.2, after ++ restGroup) := by
  unfold classOpening? at h ⊢
  cases hhyphens : leadingHyphens v cs.length [] cs with
  | mk found rest =>
    simp only [hhyphens] at h
    cases rest with
    | nil => simp at h
    | cons c rest =>
      have happend := leadingHyphens_append (Nat.le_refl _)
        (by rw [List.length_append]; omega : cs.length ≤ (cs ++ restGroup).length) hhyphens
      simp only [happend]
      by_cases hbracket : found = [] ∧ c = ']'
      · obtain ⟨rfl, rfl⟩ := hbracket
        simp only at h ⊢
        split_ifs at h with hempty
        have hrest : skip v rest ≠ [] := fun hnil => hempty (by rw [hnil]; rfl)
        simp only [Option.some.injEq, Prod.mk.injEq] at h
        obtain ⟨hnegated, hitems, rfl⟩ := h
        rw [skip_append (Or.inl hrest), if_neg (by simp [hrest])]
        simp only [hnegated, hitems]
      · have hnot : ∀ more, found = [] → c :: rest = ']' :: more → False :=
          fun _ hnil heq => hbracket ⟨hnil, (List.cons.inj heq).1⟩
        have hnot' : ∀ more, found = [] → c :: (rest ++ restGroup) = ']' :: more → False :=
          fun _ hnil heq => hbracket ⟨hnil, (List.cons.inj heq).1⟩
        simp only [List.isEmpty_cons, Bool.false_eq_true, if_false, Option.some.injEq,
          Prod.mk.injEq] at h ⊢
        obtain ⟨hnegated, hitems, rfl⟩ := h
        exact ⟨hnegated, hitems, rfl⟩

theorem classStart?_append {read : Bool × List ClassSet}
    (h : classStart? v cs = some (read.1, read.2, after)) :
    classStart? v (cs ++ restGroup) = some (read.1, read.2, after ++ restGroup) := by
  have hcs : skip v cs ≠ [] := by
    intro hnil
    simp [classStart?, hnil, leadingHyphens] at h
  by_cases hcaret : (skip v cs).head? = some '^'
  · obtain ⟨rest, hskip⟩ := List.head?_eq_some_iff.mp hcaret
    rw [classStart?_negated hskip] at h
    rw [classStart?_negated (skip_append_of_eq_cons hskip)]
    have hrest : skip v rest ≠ [] := by
      intro hnil
      rw [hnil] at h
      cases h
    rw [skip_append (Or.inl hrest)]
    exact classOpening?_append h
  · rw [classStart?_of_ne hcaret] at h
    have hhead : (skip v (cs ++ restGroup)).head? ≠ some '^' := by
      rw [skip_append (Or.inl hcs)]
      exact head?_append_ne hcaret (by decide)
    rw [classStart?_of_ne hhead, skip_append (Or.inl hcs)]
    exact classOpening?_append h

theorem classMember?_append {prim : Primitive} (h : classMember? v cs = some (prim, after))
    (hafter : after ≠ [] ∨ v = false) :
    classMember? v (cs ++ restGroup) = some (prim, after ++ restGroup) := by
  unfold classMember? at h
  split at h
  · cases h
  · exact escape?_append h hafter
  · cases h
    simp only [List.cons_append, classMember?]

theorem aheadFrom_append {inComment : Bool} {whole : List Char} (hc : c ≠ '(')
    (hwhole : whole.head? ≠ some c) :
    aheadFrom inComment (whole ++ restGroup) (cs ++ restGroup) = some c ↔
      aheadFrom inComment whole cs = some c := by
  induction cs generalizing inComment with
  | nil =>
    have hgroup : aheadFrom inComment (whole ++ restGroup) restGroup = some '(' := by
      cases inComment <;> rfl
    rw [List.nil_append, hgroup, aheadFrom]
    exact ⟨fun heq => absurd (Option.some.inj heq).symm hc, fun heq => absurd heq hwhole⟩
  | cons d rest ih =>
    rw [List.cons_append]
    unfold aheadFrom
    split_ifs
    · exact ih
    · exact ih
    · exact Iff.rfl

/-- A character that is neither a blank nor a comment sign nor the start of the group comes next if
and only if it did before the group was put behind. -/
theorem ahead_append (hc : c ≠ '(') (hblank : isBlank c = false) (hcomment : c ≠ '#') :
    ahead v (cs ++ restGroup) = some c ↔ ahead v cs = some c := by
  cases v with
  | false =>
    cases cs with
    | nil => simpa [ahead, restGroup] using hc.symm
    | cons d rest => exact Iff.rfl
  | true =>
    by_cases hhead : cs.head? = some c
    · -- the character itself comes first, and is passed over in neither text
      obtain ⟨rest, rfl⟩ := List.head?_eq_some_iff.mp hhead
      simp [ahead, aheadFrom, hblank, hcomment]
    · exact aheadFrom_append hc hhead

theorem classItem?_append {set : ClassSet} (h : classItem? v cs = some (set, after))
    (hafter : after ≠ []) :
    classItem? v (cs ++ restGroup) = some (set, after ++ restGroup) := by
  unfold classItem? at h ⊢
  cases hfirst : classMember? v cs with
  | none => simp [hfirst] at h
  | some read =>
    obtain ⟨first, rest⟩ := read
    simp only [hfirst] at h
    cases hskip : skip v rest with
    | nil => simp [hskip] at h
    | cons c rest' =>
      have hrest : rest ≠ [] ∨ v = false := by
        refine Or.inl fun hnil => ?_
        rw [hnil] at hskip
        cases v <;> cases hskip
      simp only [classMember?_append hfirst hrest, skip_append_of_eq_cons hskip,
        ahead_append (v := v) (c := ']') (by decide) (by decide) (by decide),
        ahead_append (v := v) (c := '-') (by decide) (by decide) (by decide)]
      simp only [hskip] at h
      by_cases hsingle : c ≠ '-' ∨ ahead v rest' = some ']' ∨ ahead v rest' = some '-'
      · rw [if_pos hsingle, Option.map_eq_some_iff] at h ⊢
        obtain ⟨set', hset, heq⟩ := h
        cases heq
        exact ⟨_, hset, rfl⟩
      · rw [if_neg hsingle] at h ⊢
        cases hlast : classMember? v (skip v rest') with
        | none => simp [hlast] at h
        | some read =>
          obtain ⟨prim, behind⟩ := read
          simp only [hlast] at h
          cases prim with
          | anchor a => cases h
          | short c negated => cases h
          | property q negated => cases h
          | literal high =>
            cases first with
            | anchor a => cases h
            | short c negated => cases h
            | property q negated => cases h
            | literal low =>
              dsimp only at h
              split_ifs at h with hle
              cases h
              have hnonempty : skip v rest' ≠ [] := by
                intro hnil
                rw [hnil] at hlast
                cases hlast
              rw [skip_append (Or.inl hnonempty)]
              simp only [classMember?_append hlast (Or.inl hafter), if_pos hle]

theorem classBody?_nil (fuel : Nat) (items : List ClassSet) (frames : List ClassFrame) :
    classBody? v fuel items frames [] = none := by
  cases fuel with
  | zero => rfl
  | succ fuel => cases v <;> rfl

theorem classBody?_append {fuel more : Nat} {items : List ClassSet} {frames : List ClassFrame}
    {a : Ast} (hmore : fuel ≤ more) (h : classBody? v fuel items frames cs = some (a, after)) :
    classBody? v more items frames (cs ++ restGroup) = some (a, after ++ restGroup) := by
  induction fuel generalizing items frames cs more with
  | zero => cases h
  | succ fuel ih =>
    obtain ⟨more, rfl⟩ : ∃ m, more = m + 1 := ⟨more - 1, by omega⟩
    have hle : fuel ≤ more := Nat.le_of_succ_le_succ hmore
    unfold classBody? at h ⊢
    dsimp only at h ⊢
    split at h
    · cases h
    -- a class in the class, named or bracketed
    · next rest hskip =>
      rw [skip_append_of_eq_cons hskip]
      simp only [namedClass?_append]
      cases hnamed : namedClass? rest with
      | some found =>
        simp only [hnamed] at h
        exact ih hle h
      | none =>
        simp only [hnamed] at h
        cases hstart : classStart? v rest with
        | none => simp [hstart] at h
        | some read =>
          obtain ⟨negated, inner, behind⟩ := read
          simp only [hstart] at h
          have happend := classStart?_append (show classStart? v rest =
            some ((negated, inner).1, (negated, inner).2, behind) from hstart)
          simp only [Option.map_none, happend]
          exact ih hle h
    -- the end of the class, or of one in it
    · next rest hskip =>
      rw [skip_append_of_eq_cons hskip]
      simp only
      split at h
      · cases h
        rfl
      · exact ih hle h
      · cases h
    -- the operators
    · next rest hskip =>
      rw [skip_append_of_eq_cons hskip]
      exact ih hle h
    · next rest hskip =>
      rw [skip_append_of_eq_cons hskip]
      exact ih hle h
    · next rest hskip =>
      rw [skip_append_of_eq_cons hskip]
      exact ih hle h
    -- an item, behind which something is left since the class is still open
    · next hnil hopen hclose hand hminus htilde =>
      obtain ⟨c, rest, hskip⟩ := List.exists_cons_of_ne_nil hnil
      rw [hskip] at h hopen hclose hand hminus htilde
      cases hitem : classItem? v (c :: rest) with
      | none => simp [hitem] at h
      | some read =>
        obtain ⟨set, behind⟩ := read
        simp only [hitem] at h
        have hbehind : behind ≠ [] := by
          rintro rfl
          rw [classBody?_nil] at h
          cases h
        have happend := classItem?_append hitem hbehind
        have hopen' := not_cons_append hopen
        have hclose' := not_cons_append hclose
        have hand' := not_cons_cons_append (by decide) hand
        have hminus' := not_cons_cons_append (by decide) hminus
        have htilde' := not_cons_cons_append (by decide) htilde
        rw [List.cons_append] at happend
        rw [skip_append_of_eq_cons hskip]
        simp only [happend]
        exact ih hle h

theorem class?_append {a : Ast} (h : class? v cs = some (a, after)) :
    class? v (cs ++ restGroup) = some (a, after ++ restGroup) := by
  unfold class? at h ⊢
  cases hstart : classStart? v cs with
  | none => simp [hstart] at h
  | some read =>
    obtain ⟨negated, items, rest⟩ := read
    simp only [hstart] at h
    have happend := classStart?_append (show classStart? v cs =
      some ((negated, items).1, (negated, items).2, rest) from hstart)
    simp only [happend]
    refine classBody?_append ?_ h
    rw [List.length_append]
    omega

/-! ### Groups and flags -/

theorem flagsFrom?_append {change found : FlagChange} {negated dangling : Bool}
    (h : flagsFrom? change negated dangling cs = some (found, after)) :
    flagsFrom? change negated dangling (cs ++ restGroup) = some (found, after ++ restGroup) := by
  induction cs generalizing change negated dangling with
  | nil => cases h
  | cons c rest ih =>
    rw [List.cons_append]
    unfold flagsFrom? at h ⊢
    split_ifs at h ⊢
    · cases h
      rfl
    · exact ih h
    · split at h
      · cases h
      · split_ifs at h ⊢
        exact ih h

theorem groupName?_append {name : List Char} (h : groupName? cs = some (name, after)) :
    groupName? (cs ++ restGroup) = some (name, after ++ restGroup) := by
  unfold groupName? at h ⊢
  cases hdrop : cs.dropWhile (· != '>') with
  | nil => simp [hdrop] at h
  | cons c rest =>
    obtain ⟨htake, happend⟩ := takeWhile_append_of_dropWhile hdrop
    rw [htake, happend]
    rw [hdrop] at h
    dsimp only at h ⊢
    split at h
    · next first more _ _ hname heq =>
      cases heq
      split_ifs at h with hchars
      cases h
      simp only [hname, if_pos hchars]
    · cases h

theorem isPrefixOf_append {start : List Char} (hstart : '(' ∉ start) :
    start.isPrefixOf (cs ++ restGroup) = start.isPrefixOf cs := by
  induction start generalizing cs with
  | nil => simp
  | cons c start ih =>
    rw [List.mem_cons, not_or] at hstart
    cases cs with
    | nil =>
      have hc : (c == '(') = false := beq_false_of_ne (Ne.symm hstart.1)
      rw [List.nil_append, restGroup, List.isPrefixOf_cons_cons, hc, Bool.false_and]
      rfl
    | cons d rest =>
      rw [List.cons_append, List.isPrefixOf_cons_cons, List.isPrefixOf_cons_cons, ih hstart.2]

theorem after?_append (start : String) (hstart : '(' ∉ start.toList) (cs : List Char) :
    after? start (cs ++ restGroup) = (after? start cs).map (· ++ restGroup) := by
  unfold after?
  rw [isPrefixOf_append hstart]
  split_ifs with hfound
  · have hlength := (List.isPrefixOf_iff_prefix.mp hfound).length_le
    rw [String.length_toList] at hlength
    rw [List.drop_append_of_le_length hlength]
    rfl
  · rfl

/-! ### States -/

/-- The state with a group for the rest of a line behind what is left. -/
def State.more (st : State) : State := { st with rest := st.rest ++ restGroup }

variable {st next : State}

/-- A state in which nothing that is left can reach into a group behind it. -/
def State.Ends (st : State) : Prop := st.rest ≠ [] ∨ st.verbose = false

theorem State.closeGroup?_append (h : st.closeGroup? rest = some next) :
    st.closeGroup? (rest ++ restGroup) = some next.more := by
  unfold State.closeGroup? at h ⊢
  split at h
  · cases h
  · cases h
    rfl

theorem State.repeat?_append {min : Nat} {max : Option Nat} {greedy : Bool}
    (h : st.repeat? min max greedy rest = some next) :
    st.repeat? min max greedy (rest ++ restGroup) = some next.more := by
  unfold State.repeat? at h ⊢
  split at h
  · cases h
  · cases h
  · cases h
    rfl

theorem lazyMark_append (cs : List Char) :
    lazyMark (cs ++ restGroup) = ((lazyMark cs).1, (lazyMark cs).2 ++ restGroup) := by
  cases cs with
  | nil => rfl
  | cons c rest =>
    by_cases hc : c = '?'
    · subst hc
      rfl
    · simp [lazyMark, hc]

/-- Reads the end of the counts of a repetition. -/
def State.closeCount? (st : State) (min : Nat) (max : Option Nat) (cs : List Char) :
    Option State :=
  match cs with
  | '\x7d' :: rest =>
    let (greedy, rest) := lazyMark (skip st.verbose rest)
    if max.all (min ≤ ·) then st.repeat? min max greedy rest else none
  | _ => none

theorem State.counted?_eq (st : State) (cs : List Char) :
    st.counted? cs =
      match decimal? st.verbose (skip st.verbose cs) with
      | none => none
      | some (min, rest) =>
        match rest with
        | ',' :: rest =>
          match skip st.verbose rest with
          | '\x7d' :: rest => st.closeCount? min none ('\x7d' :: rest)
          | rest =>
            match decimal? st.verbose rest with
            | none => none
            | some (max, rest) => st.closeCount? min (some max) rest
        | rest => st.closeCount? min (some min) rest := by
  unfold State.counted? State.closeCount?
  rfl

theorem State.verbose_of_repeat? {min : Nat} {max : Option Nat} {greedy : Bool}
    (h : st.repeat? min max greedy rest = some next) :
    next.verbose = st.verbose ∧ next.rest = rest := by
  unfold State.repeat? at h
  split at h <;> cases h
  exact ⟨rfl, rfl⟩

theorem State.closeCount?_append {min : Nat} {max : Option Nat}
    (h : st.closeCount? min max cs = some next) (hends : next.Ends) :
    st.closeCount? min max (cs ++ restGroup) = some next.more := by
  unfold State.closeCount? at h
  split at h
  · next rest =>
    dsimp only at h
    split_ifs at h with hmax
    obtain ⟨hverbose, hrest⟩ := State.verbose_of_repeat? h
    have hskip : skip st.verbose rest ≠ [] ∨ st.verbose = false := by
      rw [State.Ends, hverbose, hrest] at hends
      refine hends.imp_left fun hne hnil => hne ?_
      rw [hnil]
      rfl
    rw [List.cons_append, State.closeCount?]
    simp only [skip_append hskip, lazyMark_append, if_pos hmax, State.repeat?_append h]
  · cases h

theorem State.counted?_append (h : st.counted? cs = some next) (hends : next.Ends) :
    st.counted? (cs ++ restGroup) = some next.more := by
  rw [State.counted?_eq] at h ⊢
  cases hskip : skip st.verbose cs with
  | nil =>
    rw [hskip] at h
    cases h
  | cons first digits =>
    rw [skip_append_of_eq_cons hskip]
    rw [hskip] at h
    cases hmin : decimal? st.verbose (first :: digits) with
    | none => simp [hmin] at h
    | some read =>
      obtain ⟨min, behind⟩ := read
      simp only [hmin] at h
      cases behind with
      | nil => cases h
      | cons c rest =>
        have happend := decimal?_append hmin
        rw [List.cons_append] at happend
        simp only [happend]
        split at h
        · next rest heq =>
          cases heq
          split at h
          · next more hbrace =>
            simp only [skip_append_of_eq_cons hbrace]
            exact State.closeCount?_append h hends
          · next hbrace =>
            cases hmax : decimal? st.verbose (skip st.verbose rest) with
            | none => simp [hmax] at h
            | some read =>
              obtain ⟨max, last⟩ := read
              simp only [hmax] at h
              cases last with
              | nil => cases h
              | cons d last =>
                obtain ⟨e, digits, hdigits⟩ : ∃ e digits, skip st.verbose rest = e :: digits := by
                  refine List.exists_cons_of_ne_nil fun hnil => ?_
                  rw [hnil] at hmax
                  cases hmax
                rw [hdigits] at hmax hbrace
                have hlast := decimal?_append hmax
                have hbrace' := not_cons_append hbrace
                rw [List.cons_append] at hlast
                simp only [skip_append_of_eq_cons hdigits, hlast]
                exact State.closeCount?_append h hends
        · next hcomma =>
          have hcomma' := not_cons_append hcomma
          simp only
          exact State.closeCount?_append h hends

/-- The sign of a group that looks around or has a name is there or not whatever is behind. -/
theorem lookAround_append (cs : List Char) :
    (["?=", "?!", "?<=", "?<!"].any fun s => (after? s (cs ++ restGroup)).isSome) =
      ["?=", "?!", "?<=", "?<!"].any fun s => (after? s cs).isSome := by
  simp only [List.any_cons, List.any_nil, after?_append "?=" (by decide),
    after?_append "?!" (by decide), after?_append "?<=" (by decide),
    after?_append "?<!" (by decide), Option.isSome_map]

/-- Opens a group with a name. -/
def State.openNamed? (st : State) (cs : List Char) : Option State :=
  match groupName? cs with
  | none => none
  | some (name, rest) =>
    if st.names.contains name then none
    else some ({ st with names := name :: st.names }.enterCapture rest)

/-- Opens a group without a name, or changes flags. -/
def State.openUnnamed? (st : State) (cs : List Char) : Option State :=
  match cs with
  | '?' :: rest =>
    match flagsFrom? [] false false rest with
    | some (change, ')' :: rest) =>
      if change.isEmpty then none
      else some { st.push (.flags change) rest with verbose := verboseAfter change st.verbose }
    | some (change, _ :: rest) =>
      some (st.enter (.flags change) (verboseAfter change st.verbose) rest)
    | _ => none
  | _ => some (st.enterCapture cs)

theorem State.openGroup?_eq (st : State) (cs : List Char) :
    st.openGroup? cs =
      if ["?=", "?!", "?<=", "?<!"].any fun s => (after? s (skip st.verbose cs)).isSome then none
      else
        match (after? "?P<" (skip st.verbose cs)).orElse fun _ =>
          after? "?<" (skip st.verbose cs) with
        | some rest => st.openNamed? rest
        | none => st.openUnnamed? (skip st.verbose cs) := by
  unfold State.openGroup? State.openNamed? State.openUnnamed?
  rfl

theorem State.openNamed?_append (h : st.openNamed? cs = some next) :
    st.openNamed? (cs ++ restGroup) = some next.more := by
  unfold State.openNamed? at h ⊢
  cases hname : groupName? cs with
  | none => simp [hname] at h
  | some read =>
    obtain ⟨name, behind⟩ := read
    simp only [hname] at h
    split_ifs at h with hused
    cases h
    simp only [groupName?_append hname, if_neg hused]
    rfl

theorem State.openUnnamed?_append (h : st.openUnnamed? cs = some next) :
    st.openUnnamed? (cs ++ restGroup) = some next.more := by
  unfold State.openUnnamed? at h ⊢
  cases cs with
  | nil =>
    cases h
    rfl
  | cons c rest =>
    rw [List.cons_append]
    by_cases hc : c = '?'
    · subst hc
      cases hflags : flagsFrom? [] false false rest with
      | none => simp [hflags] at h
      | some read =>
        obtain ⟨change, behind⟩ := read
        simp only [hflags] at h
        cases behind with
        | nil => cases h
        | cons d behind =>
          have happend := flagsFrom?_append hflags
          rw [List.cons_append] at happend
          simp only [happend]
          by_cases hd : d = ')'
          · subst hd
            simp only at h ⊢
            split_ifs at h ⊢
            cases h
            rfl
          · simp only at h ⊢
            cases h
            rfl
    · have hquestion : ∀ more, c :: rest = '?' :: more → False :=
        fun _ heq => hc (List.cons.inj heq).1
      have hquestion' := not_cons_append hquestion
      simp only [Option.some.injEq] at h ⊢
      cases h
      rfl

theorem State.openGroup?_append (h : st.openGroup? cs = some next) (hends : next.Ends) :
    st.openGroup? (cs ++ restGroup) = some next.more := by
  have hskip : skip st.verbose cs ≠ [] ∨ st.verbose = false := by
    by_contra hnot
    rw [not_or, Decidable.not_not] at hnot
    have hopen : st.openGroup? cs = some (st.enterCapture []) := by
      unfold State.openGroup?
      rw [hnot.1]
      rfl
    rw [hopen, Option.some.injEq] at h
    subst h
    exact hends.elim (fun hne => hne rfl) hnot.2
  rw [State.openGroup?_eq] at h ⊢
  rw [skip_append hskip, lookAround_append, after?_append "?P<" (by decide),
    after?_append "?<" (by decide)]
  generalize skip st.verbose cs = cs at h ⊢
  split_ifs at h ⊢
  have horElse : ((after? "?P<" cs).map (· ++ restGroup)).orElse
      (fun _ => (after? "?<" cs).map (· ++ restGroup)) =
      ((after? "?P<" cs).orElse fun _ => after? "?<" cs).map (· ++ restGroup) := by
    cases after? "?P<" cs <;> rfl
  rw [horElse]
  cases hname : (after? "?P<" cs).orElse fun _ => after? "?<" cs with
  | some rest =>
    simp only [hname] at h
    exact State.openNamed?_append h
  | none =>
    simp only [hname] at h
    exact State.openUnnamed?_append h

theorem State.step?_append (h : st.step? c rest = some next) (hends : next.Ends) :
    st.step? c (rest ++ restGroup) = some next.more := by
  unfold State.step? at h ⊢
  split at h
  · exact State.openGroup?_append h hends
  · exact State.closeGroup?_append h
  · cases h
    rfl
  · rw [Option.map_eq_some_iff] at h ⊢
    obtain ⟨⟨a, behind⟩, hclass, heq⟩ := h
    cases heq
    exact ⟨_, class?_append hclass, rfl⟩
  · simp only [lazyMark_append]
    exact State.repeat?_append h
  · simp only [lazyMark_append]
    exact State.repeat?_append h
  · simp only [lazyMark_append]
    exact State.repeat?_append h
  · exact State.counted?_append h hends
  · rw [Option.map_eq_some_iff] at h ⊢
    obtain ⟨⟨prim, behind⟩, hescape, heq⟩ := h
    cases heq
    exact ⟨_, escape?_append hescape hends, rfl⟩
  · cases h
    rfl
  · cases h
    rfl
  · cases h
    rfl
  · cases h
    rfl

/-- One step reads the same construct whatever text is noted as left. -/
theorem State.step?_more (st : State) (c : Char) (rest : List Char) :
    st.more.step? c rest = st.step? c rest := by
  unfold State.step?
  rfl

/-- A reader that is done where blanks count was not stopped by a comment before. -/
theorem State.ends_of_run? {fuel : Nat} (h : State.run? fuel st = some next)
    (hverbose : next.verbose = false) : st.Ends := by
  by_contra hnot
  rw [State.Ends, not_or, Decidable.not_not, Bool.not_eq_false] at hnot
  cases fuel with
  | zero => cases h
  | succ fuel =>
    rw [State.run?, hnot.1, hnot.2] at h
    cases h
    cases hverbose

/-- A pattern that is read to its end, where blanks count, is read up to the same state when a group
is put behind it. -/
theorem State.run?_append {fuel : Nat} (h : State.run? fuel st = some next)
    (hverbose : next.verbose = false) (extra : Nat) :
    ∃ left, State.run? (fuel + extra) st.more = State.run? (left + 1 + extra) next.more := by
  induction fuel generalizing st with
  | zero => cases h
  | succ fuel ih =>
    unfold State.run? at h
    split at h
    · next hskip =>
      cases h
      have hrest : st.rest = [] := by
        rw [hverbose] at hskip
        exact hskip
      refine ⟨fuel, ?_⟩
      rw [State.more, hrest]
      rfl
    · next c rest hskip =>
      obtain ⟨mid, hmid, hrest⟩ := Option.bind_eq_some_iff.mp h
      obtain ⟨left, hleft⟩ := ih hrest
      refine ⟨left, ?_⟩
      have hmore : skip st.more.verbose st.more.rest = c :: (rest ++ restGroup) :=
        skip_append_of_eq_cons hskip
      rw [← hleft, Nat.add_right_comm, State.run?, hmore]
      simp only [State.step?_more,
        State.step?_append hmid (State.ends_of_run? hrest hverbose), Option.bind_some]

/-- A group for the rest of a line is read as one more item. -/
theorem State.run?_restGroup (h : st.rest = []) (hverbose : st.verbose = false) (left : Nat) :
    State.run? (left + 5) st.more = some { st with
      items := .group (.capture (st.captures + 1)) (.repetition 1 none true .dot) :: st.items,
      captures := st.captures + 1 } := by
  obtain ⟨rest, branches, items, outer, verbose, captures, names⟩ := st
  dsimp only at h hverbose
  subst h hverbose
  rfl

end LineSieve.Regex.Reader
