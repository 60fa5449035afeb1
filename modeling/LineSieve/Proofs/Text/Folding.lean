import Mathlib.Data.List.Chain
import LineSieve.Proofs.Text.Splitting
import LineSieve.Proofs.Text.Utf8
import LineSieve.Text.Layout

/-!
# Folded and truncated texts

A text is folded if its only blanks are single spaces between other characters. Folding the blanks
of a text puts single spaces between its words and so gives a folded text, and it changes no
other. What truncating leaves of a folded text is folded too, also where it is cut behind a space,
as the ellipsis stands there.
-/

namespace LineSieve.Text

variable {cs more word : List Char} {pieces : List (List Char)} {limit : Nat}

/-! ### Folded texts -/

/-- The only blanks of a text are single spaces within it. -/
structure Folded (cs : List Char) : Prop where
  blank_eq : ∀ c ∈ cs, isBlank c = true → c = ' '
  apart : cs.IsChain fun c d => c = ' ' → d ≠ ' '
  head?_ne : cs.head? ≠ some ' '
  getLast?_ne : cs.getLast? ≠ some ' '

/-- A word is not empty and has no blank. -/
structure IsWord (word : List Char) : Prop where
  ne_nil : word ≠ []
  no_blank : ∀ c ∈ word, isBlank c = false

theorem folded_nil : Folded [] where
  blank_eq _ hc := nomatch hc
  apart := .nil
  head?_ne h := nomatch h
  getLast?_ne h := nomatch h

theorem IsWord.ne_space (h : IsWord word) {c : Char} (hc : c ∈ word) : c ≠ ' ' := by
  rintro rfl
  exact absurd (h.no_blank ' ' hc) (by decide)

theorem IsWord.folded (h : IsWord word) : Folded word where
  blank_eq c hc hblank := by
    rw [h.no_blank c hc] at hblank
    cases hblank
  apart := by
    refine (List.pairwise_of_forall_mem_list fun c hc d _ hspace => ?_).isChain
    exact absurd hspace (h.ne_space hc)
  head?_ne hhead := h.ne_space (List.mem_of_head? hhead) rfl
  getLast?_ne hlast := h.ne_space (List.mem_of_getLast? hlast) rfl

theorem Folded.prepend (h : Folded more) (hmore : more ≠ []) (hword : IsWord word) :
    Folded (word ++ ' ' :: more) where
  blank_eq c hc hblank := by
    rcases List.mem_append.mp hc with hc | hc
    · exact hword.folded.blank_eq c hc hblank
    · rcases List.mem_cons.mp hc with rfl | hc
      · rfl
      · exact h.blank_eq c hc hblank
  apart := by
    refine List.isChain_append.mpr ⟨hword.folded.apart, ?_, ?_⟩
    · refine List.isChain_cons.mpr ⟨fun d hd _ hspace => h.head?_ne ?_, h.apart⟩
      rw [← hspace]
      exact hd
    · intro c hc d _ hspace
      exact absurd hspace (hword.ne_space (List.mem_of_getLast? hc))
  head?_ne := by
    rw [List.head?_append_of_ne_nil _ hword.ne_nil]
    exact hword.folded.head?_ne
  getLast?_ne := by
    rw [List.getLast?_append_of_ne_nil _ (List.cons_ne_nil _ _), List.getLast?_cons_of_ne_nil hmore]
    exact h.getLast?_ne

theorem IsWord.intercalate_ne_nil (h : IsWord word) (rest : List (List Char)) :
    [' '].intercalate (word :: rest) ≠ [] := by
  cases rest with
  | nil => simpa using h.ne_nil
  | cons second rest => simp [h.ne_nil]

/-- Words with single spaces between them are a folded text. -/
theorem folded_intercalate (h : ∀ word ∈ pieces, IsWord word) :
    Folded ([' '].intercalate pieces) := by
  induction pieces with
  | nil => exact folded_nil
  | cons word rest ih =>
    rw [List.forall_mem_cons] at h
    cases rest with
    | nil => simpa using h.1.folded
    | cons second rest =>
      rw [List.intercalate_cons_cons, List.append_assoc, List.singleton_append]
      exact (ih h.2).prepend ((h.2 second List.mem_cons_self).intercalate_ne_nil rest) h.1

/-! ### Words -/

/-- The words of a text are what stands between its blanks, without the empty pieces. -/
theorem wordsFrom_eq (word cs : List Char) :
    wordsFrom word cs =
      (List.splitOnPPrepend isBlank cs word).filter fun piece => !piece.isEmpty := by
  induction cs generalizing word with
  | nil => cases word <;> simp [wordsFrom]
  | cons c rest ih =>
    cases hc : isBlank c with
    | false => simp [wordsFrom, List.splitOnPPrepend_cons_neg hc, hc, ih]
    | true =>
      rw [List.splitOnPPrepend_cons_pos hc, wordsFrom, if_pos hc, ih]
      cases word <;> simp

theorem words_eq (cs : List Char) :
    words cs = (cs.splitOnP isBlank).filter fun piece => !piece.isEmpty := wordsFrom_eq [] cs

theorem isWord_of_mem_words (h : word ∈ words cs) : IsWord word := by
  rw [words_eq, List.mem_filter] at h
  exact ⟨by simpa using h.2, forall_of_mem_splitOnP h.1⟩

theorem foldBlanks_eq (cs : List Char) : foldBlanks cs = [' '].intercalate (words cs) := rfl

theorem folded_foldBlanks (cs : List Char) : Folded (foldBlanks cs) :=
  folded_intercalate fun _ => isWord_of_mem_words

/-- The words from within a word on, with single spaces between them, are the text from there on
if it goes on as a folded text does. -/
theorem intercalate_wordsFrom (hblank : ∀ c ∈ cs, isBlank c = true → c = ' ')
    (hapart : cs.IsChain fun c d => c = ' ' → d ≠ ' ') (hlast : cs.getLast? ≠ some ' ')
    (hword : word = [] → cs ≠ [] ∧ cs.head? ≠ some ' ') :
    [' '].intercalate (wordsFrom word cs) = word.reverse ++ cs := by
  -- The induction is on the text, with any word before it: a blank ends the word, and behind it
  -- `wordsFrom` starts again with the empty word, where the next character cannot be a blank.
  induction cs generalizing word with
  | nil =>
    have hne : word ≠ [] := fun h => (hword h).1 rfl
    simp [wordsFrom, hne]
  | cons c rest ih =>
    rw [List.forall_mem_cons] at hblank
    have hrest := List.isChain_cons.mp hapart
    cases hc : isBlank c with
    | false =>
      have htail : rest.getLast? ≠ some ' ' := by
        intro h
        rw [List.getLast?_cons, h] at hlast
        exact hlast rfl
      have hmore : [' '].intercalate (wordsFrom (c :: word) rest) = (c :: word).reverse ++ rest :=
        ih hblank.2 hrest.2 htail fun h => absurd h (List.cons_ne_nil c word)
      rw [wordsFrom, if_neg (by simp [hc]), hmore, List.reverse_cons, List.append_assoc,
        List.singleton_append]
    | true =>
      obtain rfl := hblank.1 hc
      have hne : word ≠ [] := fun h => (hword h).2 rfl
      have hmore : rest ≠ [] := by
        rintro rfl
        exact hlast rfl
      have hhead : rest.head? ≠ some ' ' := fun h => hrest.1 ' ' h rfl rfl
      rw [List.getLast?_cons_of_ne_nil hmore] at hlast
      have htail : [' '].intercalate (wordsFrom [] rest) = rest :=
        ih hblank.2 hrest.2 hlast fun _ => ⟨hmore, hhead⟩
      have hwords : wordsFrom [] rest ≠ [] := by
        intro h
        rw [h] at htail
        exact hmore htail.symm
      rw [wordsFrom, if_pos hc, if_neg (by simp [hne]), List.intercalate_cons_of_ne_nil hwords, htail]
      simp

theorem foldBlanks_of_folded (h : Folded cs) : foldBlanks cs = cs := by
  by_cases hne : cs = []
  · rw [hne]
    rfl
  · exact intercalate_wordsFrom h.blank_eq h.apart h.getLast?_ne fun _ => ⟨hne, h.head?_ne⟩

/-! ### Truncating -/

theorem length_truncate_le (cs : List Char) (limit : Nat) :
    (truncate cs limit).length ≤ limit + 1 := by
  unfold truncate
  split
  · omega
  · rw [List.length_append, List.length_take, List.length_singleton]
    omega

theorem truncate_truncate (cs : List Char) (limit : Nat) :
    truncate (truncate cs limit) limit = truncate cs limit := by
  by_cases hle : cs.length ≤ limit
  · simp [truncate, hle]
  · have hcut : truncate cs limit = cs.take limit ++ ['…'] := if_neg hle
    have hlength : (cs.take limit).length = limit := List.length_take_of_le (by omega)
    have hlong : ¬ (cs.take limit ++ ['…']).length ≤ limit := by
      rw [List.length_append, hlength, List.length_singleton]
      omega
    rw [hcut, truncate, if_neg hlong, List.take_left' hlength]

/-- The ellipsis stands behind a space at which a folded text is cut. -/
theorem Folded.truncate (h : Folded cs) (limit : Nat) : Folded (truncate cs limit) := by
  unfold Text.truncate
  split
  · exact h
  · -- The ellipsis is no blank, so at the cut nothing has to be known of what stands before it.
    refine ⟨fun c hc hblank => ?_, ?_, ?_, ?_⟩
    · rcases List.mem_append.mp hc with hc | hc
      · exact h.blank_eq c (List.mem_of_mem_take hc) hblank
      · rw [List.mem_singleton.mp hc] at hblank
        exact absurd hblank (by decide)
    · refine List.isChain_append.mpr ⟨h.apart.take limit, .singleton _, ?_⟩
      intro c _ d hd _
      cases hd
      decide
    · intro hhead
      rw [List.head?_append, List.head?_take] at hhead
      split at hhead
      · exact absurd hhead (by decide)
      · cases hcs : cs.head? with
        | none =>
          rw [hcs] at hhead
          exact absurd hhead (by decide)
        | some c =>
          rw [hcs] at hhead
          exact h.head?_ne (hcs.trans hhead)
    · rw [List.getLast?_concat]
      decide

/-! ### Previews -/

/-- Behind `cut` bytes a text is cut between two characters, `count` of which stand before. -/
structure CutBehind (s : String) (count cut : Nat) : Prop where
  before : Utf8.decode ((Utf8.encode s).take cut) = .ok (String.ofList (s.toList.take count))
  behind : Utf8.decode ((Utf8.encode s).drop cut) = .ok (String.ofList (s.toList.drop count))

theorem exists_cutBehind (s : String) (count : Nat) : ∃ cut, CutBehind s count cut := by
  have hbytes : Utf8.encode s = Utf8.encode (String.ofList (s.toList.take count)) ++
      Utf8.encode (String.ofList (s.toList.drop count)) := by
    rw [Utf8.encode, Utf8.encode, Utf8.encode, String.toList_ofList, String.toList_ofList,
      ← Utf8.encodeChars_append, List.take_append_drop]
  refine ⟨(Utf8.encode (String.ofList (s.toList.take count))).length, ?_, ?_⟩
  · rw [hbytes, List.take_left, Utf8.decode_encode]
  · rw [hbytes, List.drop_left, Utf8.decode_encode]

theorem CutBehind.encode_take {s : String} {count cut : Nat} (h : CutBehind s count cut) :
    Utf8.encodeChars (s.toList.take count) = (Utf8.encode s).take cut := by
  rw [← Utf8.encode_of_decode h.before, Utf8.encode, String.toList_ofList]

theorem toList_preview (s : String) (limit : Nat) :
    (preview s limit).toList = truncate (foldBlanks s.toList) limit := String.toList_ofList

theorem preview_preview (s : String) (limit : Nat) :
    preview (preview s limit) limit = preview s limit := by
  have hfolded := (folded_foldBlanks s.toList).truncate limit
  rw [preview, toList_preview, foldBlanks_of_folded hfolded, truncate_truncate, preview]

/-- A preview is on one line: it is the words of a text with single spaces between them, or the
first characters of that and an ellipsis if there are more than the limit. So its blanks are
single spaces within it, and it has at most one character more than the limit. In the bytes of the
text the cut is between two characters. A preview is its own preview. -/
theorem preview_on_one_line (s : String) (limit : Nat) :
    let folded := String.ofList
      ([' '].intercalate ((s.toList.splitOnP isBlank).filter fun piece => !piece.isEmpty))
    (preview s limit).toList =
        (if folded.length ≤ limit then folded.toList else folded.toList.take limit ++ ['…']) ∧
      Folded (preview s limit).toList ∧
      (preview s limit).length ≤ limit + 1 ∧
      (∃ cut, CutBehind folded limit cut ∧
        Utf8.encode (preview s limit) =
          if folded.length ≤ limit then Utf8.encode folded
          else (Utf8.encode folded).take cut ++ Utf8.encode "…") ∧
      preview (preview s limit) limit = preview s limit := by
  intro folded
  have hfolded : folded.toList = foldBlanks s.toList := by
    rw [String.toList_ofList, foldBlanks_eq, words_eq]
  have hchars : (preview s limit).toList =
      if folded.length ≤ limit then folded.toList else folded.toList.take limit ++ ['…'] := by
    rw [toList_preview, ← hfolded, truncate, String.length_toList]
  refine ⟨hchars, ?_, ?_, ?_, preview_preview s limit⟩
  · rw [toList_preview]
    exact (folded_foldBlanks s.toList).truncate limit
  · rw [← String.length_toList, toList_preview]
    exact length_truncate_le _ limit
  · obtain ⟨cut, hcut⟩ := exists_cutBehind folded limit
    refine ⟨cut, hcut, ?_⟩
    rw [Utf8.encode, hchars]
    split
    · rfl
    · rw [Utf8.encodeChars_append, hcut.encode_take]
      rfl

/-- The text is cut behind a space, and the limit may be zero. -/
example : preview " a\t\u2028 bc " 2 = "a …" ∧ preview "a" 0 = "…" := by decide

end LineSieve.Text
