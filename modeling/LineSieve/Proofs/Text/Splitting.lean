import Mathlib.Data.List.Basic
import LineSieve.Text.Layout

/-!
# Pieces and occurrences

What stands between separators holds none of them, and what is added without a separator only
lengthens the last piece. A text occurs in another one if it is an infix of it.
-/

namespace LineSieve.Text

variable {α : Type} {sep : α} {xs ys piece : List α}

/-! ### Pieces -/

theorem forall_of_mem_splitOnP {p : α → Bool} (h : piece ∈ xs.splitOnP p) :
    ∀ x ∈ piece, p x = false := by
  induction xs generalizing piece with
  | nil =>
    rw [List.splitOnP_nil, List.mem_singleton] at h
    simp [h]
  | cons x rest ih =>
    obtain ⟨first, more, hrest⟩ := List.exists_cons_of_ne_nil (List.splitOnP_ne_nil p rest)
    rw [hrest] at ih
    rw [List.splitOnP_cons_eq_if_modifyHead, hrest] at h
    cases hx : p x with
    | true =>
      rw [hx, if_pos rfl, List.mem_cons] at h
      rcases h with rfl | h
      · exact List.forall_mem_nil _
      · exact ih h
    | false =>
      rw [hx, if_neg Bool.false_ne_true, List.modifyHead_cons, List.mem_cons] at h
      rcases h with rfl | h
      · exact List.forall_mem_cons.mpr ⟨hx, ih List.mem_cons_self⟩
      · exact ih (List.mem_cons_of_mem _ h)

variable [BEq α] [LawfulBEq α]

theorem not_mem_of_mem_splitOn (h : piece ∈ xs.splitOn sep) : sep ∉ piece := by
  intro hmem
  have hsep := forall_of_mem_splitOnP h sep hmem
  simp at hsep

theorem splitOn_of_not_mem (h : sep ∉ xs) : xs.splitOn sep = [xs] := by
  induction xs with
  | nil => rfl
  | cons x rest ih =>
    rw [List.mem_cons, not_or] at h
    have hx : ¬(x == sep) = true := fun heq => h.1 (beq_iff_eq.mp heq).symm
    rw [List.splitOn_cons_eq_if_modifyHead, if_neg hx, ih h.2, List.modifyHead_cons]

/-- Without a separator only the last piece gets longer. -/
theorem splitOn_append_of_not_mem (h : sep ∉ ys) (xs : List α) :
    ∃ before last, xs.splitOn sep = before ++ [last] ∧
      (xs ++ ys).splitOn sep = before ++ [last ++ ys] := by
  induction xs with
  | nil => exact ⟨[], [], rfl, splitOn_of_not_mem h⟩
  | cons x rest ih =>
    obtain ⟨before, last, hrest, hmore⟩ := ih
    rw [List.cons_append, List.splitOn_cons_eq_if_modifyHead, List.splitOn_cons_eq_if_modifyHead,
      hrest, hmore]
    by_cases hx : (x == sep) = true
    · exact ⟨[] :: before, last, by simp [hx], by simp [hx]⟩
    · cases before with
      | nil => exact ⟨[], x :: last, by simp [hx], by simp [hx]⟩
      | cons first more => exact ⟨(x :: first) :: more, last, by simp [hx], by simp [hx]⟩

/-! ### Occurrences -/

theorem occursIn_iff_isInfix (needle hay : List Char) :
    occursIn needle hay = true ↔ needle <:+: hay := by
  induction hay with
  | nil => rw [occursIn, List.isEmpty_iff, List.infix_nil]
  | cons c rest ih =>
    rw [occursIn, Bool.or_eq_true, List.isPrefixOf_iff_prefix, ih, List.infix_cons_iff]

end LineSieve.Text
