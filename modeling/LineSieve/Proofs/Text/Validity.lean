import Mathlib.Data.List.Basic
import LineSieve.Proofs.Text.Utf8

/-!
# Bytes that begin with a text

Bytes are UTF-8 if they are the encoding of a text, which says nothing of how they are read. Where
they are not, the decoder stops at the end of the longest text that they begin with
(`longestText_of_decode`). This text is the same whatever stands behind, if that begins with a
byte of ASCII: no character goes on there.
-/

namespace LineSieve.Text.Utf8

open Results

variable {bytes xs ys : List Byte} {n : Nat}

/-! ### Texts -/

/-- Bytes are the encoding of a text. -/
def IsText (bytes : List Byte) : Prop := ∃ cs, encodeChars cs = bytes

theorem isText_nil : IsText [] := ⟨[], rfl⟩

theorem isText_iff_decode : IsText bytes ↔ ∃ text, decode bytes = .ok text := by
  constructor
  · rintro ⟨cs, rfl⟩
    exact ⟨String.ofList cs, map_eq_ok_iff.mpr ⟨cs, decodeFrom_encodeChars 0 cs, rfl⟩⟩
  · rintro ⟨text, htext⟩
    exact ⟨text.toList, encode_of_decode htext⟩

theorem IsText.append (hx : IsText xs) (hy : IsText ys) : IsText (xs ++ ys) := by
  obtain ⟨cs, rfl⟩ := hx
  obtain ⟨ds, rfl⟩ := hy
  exact ⟨cs ++ ds, encodeChars_append cs ds⟩

theorem isText_flatten {parts : List (List Byte)} (h : ∀ part ∈ parts, IsText part) :
    IsText parts.flatten := by
  induction parts with
  | nil => exact isText_nil
  | cons part rest ih =>
    rw [List.forall_mem_cons] at h
    exact h.1.append (ih h.2)

/-- The decoder reads a text wherever it stands. -/
theorem decodeFrom_encodeChars_append (offset : Nat) (cs : List Char) (rest : List Byte) :
    decodeFrom offset (encodeChars cs ++ rest) =
      (decodeFrom (offset + (encodeChars cs).length) rest).map (cs ++ ·) := by
  induction cs generalizing offset with
  | nil =>
    rw [encodeChars_nil, List.nil_append, List.length_nil, Nat.add_zero]
    cases decodeFrom offset rest <;> rfl
  | cons c more ih =>
    rw [encodeChars_cons, List.append_assoc, decodeFrom_encodeChar, ih, List.length_append,
      Nat.add_assoc]
    cases decodeFrom (offset + _) rest <;> rfl

/-- Behind a text only a text makes up a text. -/
theorem IsText.of_append (hx : IsText xs) (h : IsText (xs ++ ys)) : IsText ys := by
  obtain ⟨cs, rfl⟩ := hx
  obtain ⟨ds, hds⟩ := h
  have hread := decodeFrom_encodeChars 0 ds
  rw [hds, decodeFrom_encodeChars_append, map_eq_ok_iff] at hread
  obtain ⟨es, hes, -⟩ := hread
  exact ⟨es, encodeChars_of_decodeFrom hes⟩

/-- A byte of ASCII is a character of its own, so what stands before it in a text is a text. -/
theorem isText_of_append_cons {b : Byte} (hb : b.toNat < 0x80) (h : IsText (xs ++ b :: ys)) :
    IsText xs := by
  obtain ⟨cs, hcs⟩ := h
  induction cs generalizing xs with
  | nil => exact absurd hcs.symm (by simp [encodeChars_nil])
  | cons c rest ih =>
    rw [encodeChars_cons] at hcs
    rcases List.append_eq_append_iff.mp hcs with ⟨more, hxs, hmore⟩ | ⟨more, hc, hmore⟩
    · obtain ⟨ds, rfl⟩ := ih hmore
      exact ⟨c :: ds, by rw [encodeChars_cons, hxs]⟩
    · cases more with
      | nil =>
        rw [List.append_nil] at hc
        exact ⟨[c], by rw [encodeChars_singleton, hc]⟩
      | cons d more =>
        -- the byte is one of the character, which has no others then
        obtain ⟨rfl, -⟩ := List.cons.inj hmore
        have hnat : c.toNat = b.toNat := encodeChar_of_mem hb (hc ▸ by simp)
        have hone : (String.utf8EncodeChar c).length = 1 := by
          rw [String.length_utf8EncodeChar, Char.utf8Size_eq_one_iff]
          exact UInt32.le_iff_toNat_le.mpr (by simpa [hnat] using Nat.le_of_lt_succ hb)
        have hnil : xs = [] := by
          rw [hc, List.length_append, List.length_cons] at hone
          exact List.eq_nil_of_length_eq_zero (by omega)
        exact hnil ▸ isText_nil

/-! ### The longest text -/

/-- The longest text that bytes begin with has `n` bytes. -/
structure LongestText (bytes : List Byte) (n : Nat) : Prop where
  le_length : n ≤ bytes.length
  isText_take : IsText (bytes.take n)
  greatest : ∀ m ≤ bytes.length, IsText (bytes.take m) → m ≤ n

theorem LongestText.unique {m : Nat} (hm : LongestText bytes m) (hn : LongestText bytes n) :
    m = n :=
  Nat.le_antisymm (hn.greatest m hm.le_length hm.isText_take)
    (hm.greatest n hn.le_length hn.isText_take)

/-- A text in front makes the longest text longer. -/
theorem LongestText.append (hx : IsText xs) (h : LongestText ys n) :
    LongestText (xs ++ ys) (xs.length + n) where
  le_length := by
    have hle := h.le_length
    rw [List.length_append]
    omega
  isText_take := by
    rw [List.take_length_add_append]
    exact hx.append h.isText_take
  greatest m hm htext := by
    by_cases hle : m ≤ xs.length
    · omega
    · obtain ⟨k, rfl⟩ := Nat.exists_eq_add_of_le (Nat.le_of_not_le hle)
      rw [List.take_length_add_append] at htext
      rw [List.length_append] at hm
      have hk := h.greatest k (by omega) (hx.of_append htext)
      omega

/-- Bytes that begin with one of ASCII, or none. -/
def StartsAscii (bytes : List Byte) : Prop := ∀ b, bytes.head? = some b → b.toNat < 0x80

theorem StartsAscii.take (h : StartsAscii bytes) (k : Nat) : StartsAscii (bytes.take k) := by
  intro b hb
  cases k with
  | zero => cases hb
  | succ k =>
    rw [List.head?_take, if_neg (Nat.succ_ne_zero k)] at hb
    exact h b hb

theorem StartsAscii.isText_before (h : StartsAscii ys) (htext : IsText (xs ++ ys)) :
    IsText xs := by
  cases ys with
  | nil => rwa [List.append_nil] at htext
  | cons b rest => exact isText_of_append_cons (h b rfl) htext

/-- Bytes that are no text do not begin with a longer text if ASCII stands behind them. -/
theorem LongestText.append_ascii (h : LongestText xs n) (hno : ¬ IsText xs)
    (hy : StartsAscii ys) : LongestText (xs ++ ys) n where
  le_length := by
    have hle := h.le_length
    rw [List.length_append]
    omega
  isText_take := by
    rw [List.take_append_of_le_length h.le_length]
    exact h.isText_take
  greatest m hm htext := by
    by_cases hle : m ≤ xs.length
    · rw [List.take_append_of_le_length hle] at htext
      exact h.greatest m hle htext
    · obtain ⟨k, rfl⟩ := Nat.exists_eq_add_of_le (Nat.le_of_not_le hle)
      rw [List.take_length_add_append] at htext
      exact absurd ((hy.take k).isText_before htext) hno

/-! ### Where the decoder stops -/

/-- The valid part before a fault is a text, whose bytes are read from `offset` on. -/
def StopsBehindText (offset : Nat) (bytes : List Byte) (fault : Fault) : Prop :=
  ∃ cs rest, bytes = encodeChars cs ++ rest ∧
    fault.validUpTo = offset + (encodeChars cs).length

theorem stopsBehindText_nil {offset : Nat} {length : Option Nat} :
    StopsBehindText offset bytes ⟨offset, length⟩ := ⟨[], bytes, rfl, rfl⟩

theorem StopsBehindText.cons {offset : Nat} {rest : List Byte} {fault : Fault} {c : Char}
    {front : List Byte} (hc : String.utf8EncodeChar c = front)
    (h : StopsBehindText (offset + front.length) rest fault) :
    StopsBehindText offset (front ++ rest) fault := by
  obtain ⟨cs, more, rfl, hfault⟩ := h
  refine ⟨c :: cs, more, ?_, ?_⟩
  · rw [encodeChars_cons, hc, List.append_assoc]
  · rw [hfault, encodeChars_cons, hc, List.length_append, Nat.add_assoc]

theorem stopsBehindText_of_decodeFrom {offset : Nat} {fault : Fault}
    (h : decodeFrom offset bytes = .error fault) : StopsBehindText offset bytes fault := by
  fun_induction decodeFrom offset bytes with
  | case1 => cases h
  | case2 _ _ _ hb₀ ih => exact (ih (map_eq_error_iff.mp h)).cons (encodeChar_ofNat hb₀)
  | case5 _ _ _ hlow hhigh _ _ hb₁ ih =>
    exact (ih (map_eq_error_iff.mp h)).cons (encodeChar_charOfTwo hlow hhigh hb₁)
  | case10 _ _ _ _ hlow hhigh _ hb₁ _ _ hb₂ ih =>
    rw [Bool.not_eq_true, Bool.not_eq_false'] at hb₁
    exact (ih (map_eq_error_iff.mp h)).cons (encodeChar_charOfThree hlow hhigh hb₁ hb₂)
  | case17 _ _ _ _ _ hlow hhigh _ hb₁ _ hb₂ _ _ hb₃ ih =>
    rw [Bool.not_eq_true, Bool.not_eq_false'] at hb₁ hb₂
    exact (ih (map_eq_error_iff.mp h)).cons (encodeChar_charOfFour hlow hhigh hb₁ hb₂ hb₃)
  -- in the other branches the decoder stops where it stands
  | case3 | case4 | case6 | case7 | case8 | case9 | case11 | case12 | case13 | case14 | case15
  | case16 | case18 | case19 =>
    cases h
    exact stopsBehindText_nil

/-- The part that is valid before a fault is the longest text that the bytes begin with. -/
theorem longestText_of_decode {fault : Fault} (h : decode bytes = .error fault) :
    LongestText bytes fault.validUpTo := by
  have hread : decodeFrom 0 bytes = .error fault := map_eq_error_iff.mp h
  obtain ⟨cs, rest, rfl, hfault⟩ := stopsBehindText_of_decodeFrom hread
  rw [Nat.zero_add] at hfault
  rw [hfault]
  refine ⟨by simp, ⟨cs, List.take_left.symm⟩, fun m hm htext => ?_⟩
  -- a longer text would be read before the fault is met
  obtain ⟨ds, hds⟩ := htext
  rw [← List.take_append_drop m (encodeChars cs ++ rest), ← hds, decodeFrom_encodeChars_append,
    map_eq_error_iff] at hread
  obtain ⟨es, more, -, hlater⟩ := stopsBehindText_of_decodeFrom hread
  have hlength := congrArg List.length hds
  rw [List.length_take, Nat.min_eq_left hm] at hlength
  omega

end LineSieve.Text.Utf8
