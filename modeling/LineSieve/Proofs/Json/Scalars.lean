import Mathlib.Algebra.Order.Ring.Nat
import LineSieve.Json.Reader
import LineSieve.Json.Writer
import LineSieve.Proofs.Text.Utf8

/-!
# Scalars in documents

A scalar in an indented document has a comma or a line feed behind it, which ends its text. The
words and the whole numbers of 64 bits are read there as what they are.
-/

namespace LineSieve.Json

open Text.Utf8 (Byte encode encodeChars)

/-- What stands behind a value in an indented document. -/
def Follows (rest : List Byte) : Prop := ∃ b more, rest = b :: more ∧ (b = 0x2C ∨ b = 0x0A)

/-- A scalar is read where it was printed. -/
def Scalar.ReadsBack (s : Scalar) : Prop :=
  ∀ (fuel depth : Nat) (rest : List Byte), Follows rest →
    Reader.value (fuel + 1) depth (encode s.text ++ rest) = .ok (.scalar s, rest)

namespace Reader

theorem expect_append {α : Type} (value : α) (word rest : List Byte) :
    expect value word (word ++ rest) = .ok (value, rest) := by
  induction word with
  | nil => rfl
  | cons w more ih => rw [List.cons_append, expect, if_pos rfl, ih]

/-! ### Digits -/

/-- Bytes that are the digits of a number, without leading zeros. -/
structure Spells (bytes : List Byte) (n : Nat) : Prop where
  digits : ∀ b ∈ bytes, isDigit b = true
  natOf_eq : natOf bytes = n
  zero : n = 0 → bytes = [0x30]
  nonzero : n ≠ 0 → ∃ b rest, bytes = b :: rest ∧ b ≠ 0x30

theorem digit?_digitChar : ∀ n < 10, ∃ b, encodeChars [Nat.digitChar n] = [b] ∧
    digit? b = some n := by
  intro n hn
  refine ⟨UInt8.ofNat (Nat.digitChar n).toNat, ?_⟩
  revert n
  decide

theorem natOf_append_singleton (bytes : List Byte) (b : Byte) :
    natOf (bytes ++ [b]) = natOf bytes * 10 + (digit? b).getD 0 := by
  rw [natOf, List.foldl_append]
  rfl

theorem natOf_le_append (bytes more : List Byte) : natOf bytes ≤ natOf (bytes ++ more) := by
  induction more generalizing bytes with
  | nil => rw [List.append_nil]
  | cons b more ih =>
    have hone := natOf_append_singleton bytes b
    have hrest := ih (bytes ++ [b])
    rw [List.append_cons]
    omega

/-- Digits whose number stays below 2^64 are all taken. -/
theorem takeDigits_of_lt {bytes more : List Byte} (h : natOf (bytes ++ more) < Nat.pow 2 64) :
    takeDigits (natOf bytes) more = (natOf (bytes ++ more), []) := by
  induction more generalizing bytes with
  | nil => rw [takeDigits, List.append_nil]
  | cons b more ih =>
    rw [List.append_cons] at h ⊢
    have hnext := (natOf_le_append (bytes ++ [b]) more).trans_lt h
    rw [takeDigits, ← natOf_append_singleton, if_pos hnext]
    exact ih h

theorem takeDigits_zero_of_lt {bytes : List Byte} (h : natOf bytes < Nat.pow 2 64) :
    takeDigits 0 bytes = (natOf bytes, []) :=
  @takeDigits_of_lt [] bytes h

theorem spells_toDigits (n : Nat) : Spells (encodeChars (Nat.toDigits 10 n)) n := by
  induction n using Nat.strong_induction_on with
  | _ n ih =>
    obtain ⟨b, hb, hdigit⟩ := digit?_digitChar (n % 10) (Nat.mod_lt n (by decide))
    have hisDigit : isDigit b = true := by rw [isDigit, hdigit, Option.isSome_some]
    by_cases hlt : n < 10
    · rw [Nat.mod_eq_of_lt hlt] at hb hdigit
      rw [Nat.toDigits_of_lt_base hlt, hb]
      refine ⟨fun c hc => ?_, ?_, ?_, ?_⟩
      · rwa [List.mem_singleton.mp hc]
      · have hone := natOf_append_singleton [] b
        have hnone : natOf [] = 0 := rfl
        rwa [hdigit, List.nil_append, hnone, Nat.zero_mul, Nat.zero_add] at hone
      · rintro rfl
        exact hb.symm
      · intro hne
        refine ⟨b, [], rfl, ?_⟩
        rintro rfl
        exact hne (Option.some.inj hdigit).symm
    · have hbase : 10 ≤ n := Nat.le_of_not_lt hlt
      have htens := ih (n / 10) (by omega)
      obtain ⟨first, more, hfirst, hne⟩ := htens.nonzero (by omega)
      rw [Nat.toDigits_of_base_le (by decide) hbase, Text.Utf8.encodeChars_append, hb]
      refine ⟨?_, ?_, ?_, ?_⟩
      · intro c hc
        rcases List.mem_append.mp hc with hc | hc
        · exact htens.digits c hc
        · rwa [List.mem_singleton.mp hc]
      · rw [natOf_append_singleton, htens.natOf_eq, hdigit, Option.getD_some]
        omega
      · omega
      · intro _
        exact ⟨first, more ++ [b], by rw [hfirst, List.cons_append], hne⟩

theorem range_of_isDigit {b : Byte} (h : isDigit b = true) : 0x30 ≤ b.toNat ∧ b.toNat ≤ 0x39 := by
  unfold isDigit digit? at h
  split at h
  · next hrange => exact ⟨UInt8.le_iff_toNat_le.mp hrange.1, UInt8.le_iff_toNat_le.mp hrange.2⟩
  · cases h

/-! ### Numbers -/

variable {bytes rest : List Byte} {n : Nat} {m : Number}

/-- What ends a row of digits. -/
def Stops (rest : List Byte) : Prop := ∀ b ∈ rest.head?, isDigit b = false

/-- What a number ends at: the end of the bytes, or what stands behind a value. -/
def Ends (rest : List Byte) : Prop := rest = [] ∨ Follows rest

theorem Ends.stops (h : Ends rest) : Stops rest := by
  rcases h with rfl | ⟨b, more, rfl, rfl | rfl⟩
  · exact fun b hb => nomatch hb
  · exact fun b hb => Option.some.inj hb ▸ rfl
  · exact fun b hb => Option.some.inj hb ▸ rfl

/-- Neither a point nor an exponent is there. -/
theorem Ends.plain (h : Ends rest) :
    decimals rest = .ok ([], rest) ∧ exponent rest = .ok (none, rest) := by
  rcases h with rfl | ⟨b, more, rfl, rfl | rfl⟩
  · exact ⟨rfl, rfl⟩
  · exact ⟨rfl, rfl⟩
  · exact ⟨rfl, rfl⟩

theorem digits_append (hne : bytes ≠ []) (hdigits : ∀ b ∈ bytes, isDigit b = true)
    (hrest : Stops rest) : digits (bytes ++ rest) = .ok (bytes, rest) := by
  have hends : rest.takeWhile isDigit = [] ∧ rest.dropWhile isDigit = rest := by
    cases rest with
    | nil => exact ⟨rfl, rfl⟩
    | cons b more =>
      have hnot : ¬isDigit b = true := by rw [hrest b rfl]; decide
      exact ⟨List.takeWhile_cons_of_neg hnot, List.dropWhile_cons_of_neg hnot⟩
  have htake : (bytes ++ rest).takeWhile isDigit = bytes := by
    rw [List.takeWhile_append_of_pos hdigits, hends.1, List.append_nil]
  have hdrop : (bytes ++ rest).dropWhile isDigit = rest := by
    rw [List.dropWhile_append_of_pos hdigits, hends.2]
  cases bytes with
  | nil => exact absurd rfl hne
  | cons b more =>
    unfold digits
    rw [htake, hdrop]

theorem Spells.ne_nil (h : Spells bytes n) : bytes ≠ [] := by
  by_cases hn : n = 0
  · rw [h.zero hn]
    exact List.cons_ne_nil _ _
  · obtain ⟨b, rest, rfl, -⟩ := h.nonzero hn
    exact List.cons_ne_nil _ _

theorem Spells.no_zeros (h : Spells bytes n) :
    ¬(bytes.length ≠ 1 ∧ bytes.head? = some 0x30) := by
  rintro ⟨hlength, hhead⟩
  by_cases hn : n = 0
  · rw [h.zero hn] at hlength
    exact hlength rfl
  · obtain ⟨b, more, rfl, hb⟩ := h.nonzero hn
    exact hb (Option.some.inj hhead)

theorem wholeNumber?_of_spells (negative : Bool) (h : Spells bytes n) (hlt : n < Nat.pow 2 64)
    (hnegative : negative = true → 0 < n ∧ n ≤ Nat.pow 2 63) :
    wholeNumber? negative bytes = some (.integer (if negative then -(n : Int) else n)) := by
  have htake := takeDigits_zero_of_lt (h.natOf_eq.symm ▸ hlt)
  rw [h.natOf_eq] at htake
  rw [wholeNumber?, htake]
  exact if_pos ⟨rfl, hnegative⟩

theorem number_of_spells (h : Spells bytes n) {negative : Bool}
    (hm : wholeNumber? negative bytes = some m) (hrest : Ends rest) :
    number negative (bytes ++ rest) = .ok (.scalar (.number m), rest) := by
  rw [number, digits_append h.ne_nil h.digits hrest.stops]
  simp only [bind, Except.bind, if_neg h.no_zeros, hrest.plain, numberOf?, hm]

theorem ne_of_isDigit {b c : Byte} (h : isDigit b = true)
    (hc : c.toNat < 0x30 ∨ 0x39 < c.toNat) : b ≠ c := by
  rintro rfl
  have hrange := range_of_isDigit h
  omega

theorem skip_of_isBlank_eq_false {b : Byte} (h : isBlank b = false) (more : List Byte) :
    skip (b :: more) = b :: more :=
  List.dropWhile_cons_of_neg (by rw [h]; decide)

theorem value_of_digit {b : Byte} (h : isDigit b = true) (fuel depth : Nat) (more : List Byte) :
    value (fuel + 1) depth (b :: more) = number false (b :: more) := by
  have hblank : isBlank b = false := by
    simp only [isBlank, Bool.or_eq_false_iff, beq_eq_false_iff_ne]
    exact ⟨⟨⟨ne_of_isDigit h (by decide), ne_of_isDigit h (by decide)⟩,
      ne_of_isDigit h (by decide)⟩, ne_of_isDigit h (by decide)⟩
  rw [value, skip_of_isBlank_eq_false hblank]
  dsimp only
  rw [if_neg (ne_of_isDigit h (by decide)), if_neg (ne_of_isDigit h (by decide)),
    if_neg (ne_of_isDigit h (by decide)), if_neg (ne_of_isDigit h (by decide)), if_pos h]

theorem value_of_digits (hne : bytes ≠ []) (h : ∀ b ∈ bytes, isDigit b = true) (fuel depth : Nat)
    (rest : List Byte) :
    value (fuel + 1) depth (bytes ++ rest) = number false (bytes ++ rest) := by
  obtain ⟨b, more, rfl⟩ := List.exists_cons_of_ne_nil hne
  exact value_of_digit (h b List.mem_cons_self) fuel depth (more ++ rest)

theorem value_of_minus (fuel depth : Nat) (bytes : List Byte) :
    value (fuel + 1) depth (0x2D :: bytes) = number true bytes := by
  rw [value, skip_of_isBlank_eq_false rfl]
  rfl

end Reader

/-! ### Scalars -/

theorem readsBack_null : Scalar.null.ReadsBack := by
  intro fuel depth rest _
  have htext : encode Scalar.null.text = 0x6E :: "ull".toUTF8.toList := by decide +kernel
  rw [htext, List.cons_append, Reader.value, Reader.skip_of_isBlank_eq_false rfl]
  exact Reader.expect_append ..

theorem readsBack_bool (b : Bool) : (Scalar.bool b).ReadsBack := by
  intro fuel depth rest _
  cases b with
  | false =>
    have htext : encode (Scalar.bool false).text = 0x66 :: "alse".toUTF8.toList := by
      decide +kernel
    rw [htext, List.cons_append, Reader.value, Reader.skip_of_isBlank_eq_false rfl]
    exact Reader.expect_append ..
  | true =>
    have htext : encode (Scalar.bool true).text = 0x74 :: "rue".toUTF8.toList := by
      decide +kernel
    rw [htext, List.cons_append, Reader.value, Reader.skip_of_isBlank_eq_false rfl]
    exact Reader.expect_append ..

/-- A whole number that fits 64 bits, with a sign or without. -/
theorem readsBack_integer {i : Int} (hlow : -(2 ^ 63) ≤ i) (hhigh : i < 2 ^ 64) :
    (Scalar.number (.integer i)).ReadsBack := by
  intro fuel depth rest hrest
  cases i with
  | ofNat n =>
    have htext : encode (Scalar.number (.integer (.ofNat n))).text =
        encodeChars (Nat.toDigits 10 n) := by
      rw [encode, ← Nat.toList_repr]
      rfl
    have hlt : n < Nat.pow 2 64 := by
      have hpow : Nat.pow 2 64 = 18446744073709551616 := by decide
      rw [hpow]
      simp only [Int.ofNat_eq_natCast] at hhigh
      omega
    have hspells := Reader.spells_toDigits n
    have hm := Reader.wholeNumber?_of_spells false hspells hlt (absurd · Bool.false_ne_true)
    rw [htext, Reader.value_of_digits hspells.ne_nil hspells.digits]
    exact Reader.number_of_spells hspells hm (.inr hrest)
  | negSucc n =>
    have htext : encode (Scalar.number (.integer (.negSucc n))).text =
        0x2D :: encodeChars (Nat.toDigits 10 (n + 1)) := by
      have hchars : (Scalar.number (.integer (.negSucc n))).text.toList =
          '-' :: (n + 1).repr.toList := String.toList_append
      rw [encode, hchars, Nat.toList_repr]
      rfl
    have hrange : 0 < n + 1 ∧ n + 1 ≤ Nat.pow 2 63 := by
      have hpow : Nat.pow 2 63 = 9223372036854775808 := by decide
      rw [hpow]
      omega
    have hspells := Reader.spells_toDigits (n + 1)
    have hlt : n + 1 < Nat.pow 2 64 := hrange.2.trans_lt (by decide)
    have hm := Reader.wholeNumber?_of_spells true hspells hlt fun _ => hrange
    rw [htext, List.cons_append, Reader.value_of_minus]
    exact Reader.number_of_spells hspells hm (.inr hrest)

end LineSieve.Json
