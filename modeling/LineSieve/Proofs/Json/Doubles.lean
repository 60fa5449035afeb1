import LineSieve.Proofs.Decimal.Reading
import LineSieve.Proofs.Decimal.Shortest
import LineSieve.Proofs.Json.Ranges
import LineSieve.Proofs.Json.Scalars

/-!
# Doubles in documents

The text of a double has a point or an exponent, so it is read as a decimal number. Since such a
number is rounded twice, it need not be the double again. It is the same number in each document,
so a double whose text alone is read as the double survives everywhere. Those do that are written
with few digits.
-/

namespace LineSieve.Json

open Text.Utf8 (Byte encode encodeChars)
open Decimal (Double)

namespace Reader

/-! ### Parts of a number -/

/-- The digits before the point, those behind it, and the exponent of a number. -/
structure Parts where
  whole : List Byte
  fraction : List Byte
  power : Option ℤ

def powerBytes : Option ℤ → List Byte
  | none => []
  | some e => 0x65 :: (if e < 0 then 0x2D else 0x2B) :: encodeChars (Nat.toDigits 10 e.natAbs)

namespace Parts

def bytes (p : Parts) : List Byte :=
  p.whole ++ ((if p.fraction = [] then [] else 0x2E :: p.fraction) ++ powerBytes p.power)

def digits (p : Parts) : ℕ := natOf (p.whole ++ p.fraction)

def exponent (p : Parts) : ℤ := p.power.getD 0 - p.fraction.length

/-- The double that they are read as. -/
def double? (p : Parts) (negative : Bool) : Option Double :=
  Reader.double? negative p.whole p.fraction (p.power.getD 0)

/-- Parts of a number that is not whole, with no zero too many before the point. -/
structure Readable (p : Parts) : Prop where
  isDigit : ∀ b ∈ p.whole ++ p.fraction, isDigit b = true
  nonempty : p.whole ≠ []
  no_zeros : ¬(p.whole.length ≠ 1 ∧ p.whole.head? = some 0x30)
  not_whole : p.fraction ≠ [] ∨ p.power ≠ none

end Parts

variable {p : Parts} {rest : List Byte} {fraction : List Byte} {power : Option ℤ}

theorem stops_powerBytes (hrest : Ends rest) : Stops (powerBytes power ++ rest) := by
  cases power with
  | none => exact hrest.stops
  | some e => exact fun b hb => Option.some.inj hb ▸ rfl

theorem exponent_powerBytes (hrest : Ends rest) :
    exponent (powerBytes power ++ rest) = .ok (power, rest) := by
  cases power with
  | none => exact hrest.plain.2
  | some e =>
    have hspells := spells_toDigits e.natAbs
    have hdigits := digits_append hspells.ne_nil hspells.digits hrest.stops
    by_cases he : e < 0
    · have habs : -(e.natAbs : ℤ) = e := by omega
      simp only [powerBytes, if_pos he, List.cons_append, exponent, hdigits, hspells.natOf_eq,
        habs, true_or, if_true]
    · have habs : (e.natAbs : ℤ) = e := by omega
      simp only [powerBytes, if_neg he, List.cons_append, exponent, hdigits, hspells.natOf_eq,
        habs, true_or, if_true]
      rfl

theorem decimals_point (power : Option ℤ) (hdigits : ∀ b ∈ fraction, isDigit b = true)
    (hrest : Ends rest) :
    decimals ((if fraction = [] then [] else 0x2E :: fraction) ++ (powerBytes power ++ rest)) =
      .ok (fraction, powerBytes power ++ rest) := by
  by_cases hempty : fraction = []
  · rw [if_pos hempty, hempty, List.nil_append]
    cases power with
    | none => exact hrest.plain.1
    | some e => rfl
  · rw [if_neg hempty]
    exact digits_append hempty hdigits (stops_powerBytes hrest)

theorem Parts.Readable.numberOf?_eq (h : p.Readable) (negative : Bool) :
    numberOf? negative p.whole p.fraction p.power = (p.double? negative).map .double := by
  unfold numberOf?
  split
  · next hfraction hpower => exact (h.not_whole.elim (· hfraction) (· hpower)).elim
  · rfl

/-- A number is read from its parts, whatever it ends at. -/
theorem number_of_parts (h : p.Readable) (negative : Bool) (hrest : Ends rest) :
    number negative (p.bytes ++ rest) = (p.double? negative).elim (.error .malformed)
      fun x => .ok (.scalar (.number (.double x)), rest) := by
  have hwhole : ∀ b ∈ p.whole, isDigit b = true := fun b hb =>
    h.isDigit b (List.mem_append_left _ hb)
  have hfraction : ∀ b ∈ p.fraction, isDigit b = true := fun b hb =>
    h.isDigit b (List.mem_append_right _ hb)
  have hdecimals := decimals_point p.power hfraction hrest
  have hstops : Stops ((if p.fraction = [] then [] else 0x2E :: p.fraction) ++
      (powerBytes p.power ++ rest)) := by
    split_ifs
    · exact stops_powerBytes hrest
    · exact fun b hb => Option.some.inj hb ▸ rfl
  rw [Parts.bytes, List.append_assoc, List.append_assoc, number,
    digits_append h.nonempty hwhole hstops]
  simp only [bind, Except.bind, if_neg h.no_zeros, hdecimals, exponent_powerBytes hrest,
    h.numberOf?_eq]
  cases p.double? negative with
  | none => rfl
  | some x => rfl

/-- If there are not too many digits, all of them are taken. -/
theorem Parts.double?_of_lt (h : p.digits < Nat.pow 2 64) (negative : Bool) :
    p.double? negative = Double.ofDecimal? negative p.digits p.exponent := by
  have hwhole := takeDigits_zero_of_lt ((natOf_le_append p.whole p.fraction).trans_lt h)
  have hfraction := takeDigits_of_lt h
  rw [Parts.double?, Reader.double?, hwhole]
  dsimp only
  rw [hfraction]
  simp only [List.length_nil, Nat.cast_zero, add_zero, sub_zero]
  rfl

/-! ### Rows of digits -/

theorem encodeChars_of_isDigit {cs : List Char} (h : ∀ c ∈ cs, c.isDigit = true) :
    encodeChars cs = cs.map fun c => c.val.toUInt8 := by
  induction cs with
  | nil => rfl
  | cons c rest ih =>
    rw [List.forall_mem_cons] at h
    obtain ⟨hc, hrest⟩ := h
    have hsize : c.utf8Size = 1 := by
      simp only [Char.isDigit, Bool.and_eq_true, decide_eq_true_eq] at hc
      exact Char.utf8Size_eq_one_iff.mpr (UInt32.le_trans hc.2 (by decide))
    rw [Text.Utf8.encodeChars_cons, ih hrest, String.utf8EncodeChar_eq_singleton hsize]
    rfl

theorem isDigit_toUInt8 {c : Char} (h : c.isDigit = true) : isDigit c.val.toUInt8 = true := by
  simp only [Char.isDigit, Bool.and_eq_true, decide_eq_true_eq, ge_iff_le,
    UInt32.le_iff_toNat_le] at h
  have hlow : '0'.val.toNat = 48 := rfl
  have hhigh : '9'.val.toNat = 57 := rfl
  have hrange : 0x30 ≤ c.val.toUInt8 ∧ c.val.toUInt8 ≤ 0x39 := by
    rw [UInt8.le_iff_toNat_le, UInt8.le_iff_toNat_le, UInt32.toNat_toUInt8]
    have hthirty : (0x30 : Byte).toNat = 48 := rfl
    have hnine : (0x39 : Byte).toNat = 57 := rfl
    omega
  rw [isDigit, digit?, if_pos hrange]
  rfl

theorem natOf_append_zeros (bytes : List Byte) (k : ℕ) :
    natOf (bytes ++ List.replicate k 0x30) = natOf bytes * 10 ^ k := by
  induction k with
  | zero => simp
  | succ k ih =>
    rw [List.replicate_succ', ← List.append_assoc, natOf_append_singleton, ih, pow_succ, mul_assoc]
    rfl

theorem natOf_zeros_append (k : ℕ) (bytes : List Byte) :
    natOf (List.replicate k 0x30 ++ bytes) = natOf bytes := by
  induction k with
  | zero => rfl
  | succ k ih =>
    rw [List.replicate_succ, List.cons_append, ← ih]
    rfl

theorem encodeChars_zeros (k : ℕ) : encodeChars (List.replicate k '0') = List.replicate k 0x30 := by
  rw [encodeChars_of_isDigit fun c hc => by rw [List.eq_of_mem_replicate hc]; rfl,
    List.map_replicate]
  rfl

/-! ### The text of a double -/

/-- The parts of a text tell a whole number and the power of ten that it counts. -/
def Tells (cs : List Char) (n : ℕ) (e : ℤ) : Prop :=
  ∃ p : Parts, p.Readable ∧ encodeChars cs = p.bytes ∧ p.digits = n ∧ p.exponent = e

def powerChars : Option ℤ → List Char
  | none => []
  | some e => 'e' :: (if e < 0 then '-' else '+') :: Double.digitsOf e.natAbs

theorem encodeChars_powerChars (power : Option ℤ) :
    encodeChars (powerChars power) = powerBytes power := by
  cases power with
  | none => rfl
  | some e =>
    rw [powerChars, powerBytes, Text.Utf8.encodeChars_cons, Text.Utf8.encodeChars_cons]
    split_ifs
    · rfl
    · rfl

/-- Digits with a point behind some of them, or an exponent, or both. -/
theorem tells_of_append {w f : List Char} (power : Option ℤ)
    (hdigits : ∀ c ∈ w ++ f, c.isDigit = true) (hw : w ≠ [])
    (hzeros : ¬((encodeChars w).length ≠ 1 ∧ (encodeChars w).head? = some 0x30))
    (hnot : f ≠ [] ∨ power ≠ none) :
    Tells (w ++ ((if f = [] then [] else '.' :: f) ++ powerChars power))
      (natOf (encodeChars (w ++ f))) (power.getD 0 - f.length) := by
  have hf := encodeChars_of_isDigit fun c hc => hdigits c (List.mem_append_right w hc)
  have hempty : encodeChars f = [] ↔ f = [] := Text.Utf8.encodeChars_eq_nil_iff
  refine ⟨⟨encodeChars w, encodeChars f, power⟩, ⟨?_, ?_, hzeros, ?_⟩, ?_, ?_, ?_⟩
  · rw [← Text.Utf8.encodeChars_append, encodeChars_of_isDigit hdigits]
    intro b hb
    obtain ⟨c, hc, rfl⟩ := List.mem_map.mp hb
    exact isDigit_toUInt8 (hdigits c hc)
  · exact mt Text.Utf8.encodeChars_eq_nil_iff.mp hw
  · exact hnot.imp_left (mt hempty.mp)
  · rw [Parts.bytes, Text.Utf8.encodeChars_append, Text.Utf8.encodeChars_append,
      encodeChars_powerChars]
    by_cases h : f = []
    · rw [if_pos h, if_pos (hempty.mpr h)]
      rfl
    · rw [if_neg h, if_neg (mt hempty.mp h)]
      rfl
  · rw [Parts.digits, ← Text.Utf8.encodeChars_append]
  · rw [Parts.exponent]
    dsimp only
    rw [hf, List.length_map]

variable {n : ℕ} {place : ℤ}

theorem isDigit_of_mem_digitsOf {c : Char} (h : c ∈ Double.digitsOf n) : c.isDigit = true :=
  Nat.isDigit_of_mem_toDigits (by decide) (by decide) h

/-- A point or an exponent, or both, and the digits of a number around the point. -/
theorem tells_with_point (hn : n ≠ 0) {w f : List Char} (hwf : w ++ f = Double.digitsOf n)
    (hw : w ≠ []) (power : Option ℤ) (hnot : f ≠ [] ∨ power ≠ none) :
    Tells (w ++ ((if f = [] then [] else '.' :: f) ++ powerChars power))
      n (power.getD 0 - f.length) := by
  have hspells := spells_toDigits n
  have hnatOf : natOf (encodeChars (w ++ f)) = n := by rw [hwf]; exact hspells.natOf_eq
  rw [← hnatOf]
  refine tells_of_append power (fun c hc => isDigit_of_mem_digitsOf (hwf ▸ hc)) hw ?_ hnot
  rintro ⟨-, hhead⟩
  obtain ⟨b, more, hb, hne⟩ := hspells.nonzero hn
  have hsplit : encodeChars w ++ encodeChars f = b :: more := by
    rw [← Text.Utf8.encodeChars_append, hwf]
    exact hb
  have hsame : (encodeChars w).head? = some b := by
    rw [← List.head?_append_of_ne_nil _ (mt Text.Utf8.encodeChars_eq_nil_iff.mp hw), hsplit]
    rfl
  exact hne (Option.some.inj (hsame.symm.trans hhead))

theorem isDigit_of_mem_zeros {c : Char} {k : ℕ} (h : c ∈ List.replicate k '0') :
    c.isDigit = true := by
  rw [List.eq_of_mem_replicate h]
  rfl

theorem tells_with_zeros (hn : n ≠ 0) (k : ℕ) :
    Tells (Double.digitsOf n ++ List.replicate k '0' ++ ['.', '0']) (n * 10 ^ (k + 1)) (-1) := by
  have hspells := spells_toDigits n
  have hne : Double.digitsOf n ≠ [] := Nat.toDigits_ne_nil
  have hdigits : ∀ c ∈ Double.digitsOf n ++ List.replicate k '0' ++ ['0'], c.isDigit = true := by
    intro c hc
    rw [List.append_assoc, ← List.replicate_succ'] at hc
    exact (List.mem_append.mp hc).elim isDigit_of_mem_digitsOf isDigit_of_mem_zeros
  have hzeros : ¬((encodeChars (Double.digitsOf n ++ List.replicate k '0')).length ≠ 1 ∧
      (encodeChars (Double.digitsOf n ++ List.replicate k '0')).head? = some 0x30) := by
    rintro ⟨-, hhead⟩
    obtain ⟨b, more, hb, hfirst⟩ := hspells.nonzero hn
    rw [Text.Utf8.encodeChars_append, Double.digitsOf, hb] at hhead
    exact hfirst (Option.some.inj hhead)
  have hvalue : natOf (encodeChars (Double.digitsOf n ++ List.replicate k '0' ++ ['0'])) =
      n * 10 ^ (k + 1) := by
    rw [List.append_assoc, ← List.replicate_succ', Text.Utf8.encodeChars_append, encodeChars_zeros,
      natOf_append_zeros, Double.digitsOf, hspells.natOf_eq]
  have htells := tells_of_append none hdigits (List.append_ne_nil_of_left_ne_nil hne _)
    hzeros (.inl (List.cons_ne_nil '0' []))
  rw [hvalue] at htells
  exact htells

theorem tells_behind_zeros (n k : ℕ) :
    Tells ('0' :: '.' :: (List.replicate k '0' ++ Double.digitsOf n))
      n (-(k + (Double.digitsOf n).length)) := by
  have hspells := spells_toDigits n
  have hne : List.replicate k '0' ++ Double.digitsOf n ≠ [] :=
    List.append_ne_nil_of_right_ne_nil _ Nat.toDigits_ne_nil
  have hdigits : ∀ c ∈ ['0'] ++ (List.replicate k '0' ++ Double.digitsOf n),
      c.isDigit = true := by
    intro c hc
    rw [← List.append_assoc, List.singleton_append, ← List.replicate_succ] at hc
    exact (List.mem_append.mp hc).elim isDigit_of_mem_zeros isDigit_of_mem_digitsOf
  have hzeros : ¬((encodeChars ['0']).length ≠ 1 ∧ (encodeChars ['0']).head? = some 0x30) := by
    rintro ⟨hlength, -⟩
    exact hlength rfl
  have hvalue : natOf (encodeChars (['0'] ++ (List.replicate k '0' ++ Double.digitsOf n))) = n := by
    rw [← List.append_assoc, List.singleton_append, ← List.replicate_succ,
      Text.Utf8.encodeChars_append, encodeChars_zeros, natOf_zeros_append, Double.digitsOf,
      hspells.natOf_eq]
  have htells := tells_of_append none hdigits (List.cons_ne_nil _ _) hzeros (.inl hne)
  have hpower : (none : Option ℤ).getD 0 -
      ((List.replicate k '0' ++ Double.digitsOf n).length : ℤ) =
        -(k + (Double.digitsOf n).length) := by
    rw [Option.getD_none, List.length_append, List.length_replicate, zero_sub, Nat.cast_add]
  rw [hvalue, hpower, if_neg hne] at htells
  have hchars : '0' :: '.' :: (List.replicate k '0' ++ Double.digitsOf n) =
      ['0'] ++ ('.' :: (List.replicate k '0' ++ Double.digitsOf n) ++ powerChars none) := by
    rw [powerChars, List.append_nil]
    rfl
  rw [hchars]
  exact htells

theorem tells_around_point (hn : n ≠ 0) {k : ℕ} (hpos : 0 < k)
    (hless : k < (Double.digitsOf n).length) :
    Tells ((Double.digitsOf n).take k ++ '.' :: (Double.digitsOf n).drop k)
      n (k - (Double.digitsOf n).length) := by
  have htake : (Double.digitsOf n).take k ≠ [] := by
    rw [ne_eq, List.take_eq_nil_iff, ← List.length_eq_zero_iff]
    omega
  have hdrop : (Double.digitsOf n).drop k ≠ [] :=
    mt List.drop_eq_nil_iff.mp (Nat.not_le_of_lt hless)
  have hpower : (none : Option ℤ).getD 0 - (((Double.digitsOf n).drop k).length : ℤ) =
      k - (Double.digitsOf n).length := by
    rw [Option.getD_none, List.length_drop, Nat.cast_sub hless.le]
    omega
  have htells := tells_with_point hn (List.take_append_drop k _) htake none (.inl hdrop)
  rw [hpower, if_neg hdrop, powerChars, List.append_nil] at htells
  exact htells

theorem tells_with_exponent (hn : n ≠ 0) {first : Char} {more : List Char}
    (hdigits : Double.digitsOf n = first :: more) (e : ℤ) :
    Tells ((first :: if more.isEmpty then [] else '.' :: more) ++
      'e' :: (if e < 0 then '-' else '+') :: Double.digitsOf e.natAbs)
      n (e - more.length) := by
  have hsplit : [first] ++ more = Double.digitsOf n := hdigits.symm
  have htells := tells_with_point hn hsplit (List.cons_ne_nil _ _) (some e)
    (.inr (Option.some_ne_none _))
  cases more with
  | nil => exact htells
  | cons _ _ => exact htells

/-- The whole number and the power of ten that the text of a double is written with. A number
without a part behind the point has a zero there. -/
def written (x : Double) : ℕ × ℤ :=
  let (n, place) := x.shortest
  if 0 ≤ place ∧ ((Double.digitsOf n).length : ℤ) + place ≤ 16 then
    (n * 10 ^ (place.toNat + 1), -1)
  else (n, place)

theorem written_value (x : Double) :
    ((written x).1 : ℚ) * 10 ^ (written x).2 = x.shortest.1 * 10 ^ x.shortest.2 := by
  unfold written
  generalize x.shortest = s
  obtain ⟨n, place⟩ := s
  dsimp only
  split_ifs with hplain
  · obtain ⟨k, rfl⟩ := Int.eq_ofNat_of_zero_le hplain.1
    rw [Int.toNat_natCast, zpow_neg_one, zpow_natCast, pow_succ]
    push_cast
    ring
  · rfl

theorem tells_of_mantissa_ne_zero {x : Double} (hzero : x.mantissa ≠ 0) (hn : x.shortest.1 ≠ 0) :
    Tells x.magnitudeText (written x).1 (written x).2 := by
  unfold Double.magnitudeText written
  rw [if_neg hzero]
  generalize x.shortest = s at *
  obtain ⟨n, place⟩ := s
  dsimp only at hn ⊢
  have hlength : 0 < (Double.digitsOf n).length := Nat.length_toDigits_pos
  by_cases hplain : 0 ≤ place ∧ ((Double.digitsOf n).length : ℤ) + place ≤ 16
  · obtain ⟨k, rfl⟩ := Int.eq_ofNat_of_zero_le hplain.1
    rw [if_pos hplain, if_pos hplain]
    exact tells_with_zeros hn k
  rw [if_neg hplain, if_neg hplain]
  by_cases hpoint : 0 < ((Double.digitsOf n).length : ℤ) + place ∧
      ((Double.digitsOf n).length : ℤ) + place ≤ 16
  · obtain ⟨k, hk⟩ := Int.eq_ofNat_of_zero_le hpoint.1.le
    have hplace : (k : ℤ) - (Double.digitsOf n).length = place := by omega
    rw [if_pos hpoint, hk, ← hplace]
    exact tells_around_point hn (by omega) (by omega)
  rw [if_neg hpoint]
  by_cases hsmall : -5 < ((Double.digitsOf n).length : ℤ) + place ∧
      ((Double.digitsOf n).length : ℤ) + place ≤ 0
  · obtain ⟨k, hk⟩ := Int.eq_ofNat_of_zero_le (neg_nonneg.mpr hsmall.2)
    have hplace : (-(k + (Double.digitsOf n).length) : ℤ) = place := by omega
    rw [if_pos hsmall, hk, ← hplace]
    exact tells_behind_zeros n k
  rw [if_neg hsmall]
  cases hdigits : Double.digitsOf n with
  | nil =>
    rw [hdigits] at hlength
    exact absurd hlength (Nat.lt_irrefl 0)
  | cons first more =>
    have hplace : ((first :: more).length + place - 1 : ℤ) - more.length = place := by
      rw [List.length_cons]
      push_cast
      omega
    have htells := tells_with_exponent hn hdigits ((first :: more).length + place - 1)
    rw [hplace] at htells
    exact htells

/-- The text of a double tells what it is written with. -/
theorem tells_magnitudeText {x : Double} (hx : x.Canonical) :
    Tells x.magnitudeText (written x).1 (written x).2 := by
  by_cases hzero : x.mantissa = 0
  · have hshortest : x.shortest = (0, 0) := by rw [Double.shortest, if_pos hzero]
    have htext : x.magnitudeText = '0' :: '.' :: (List.replicate 0 '0' ++ Double.digitsOf 0) := by
      rw [Double.magnitudeText, if_pos hzero]
      rfl
    rw [htext, written, hshortest]
    exact tells_behind_zeros 0 0
  · refine tells_of_mantissa_ne_zero hzero fun hn => ?_
    have hpos := (Double.covers_shortest hx hzero).pos hzero
    rw [hn, Nat.cast_zero, zero_mul] at hpos
    exact lt_irrefl 0 hpos

/-! ### Doubles that are read -/

/-- A double is read from the parts of its text, whatever it ends at. -/
theorem value_of_parts {x : Double} (h : p.Readable)
    (hbytes : encodeChars x.magnitudeText = p.bytes) (fuel depth : ℕ) (hrest : Ends rest) :
    value (fuel + 1) depth (encode (Number.double x).text ++ rest) =
      (p.double? x.negative).elim (.error .malformed)
        fun y => .ok (.scalar (.number (.double y)), rest) := by
  have htext : encode (Number.double x).text =
      if x.negative then 0x2D :: p.bytes else p.bytes := by
    rw [encode, Number.text, Double.text, String.toList_ofList]
    split_ifs
    · rw [Text.Utf8.encodeChars_cons, hbytes]
      rfl
    · exact hbytes
  rw [← number_of_parts h x.negative hrest, htext]
  split_ifs with hnegative
  · rw [List.cons_append, value_of_minus, hnegative]
  · rw [Bool.not_eq_true] at hnegative
    rw [hnegative, Parts.bytes, List.append_assoc]
    exact value_of_digits h.nonempty (fun b hb => h.isDigit b (List.mem_append_left _ hb))
      fuel depth _

end Reader

/-- The document that is a double alone is read back from its text. -/
def Survives (x : Double) : Prop :=
  Doc.ofString (Number.double x).text = .ok (.scalar (.number (.double x)))

theorem Survives.canonical {x : Double} (h : Survives x) : x.Canonical := by
  cases Doc.fits_of_ofBytes h with
  | scalar hfits => exact hfits _ rfl

theorem survives_iff_of_parts {x : Double} {p : Reader.Parts} (h : p.Readable)
    (hbytes : encodeChars x.magnitudeText = p.bytes) :
    Survives x ↔ p.double? x.negative = some x := by
  have hvalue := Reader.value_of_parts h hbytes
    (2 * (encode (Number.double x).text).length + 1) Reader.maxDepth (.inl rfl)
  rw [List.append_nil] at hvalue
  rw [Survives, Doc.ofString, Doc.ofBytes, hvalue]
  cases p.double? x.negative with
  | none => simp
  | some y => simp [Reader.skip]

/-- A double that survives is read where it was printed. -/
theorem Survives.readsBack {x : Double} (h : Survives x) :
    (Scalar.number (.double x)).ReadsBack := by
  intro fuel depth rest hrest
  obtain ⟨p, hreadable, hbytes, -⟩ := Reader.tells_magnitudeText h.canonical
  have hvalue := Reader.value_of_parts hreadable hbytes fuel depth (.inr hrest)
  rw [(survives_iff_of_parts hreadable hbytes).mp h] at hvalue
  exact hvalue

/-- A double survives if it is written with at most 53 binary digits and a small power of ten. -/
theorem survives_of_short {x : Double} (hx : x.Canonical) (hdigits : (Reader.written x).1 < 2 ^ 53)
    (hpower : (Reader.written x).2.natAbs ≤ 22) : Survives x := by
  obtain ⟨p, hreadable, hbytes, hn, he⟩ := Reader.tells_magnitudeText hx
  have hlt : p.digits < Nat.pow 2 64 := by
    rw [hn]
    exact hdigits.trans (by decide)
  rw [survives_iff_of_parts hreadable hbytes, Reader.Parts.double?_of_lt hlt, hn, he]
  have hvalue := Reader.written_value x
  by_cases hzero : x.mantissa = 0
  · have hshortest : x.shortest.1 = 0 := by rw [Double.shortest, if_pos hzero]
    rw [hshortest, Nat.cast_zero, zero_mul, mul_eq_zero_iff_right (zpow_ne_zero _ (by norm_num)),
      Nat.cast_eq_zero] at hvalue
    have hexponent : x.exponent = Double.minExponent := by
      refine hx.full.resolve_right ?_
      rw [hzero]
      decide
    have hsame : Double.zero x.negative = x := by
      rw [Double.zero, ← hexponent, ← hzero]
    rw [hvalue, Double.ofDecimal?_zero, hsame]
  · refine Double.ofDecimal?_of_covers hx hzero hdigits hpower ?_
    rw [hvalue]
    exact Double.covers_shortest hx hzero

/-- The double above `5e32` is written with 17 digits, and read as the double below it. -/
example : (⟨false, 6938893903907229, 56⟩ : Double).shortest = (50000000000000004, 16) ∧
    Double.ofDecimal? false 50000000000000004 16 = some ⟨false, 6938893903907228, 56⟩ := by
  decide +kernel

/-- A number that fits is read where it was printed if it is whole or survives. -/
theorem Number.Fits.readsBack {m : Number} (h : m.Fits)
    (hdouble : ∀ x, m = .double x → Survives x) : (Scalar.number m).ReadsBack := by
  cases m with
  | integer i => exact readsBack_integer h.1 h.2
  | double x => exact (hdouble x rfl).readsBack

end LineSieve.Json
