import LineSieve.Proofs.Decimal.Rounding

/-!
# Decimal numbers that are read

A decimal number is rounded twice where it is read: first its digits, and then their product with a
power of ten, or their quotient by one. What is read is a double in its only form. If the digits and
the power are doubles themselves, only the second rounding counts, so the number is read as the
double that it is nearest to.
-/

namespace LineSieve.Decimal.Double

variable {negative : Bool} {num den : ℕ} {d f r : Double}

/-! ### What is computed is in its only form -/

theorem canonical_of_round? (hden : 0 < den) (h : round? negative num den = some r) :
    r.Canonical := by
  unfold round? at h
  split_ifs at h with hnum
  · cases h
    exact canonical_zero negative
  · exact canonical_of_ofQuotient? hnum hden h

theorem magnitude_den_pos (d : Double) : 0 < d.magnitude.2 := fraction_den_pos _ two_pos _

theorem magnitude_num_pos (hd : d.mantissa ≠ 0) : 0 < d.magnitude.1 :=
  Nat.mul_pos (Nat.pos_of_ne_zero hd) (Nat.pow_pos two_pos)

theorem canonical_of_mul? (h : d.mul? f = some r) : r.Canonical :=
  canonical_of_round? (Nat.mul_pos d.magnitude_den_pos f.magnitude_den_pos) h

theorem canonical_of_div? (hf : f.mantissa ≠ 0) (h : d.div? f = some r) : r.Canonical :=
  canonical_of_round? (Nat.mul_pos d.magnitude_den_pos (magnitude_num_pos hf)) h

/-- The powers of ten that are used are positive doubles. -/
theorem power_pos : ∀ k ≤ maxPower, (power k).negative = false ∧ (power k).mantissa ≠ 0 := by
  decide +kernel

theorem canonical_of_scale? {e : ℤ} (hd : d.Canonical) (h : d.scale? e = some r) :
    r.Canonical := by
  fun_induction scale? d e with
  | case1 d e hsmall hpos => exact canonical_of_mul? h
  | case2 d e hsmall hneg => exact canonical_of_div? (power_pos _ hsmall).2 h
  | case3 d e hlarge hzero =>
    cases h
    exact hd
  | case4 d e hlarge hzero hpos => cases h
  | case5 d e hlarge hzero hneg ih =>
    obtain ⟨next, hnext, hrest⟩ := Option.bind_eq_some_iff.mp h
    exact ih next (canonical_of_div? (power_pos _ le_rfl).2 hnext) hrest

theorem canonical_of_ofDecimal? {n : ℕ} {e : ℤ} (h : ofDecimal? negative n e = some r) :
    r.Canonical := by
  obtain ⟨d, hd, hscale⟩ := Option.bind_eq_some_iff.mp h
  exact canonical_of_scale? (canonical_of_round? one_pos hd) hscale

/-! ### Numbers that are doubles -/

/-- The number that a double is, whatever the sign. -/
def size (d : Double) : ℚ := d.mantissa * 2 ^ d.exponent

theorem magnitude_value (d : Double) : (d.magnitude.1 : ℚ) / d.magnitude.2 = d.size := by
  have hvalue := fraction_value d.mantissa 2 d.exponent
  push_cast at hvalue
  exact hvalue

/-- A whole number of units is rounded to itself. -/
theorem quotientMantissa_of_units {n : ℕ} {e : ℤ} (hden : 0 < den)
    (hunits : (num : ℚ) / den / 2 ^ e = n) : quotientMantissa num den e = n := by
  refine (roundsTo_quotientMantissa num hden e).unique (.inl ?_)
  rw [hunits]
  constructor <;> linarith

/-- The exponent that a number of at most 53 binary digits is rounded with is not larger than its
own. -/
theorem quotientExponent_le {m : ℕ} {e : ℤ} (hnum : num ≠ 0) (hden : 0 < den) (hm : m < 2 ^ 53)
    (hleast : minExponent ≤ e) (hvalue : (num : ℚ) / den = m * 2 ^ e) :
    quotientExponent num den ≤ e := by
  have hbinade := binade_quotientExponent hnum hden
  rcases hbinade.above with hmin | habove
  · exact hmin ▸ hleast
  · have hlarge : (num : ℚ) / den < 2 ^ (53 + e) := by
      rw [hvalue, zpow_add₀ two_ne_zero]
      exact mul_lt_mul_of_pos_right (by exact_mod_cast hm) (two_zpow_pos e)
    have hexp := two_zpow_lt_iff.mp (habove.trans_lt hlarge)
    omega

/-- A number of at most 53 binary digits is a double, so it is rounded to itself. -/
theorem round?_exact {m : ℕ} {e : ℤ} (negative : Bool) (hden : 0 < den) (hm : m < 2 ^ 53)
    (hzero : m ≠ 0) (hleast : minExponent ≤ e) (hgreatest : e ≤ maxExponent)
    (hvalue : (num : ℚ) / den = m * 2 ^ e) :
    ∃ d, round? negative num den = some d ∧ d.negative = negative ∧ d.size = num / den := by
  have hnum : num ≠ 0 := by
    rintro rfl
    have hpos : (0 : ℚ) < m * 2 ^ e :=
      mul_pos (by exact_mod_cast Nat.pos_of_ne_zero hzero) (two_zpow_pos e)
    simp [← hvalue] at hpos
  have hle := quotientExponent_le hnum hden hm hleast hvalue
  have hbelow := (lt_two_zpow_add_iff _ 53).mp (binade_quotientExponent hnum hden).below
  obtain ⟨s, hs⟩ := Int.eq_ofNat_of_zero_le (sub_nonneg.mpr hle)
  have hunits : (num : ℚ) / den / 2 ^ quotientExponent num den = (m * 2 ^ s : ℕ) := by
    rw [hvalue, mul_div_assoc, ← zpow_sub₀ two_ne_zero, hs, zpow_natCast]
    push_cast
    rfl
  have hmantissa := quotientMantissa_of_units hden hunits
  have hfull : quotientMantissa num den (quotientExponent num den) ≠ 2 ^ 53 := by
    rw [hunits] at hbelow
    rw [hmantissa]
    exact (by exact_mod_cast hbelow : m * 2 ^ s < 2 ^ 53).ne
  refine ⟨⟨negative, m * 2 ^ s, quotientExponent num den⟩, ?_, rfl, ?_⟩
  · rw [round?, if_neg hnum, ofQuotient?_of_not_full hfull,
      if_neg (not_lt.mpr (hle.trans hgreatest)), hmantissa]
  · rw [size, ← hunits, div_mul_cancel₀ _ (two_zpow_pos _).ne']

theorem power_size {k : ℕ} (hk : k ≤ 22) : (power k).size = 10 ^ k := by
  have hfive : 5 ^ k < 2 ^ 53 :=
    (Nat.pow_le_pow_right (by decide) hk).trans_lt (by decide : 5 ^ 22 < 2 ^ 53)
  have hvalue : ((Nat.pow 10 k : ℕ) : ℚ) / (1 : ℕ) = (5 ^ k : ℕ) * 2 ^ (k : ℤ) := by
    rw [Nat.pow_eq, Nat.cast_one, div_one, zpow_natCast]
    push_cast
    rw [← mul_pow]
    norm_num
  obtain ⟨d, hd, -, hsize⟩ := round?_exact false one_pos hfive (Nat.pow_pos (by decide)).ne'
    (by unfold minExponent; omega) (by unfold maxExponent; omega) hvalue
  rw [power, hd, Option.getD_some, hsize, Nat.pow_eq]
  push_cast
  rw [div_one]

/-! ### The second rounding -/

theorem round?_of_covers (hr : r.Canonical) (hzero : r.mantissa ≠ 0) (hden : 0 < den)
    (h : r.Covers (num / den)) : round? r.negative num den = some r := by
  rw [round?, if_neg (h.num_ne_zero hzero)]
  exact ofQuotient?_of_covers hr hzero hden h

theorem mul?_of_covers (hr : r.Canonical) (hzero : r.mantissa ≠ 0)
    (hsign : (d.negative != f.negative) = r.negative) (h : r.Covers (d.size * f.size)) :
    d.mul? f = some r := by
  rw [← magnitude_value, ← magnitude_value, div_mul_div_comm, ← Nat.cast_mul, ← Nat.cast_mul] at h
  rw [mul?, hsign]
  exact round?_of_covers hr hzero (Nat.mul_pos d.magnitude_den_pos f.magnitude_den_pos) h

theorem div?_of_covers (hr : r.Canonical) (hzero : r.mantissa ≠ 0) (hf : f.mantissa ≠ 0)
    (hsign : (d.negative != f.negative) = r.negative) (h : r.Covers (d.size / f.size)) :
    d.div? f = some r := by
  rw [← magnitude_value, ← magnitude_value, div_div_div_eq, ← Nat.cast_mul, ← Nat.cast_mul] at h
  rw [div?, hsign]
  exact round?_of_covers hr hzero (Nat.mul_pos d.magnitude_den_pos (magnitude_num_pos hf)) h

/-- A number of few digits is read as the double that it is nearest to: its digits are a double, and
so is the power of ten. -/
theorem ofDecimal?_of_covers (hr : r.Canonical) (hzero : r.mantissa ≠ 0) {n : ℕ} {e : ℤ}
    (hn : n < 2 ^ 53) (he : e.natAbs ≤ 22) (h : r.Covers (n * 10 ^ e)) :
    ofDecimal? r.negative n e = some r := by
  have hne : n ≠ 0 := by
    rintro rfl
    have hpos := h.pos hzero
    simp at hpos
  have hvalue : (n : ℚ) / (1 : ℕ) = n * 2 ^ (0 : ℤ) := by simp
  obtain ⟨d, hd, hsign, hsize⟩ := round?_exact r.negative one_pos hn hne
    (by decide : minExponent ≤ 0) (by decide : (0 : ℤ) ≤ maxExponent) hvalue
  rw [Nat.cast_one, div_one] at hsize
  have hpower := power_size he
  have hmax : e.natAbs ≤ maxPower := he.trans (by decide)
  obtain ⟨hplus, hsome⟩ := power_pos _ hmax
  have hsame : (d.negative != (power e.natAbs).negative) = r.negative := by
    rw [hplus, hsign, Bool.bne_false]
  rw [ofDecimal?, hd, Option.bind_some, scale?, if_pos hmax]
  split_ifs with hle
  · refine mul?_of_covers hr hzero hsame ?_
    obtain ⟨k, rfl⟩ := Int.eq_ofNat_of_zero_le hle
    rw [hsize, hpower]
    exact_mod_cast h
  · refine div?_of_covers hr hzero hsome hsame ?_
    have hexp : e = -(e.natAbs : ℤ) := by omega
    rw [hsize, hpower, div_eq_mul_inv, ← zpow_natCast, ← zpow_neg, ← hexp]
    exact h

/-! ### Zero -/

theorem scale?_zero (negative : Bool) (e : ℤ) :
    (zero negative).scale? e = some (zero negative) := by
  rw [scale?]
  split_ifs with hsmall hpos hzero
  · rw [mul?, (power_pos _ hsmall).1]
    simp [magnitude, fraction, round?, zero]
  · rw [div?, (power_pos _ hsmall).1]
    simp [magnitude, fraction, round?, zero]
  · rfl
  · exact absurd rfl hzero
  · exact absurd rfl hzero

theorem ofDecimal?_zero (negative : Bool) (e : ℤ) :
    ofDecimal? negative 0 e = some (zero negative) :=
  scale?_zero negative e

end LineSieve.Decimal.Double
