import Mathlib.Algebra.Order.Field.Power
import Mathlib.Tactic.Linarith
import Mathlib.Tactic.Positivity
import Mathlib.Tactic.Ring
import LineSieve.Decimal.Double

/-!
# Rounding to doubles

A quotient is rounded within its binade: the exponent is the least with which it stays below 2^53
units, and the mantissa the nearest whole number of units. So each number near enough to a double is
rounded to it, and what is rounded to is a double in its only form.
-/

namespace LineSieve.Decimal.Double

/-! ### Whole numbers -/

/-- A whole number that a number may be rounded to: no other one is nearer, and if another one is as
near, this one is even. -/
def RoundsTo (x : ℚ) (m : ℕ) : Prop :=
  m - 1 / 2 < x ∧ x < m + 1 / 2 ∨ m % 2 = 0 ∧ m - 1 / 2 ≤ x ∧ x ≤ m + 1 / 2

theorem RoundsTo.bounds {x : ℚ} {m : ℕ} (h : RoundsTo x m) : m - 1 / 2 ≤ x ∧ x ≤ m + 1 / 2 := by
  rcases h with h | h
  · exact ⟨h.1.le, h.2.le⟩
  · exact h.2

theorem RoundsTo.unique {x : ℚ} {m n : ℕ} (hm : RoundsTo x m) (hn : RoundsTo x n) : m = n := by
  have hnear : m ≤ n + 1 ∧ n ≤ m + 1 := by
    have hmx := hm.bounds
    have hnx := hn.bounds
    constructor
    · have hcast : (m : ℚ) ≤ (n + 1 : ℕ) := by push_cast; linarith
      exact_mod_cast hcast
    · have hcast : (n : ℚ) ≤ (m + 1 : ℕ) := by push_cast; linarith
      exact_mod_cast hcast
  -- two neighbours are as near only in the middle, where one of them is odd
  have hmiddle : ∀ k : ℕ, RoundsTo x k → RoundsTo x (k + 1) → False := by
    intro k hk hsucc
    rcases hk with hk | hk <;> rcases hsucc with hs | hs <;> push_cast at hs
    · linarith
    · linarith [hs.2.1]
    · linarith [hk.2.2]
    · omega
  by_contra hne
  have hcases : m = n + 1 ∨ n = m + 1 := by omega
  rcases hcases with rfl | rfl
  · exact hmiddle n hn hm
  · exact hmiddle m hm hn

theorem roundsTo_roundEven (num : ℕ) {den : ℕ} (hden : 0 < den) :
    RoundsTo ((num : ℚ) / den) (roundEven num den) := by
  have hpos : (0 : ℚ) < den := by exact_mod_cast hden
  have hsplit : (num : ℚ) / den = (num / den : ℕ) + ((num % den : ℕ) : ℚ) / den := by
    have hdiv : (num : ℚ) = den * (num / den : ℕ) + (num % den : ℕ) := by
      exact_mod_cast (Nat.div_add_mod num den).symm
    rw [eq_comm, ← mul_left_inj' hpos.ne', add_mul, div_mul_cancel₀ _ hpos.ne',
      div_mul_cancel₀ _ hpos.ne', mul_comm, ← hdiv]
  have hrest : (0 : ℚ) ≤ ((num % den : ℕ) : ℚ) / den ∧ ((num % den : ℕ) : ℚ) / den < 1 := by
    constructor
    · positivity
    · rw [div_lt_one hpos]
      exact_mod_cast Nat.mod_lt num hden
  have hless : 2 * (num % den) < den ↔ ((num % den : ℕ) : ℚ) / den < 1 / 2 := by
    rw [div_lt_iff₀ hpos, one_div, inv_mul_eq_div, lt_div_iff₀ two_pos, mul_comm]
    exact_mod_cast Iff.rfl
  have hmore : den < 2 * (num % den) ↔ 1 / 2 < ((num % den : ℕ) : ℚ) / den := by
    rw [lt_div_iff₀ hpos, one_div, inv_mul_eq_div, div_lt_iff₀ two_pos, mul_comm _ (2 : ℚ)]
    exact_mod_cast Iff.rfl
  rw [hsplit]
  unfold roundEven RoundsTo
  dsimp only
  split_ifs with hl hm hq
  · have hl := hless.mp hl
    left
    constructor <;> linarith
  · have hm := hmore.mp hm
    left
    push_cast
    constructor <;> linarith
  · have hl := mt hless.mpr hl
    have hm := mt hmore.mpr hm
    right
    refine ⟨hq, ?_, ?_⟩ <;> linarith
  · have hl := mt hless.mpr hl
    have hm := mt hmore.mpr hm
    right
    refine ⟨by omega, ?_, ?_⟩ <;> push_cast <;> linarith

/-! ### Binades -/

theorem two_zpow_pos (e : ℤ) : (0 : ℚ) < 2 ^ e := zpow_pos two_pos e

theorem two_zpow_lt_iff {a b : ℤ} : (2 : ℚ) ^ a < 2 ^ b ↔ a < b :=
  zpow_lt_zpow_iff_right₀ one_lt_two

theorem two_zpow_le_iff {a b : ℤ} : (2 : ℚ) ^ a ≤ 2 ^ b ↔ a ≤ b :=
  zpow_le_zpow_iff_right₀ one_lt_two

theorem lt_two_zpow_add_iff {x : ℚ} (e : ℤ) (n : ℕ) : x < 2 ^ (e + n) ↔ x / 2 ^ e < 2 ^ n := by
  rw [zpow_add₀ two_ne_zero, zpow_natCast, div_lt_iff₀' (two_zpow_pos e)]

theorem two_zpow_add_le_iff {x : ℚ} (e : ℤ) (n : ℕ) : 2 ^ (e + n) ≤ x ↔ 2 ^ n ≤ x / 2 ^ e := by
  rw [zpow_add₀ two_ne_zero, zpow_natCast, le_div_iff₀' (two_zpow_pos e)]

/-- The numbers with an exponent: it is the least with which they are below 2^53 units. -/
structure Binade (x : ℚ) (e : ℤ) : Prop where
  least : minExponent ≤ e
  below : x < 2 ^ (e + 53)
  above : e = minExponent ∨ 2 ^ (e + 52) ≤ x

theorem Binade.unique {x : ℚ} {e f : ℤ} (he : Binade x e) (hf : Binade x f) : e = f := by
  have hle : ∀ {a b : ℤ}, Binade x a → Binade x b → b ≤ a := by
    intro a b ha hb
    rcases hb.above with hmin | habove
    · exact hmin ▸ ha.least
    · have hlt := two_zpow_lt_iff.mp (habove.trans_lt ha.below)
      omega
  exact le_antisymm (hle hf he) (hle he hf)

/-- The exponent that a quotient is rounded with. -/
def quotientExponent (num den : ℕ) : ℤ :=
  let guess : ℤ := (Nat.log2 num : ℤ) - (Nat.log2 den : ℤ) - 53
  let e := max guess minExponent
  if (num * Nat.pow 2 (-e).toNat) / (den * Nat.pow 2 e.toNat) < Nat.pow 2 53 then e else e + 1

/-- The nearest whole number of units. -/
def quotientMantissa (num den : ℕ) (e : ℤ) : ℕ :=
  roundEven (num * Nat.pow 2 (-e).toNat) (den * Nat.pow 2 e.toNat)

variable {negative : Bool} {num den : ℕ}

/-- A quotient that is rounded up to the next power of two is in the next binade. -/
theorem ofQuotient?_of_full (h : quotientMantissa num den (quotientExponent num den) = 2 ^ 53) :
    ofQuotient? negative num den =
      if maxExponent < quotientExponent num den + 1 then none
      else some ⟨negative, 2 ^ 52, quotientExponent num den + 1⟩ := by
  unfold ofQuotient?
  extract_lets guess mantissaAt e₀ e m
  have hm : m = Nat.pow 2 53 := h
  rw [if_pos hm]
  rfl

theorem ofQuotient?_of_not_full
    (h : quotientMantissa num den (quotientExponent num den) ≠ 2 ^ 53) :
    ofQuotient? negative num den =
      if maxExponent < quotientExponent num den then none
      else some ⟨negative, quotientMantissa num den (quotientExponent num den),
        quotientExponent num den⟩ := by
  unfold ofQuotient?
  extract_lets guess mantissaAt e₀ e m
  have hm : m ≠ Nat.pow 2 53 := h
  rw [if_neg hm]
  rfl

/-! ### Units -/

theorem pow_toNat_div (b : ℚ) (e : ℤ) : b ^ e.toNat / b ^ (-e).toNat = b ^ e := by
  obtain ⟨n, rfl | rfl⟩ := e.eq_nat_or_neg
  · simp
  · simp

/-- The quotient in units of a power of two, as it is rounded. -/
theorem scaled_eq (num den : ℕ) (e : ℤ) :
    ((num * Nat.pow 2 (-e).toNat : ℕ) : ℚ) / (den * Nat.pow 2 e.toNat : ℕ) = num / den / 2 ^ e := by
  have hpow := pow_toNat_div 2 (-e)
  rw [neg_neg] at hpow
  rw [Nat.pow_eq, Nat.pow_eq]
  push_cast
  rw [mul_div_mul_comm, hpow, zpow_neg, ← div_eq_mul_inv]

theorem roundsTo_quotientMantissa (num : ℕ) (hden : 0 < den) (e : ℤ) :
    RoundsTo ((num : ℚ) / den / 2 ^ e) (quotientMantissa num den e) := by
  rw [← scaled_eq]
  exact roundsTo_roundEven _ (Nat.mul_pos hden (Nat.pow_pos two_pos))

theorem two_zpow_log2_bounds {n : ℕ} (hn : n ≠ 0) :
    (2 : ℚ) ^ (n.log2 : ℤ) ≤ n ∧ (n : ℚ) < 2 ^ (n.log2 + 1 : ℤ) := by
  constructor
  · exact_mod_cast Nat.log2_self_le hn
  · exact_mod_cast Nat.lt_log2_self

theorem binade_quotientExponent (hnum : num ≠ 0) (hden : 0 < den) :
    Binade ((num : ℚ) / den) (quotientExponent num den) := by
  obtain ⟨hnumLow, hnumHigh⟩ := two_zpow_log2_bounds hnum
  obtain ⟨hdenLow, hdenHigh⟩ := two_zpow_log2_bounds hden.ne'
  have hpos : (0 : ℚ) < den := by exact_mod_cast hden
  have hscaled := scaled_eq num den
  unfold quotientExponent
  extract_lets guess e
  -- the guess is at most one too low
  have hlow : (2 : ℚ) ^ (guess + 52) < num / den := by
    have hexp : guess + 52 = (num.log2 : ℤ) - (den.log2 + 1) := by omega
    rw [hexp, zpow_sub₀ two_ne_zero]
    exact div_lt_div₀' hnumLow hdenHigh (by positivity) hpos
  have hhigh : (num : ℚ) / den < 2 ^ (guess + 54) := by
    have hexp : guess + 54 = (num.log2 + 1 : ℤ) - den.log2 := by omega
    rw [hexp, zpow_sub₀ two_ne_zero]
    exact div_lt_div₀ hnumHigh hdenLow (by positivity) (two_zpow_pos _)
  have hfits : (num * Nat.pow 2 (-e).toNat) / (den * Nat.pow 2 e.toNat) < Nat.pow 2 53 ↔
      (num : ℚ) / den < 2 ^ (e + 53) := by
    have hunit : 0 < den * Nat.pow 2 e.toNat := Nat.mul_pos hden (Nat.pow_pos two_pos)
    have hunit' : (0 : ℚ) < (den * Nat.pow 2 e.toNat : ℕ) := by exact_mod_cast hunit
    refine Iff.trans ?_ (lt_two_zpow_add_iff e 53).symm
    rw [← hscaled, Nat.div_lt_iff_lt_mul hunit, div_lt_iff₀ hunit']
    exact_mod_cast Iff.rfl
  have hmin : e = minExponent ∨ e = guess := (max_choice guess minExponent).symm
  split_ifs with h
  · refine ⟨le_max_right _ _, hfits.mp h, hmin.imp_right fun heq => ?_⟩
    rw [heq]
    exact hlow.le
  · have hle := not_lt.mp (mt hfits.mpr h)
    refine ⟨(le_max_right _ _).trans (Int.le_add_one le_rfl), hhigh.trans_le ?_, .inr ?_⟩
    · rw [two_zpow_le_iff]
      have hguess : guess ≤ e := le_max_left _ _
      omega
    · have hexp : e + 1 + 52 = e + 53 := by omega
      rwa [hexp]

/-! ### Doubles -/

/-- The only form of a double: the exponent is the least that the mantissa can have. -/
structure Canonical (d : Double) : Prop where
  mantissa_lt : d.mantissa < 2 ^ 53
  least : minExponent ≤ d.exponent
  greatest : d.exponent ≤ maxExponent
  full : d.exponent = minExponent ∨ 2 ^ 52 ≤ d.mantissa

theorem canonical_zero (negative : Bool) : (zero negative).Canonical where
  mantissa_lt := Nat.two_pow_pos 53
  least := le_rfl
  greatest := (by decide : minExponent ≤ maxExponent)
  full := .inl rfl

theorem quotientMantissa_bounds (hnum : num ≠ 0) (hden : 0 < den) :
    quotientMantissa num den (quotientExponent num den) ≤ 2 ^ 53 ∧
      (quotientExponent num den = minExponent ∨
        2 ^ 52 ≤ quotientMantissa num den (quotientExponent num den)) := by
  have hbinade := binade_quotientExponent hnum hden
  have hrounds := (roundsTo_quotientMantissa num hden (quotientExponent num den)).bounds
  generalize quotientExponent num den = e at *
  generalize quotientMantissa num den e = m at *
  have hbelow := (lt_two_zpow_add_iff e 53).mp hbinade.below
  constructor
  · have hlt : (m : ℚ) < (2 ^ 53 + 1 : ℕ) := by push_cast; linarith
    exact Nat.lt_succ_iff.mp (by exact_mod_cast hlt)
  · refine hbinade.above.imp_right fun habove => ?_
    have hle := (two_zpow_add_le_iff e 52).mp habove
    have hlt : ((2 ^ 52 : ℕ) : ℚ) < (m + 1 : ℕ) := by push_cast; linarith
    exact Nat.lt_succ_iff.mp (by exact_mod_cast hlt)

theorem canonical_of_ofQuotient? {d : Double} (hnum : num ≠ 0) (hden : 0 < den)
    (h : ofQuotient? negative num den = some d) : d.Canonical := by
  obtain ⟨hmax, hmin⟩ := quotientMantissa_bounds hnum hden
  have hleast := (binade_quotientExponent hnum hden).least
  by_cases hfull : quotientMantissa num den (quotientExponent num den) = 2 ^ 53
  · rw [ofQuotient?_of_full hfull] at h
    split_ifs at h with hlarge
    cases h
    exact ⟨(by decide : 2 ^ 52 < 2 ^ 53), hleast.trans (Int.le_add_one le_rfl),
      not_lt.mp hlarge, .inr le_rfl⟩
  · rw [ofQuotient?_of_not_full hfull] at h
    split_ifs at h with hlarge
    cases h
    exact ⟨lt_of_le_of_ne hmax hfull, hleast, not_lt.mp hlarge, hmin⟩

/-! ### The numbers around a double -/

/-- The way down from a double to the middle between it and the next one, in units: below a power of
two this is nearer. -/
def reach (d : Double) : ℚ :=
  if d.mantissa = 2 ^ 52 ∧ minExponent < d.exponent then 1 / 4 else 1 / 2

/-- The numbers that are nearer to a double than to any other, whatever the sign. The middles
between it and its neighbours are among them if its mantissa is even. -/
def Covers (d : Double) (x : ℚ) : Prop :=
  d.mantissa - d.reach < x / 2 ^ d.exponent ∧ x / 2 ^ d.exponent < d.mantissa + 1 / 2 ∨
    d.mantissa % 2 = 0 ∧
      d.mantissa - d.reach ≤ x / 2 ^ d.exponent ∧ x / 2 ^ d.exponent ≤ d.mantissa + 1 / 2

variable {d : Double} {x : ℚ}

theorem reach_le (d : Double) : d.reach ≤ 1 / 2 := by
  unfold reach
  split_ifs
  · norm_num
  · exact le_rfl

theorem Covers.roundsTo (h : d.Covers x) : RoundsTo (x / 2 ^ d.exponent) d.mantissa := by
  have hreach := reach_le d
  rcases h with h | h
  · left
    constructor <;> linarith
  · right
    refine ⟨h.1, ?_, ?_⟩ <;> linarith

theorem Covers.pos (h : d.Covers x) (hd : d.mantissa ≠ 0) : 0 < x := by
  have hone : (1 : ℚ) ≤ d.mantissa := by exact_mod_cast Nat.one_le_iff_ne_zero.mpr hd
  have hscaled : 0 < x / 2 ^ d.exponent := by linarith [h.roundsTo.bounds.1]
  exact (div_pos_iff_of_pos_right (two_zpow_pos _)).mp hscaled

theorem Covers.num_ne_zero (h : d.Covers (num / den)) (hd : d.mantissa ≠ 0) : num ≠ 0 := by
  rintro rfl
  have hpos := h.pos hd
  simp at hpos

theorem Covers.lt (h : d.Covers x) (hd : d.Canonical) : x < 2 ^ (d.exponent + 53) := by
  have hmantissa : (d.mantissa : ℚ) + 1 ≤ 2 ^ 53 := by exact_mod_cast hd.mantissa_lt
  refine (lt_two_zpow_add_iff d.exponent 53).mpr ?_
  linarith [h.roundsTo.bounds.2]

/-- Below a power of two the numbers around it are in the binade before. -/
theorem Covers.binade_pred (h : d.Covers x) (hd : d.Canonical) (hmin : minExponent < d.exponent)
    (hlow : x < 2 ^ (d.exponent + 52)) :
    d.mantissa = 2 ^ 52 ∧ Binade x (d.exponent - 1) ∧
      RoundsTo (x / 2 ^ (d.exponent - 1)) (2 ^ 53) := by
  have hfull := hd.full.resolve_left hmin.ne'
  have hscaled := (lt_two_zpow_add_iff d.exponent 52).mp hlow
  have hmantissa : d.mantissa = 2 ^ 52 := by
    have hlt : (d.mantissa : ℚ) < (2 ^ 52 + 1 : ℕ) := by
      push_cast
      linarith [h.roundsTo.bounds.1]
    have hlt' : d.mantissa < 2 ^ 52 + 1 := by exact_mod_cast hlt
    omega
  have hreach : d.reach = 1 / 4 := if_pos ⟨hmantissa, hmin⟩
  have hnear : (2 ^ 52 : ℚ) - 1 / 4 ≤ x / 2 ^ d.exponent := by
    have hcast : (d.mantissa : ℚ) = 2 ^ 52 := by exact_mod_cast hmantissa
    rw [← hcast, ← hreach]
    rcases h with h | h
    · exact h.1.le
    · exact h.2.1
  have hdouble : x / 2 ^ (d.exponent - 1) = 2 * (x / 2 ^ d.exponent) := by
    rw [zpow_sub₀ two_ne_zero, zpow_one, div_div_eq_mul_div]
    ring
  refine ⟨hmantissa, ⟨by omega, ?_, .inr ?_⟩, .inr ⟨by decide, ?_, ?_⟩⟩
  · have hexp : d.exponent - 1 + 53 = d.exponent + 52 := by omega
    rwa [hexp]
  · refine (two_zpow_add_le_iff (d.exponent - 1) 52).mpr ?_
    rw [hdouble]
    linarith
  · rw [hdouble]
    push_cast
    linarith
  · rw [hdouble]
    push_cast
    linarith

/-- Each number near enough to a double is rounded to it. -/
theorem ofQuotient?_of_covers (hd : d.Canonical) (hzero : d.mantissa ≠ 0) (hden : 0 < den)
    (h : d.Covers (num / den)) : ofQuotient? d.negative num den = some d := by
  have hnum := h.num_ne_zero hzero
  have hrounds := roundsTo_quotientMantissa num hden (quotientExponent num den)
  have hbinade := binade_quotientExponent hnum hden
  by_cases hlow : minExponent < d.exponent ∧ (num : ℚ) / den < 2 ^ (d.exponent + 52)
  · obtain ⟨hmantissa, hpred, hup⟩ := h.binade_pred hd hlow.1 hlow.2
    rw [hbinade.unique hpred] at hrounds
    have hfull : quotientMantissa num den (quotientExponent num den) = 2 ^ 53 := by
      rw [hbinade.unique hpred]
      exact hrounds.unique hup
    rw [ofQuotient?_of_full hfull, hbinade.unique hpred, sub_add_cancel,
      if_neg (not_lt.mpr hd.greatest), ← hmantissa]
  · have hown : Binade (num / den) d.exponent := by
      refine ⟨hd.least, h.lt hd, ?_⟩
      by_contra hneither
      obtain ⟨hne, hnot⟩ := not_or.mp hneither
      exact hlow ⟨lt_of_le_of_ne hd.least (Ne.symm hne), not_le.mp hnot⟩
    rw [hbinade.unique hown] at hrounds
    have hmantissa : quotientMantissa num den (quotientExponent num den) = d.mantissa := by
      rw [hbinade.unique hown]
      exact hrounds.unique h.roundsTo
    rw [ofQuotient?_of_not_full (hmantissa ▸ hd.mantissa_lt.ne), hmantissa, hbinade.unique hown,
      if_neg (not_lt.mpr hd.greatest)]

/-! ### Decimal numbers -/

theorem fraction_value (n b : ℕ) (e : ℤ) :
    ((fraction n b e).1 : ℚ) / (fraction n b e).2 = n * b ^ e := by
  have hpow := pow_toNat_div b e
  rw [fraction, Nat.pow_eq, Nat.pow_eq]
  push_cast
  rw [mul_div_assoc, hpow]

theorem fraction_den_pos (n : ℕ) {b : ℕ} (hb : 0 < b) (e : ℤ) : 0 < (fraction n b e).2 :=
  Nat.pow_pos hb

theorem ten_zpow_digitCount_bounds {n : ℕ} (hn : n ≠ 0) :
    (10 : ℚ) ^ ((digitCount n : ℤ) - 1) ≤ n ∧ (n : ℚ) < 10 ^ (digitCount n : ℤ) := by
  have hlength : 0 < digitCount n := Nat.length_toDigits_pos
  have hlt : n < 10 ^ digitCount n := (Nat.length_toDigits_le_iff (by decide) hlength).mp le_rfl
  have hle : 10 ^ (digitCount n - 1) ≤ n := by
    by_cases hone : digitCount n = 1
    · rw [hone]
      exact Nat.one_le_iff_ne_zero.mpr hn
    · by_contra hless
      have hshort := (Nat.length_toDigits_le_iff (by decide) (by omega)).mpr (not_le.mp hless)
      have hcount : (Nat.toDigits 10 n).length = digitCount n := rfl
      omega
  refine ⟨?_, by exact_mod_cast hlt⟩
  have hexp : (digitCount n : ℤ) - 1 = (digitCount n - 1 : ℕ) := by omega
  rw [hexp, zpow_natCast]
  exact_mod_cast hle

theorem ten_zpow_pos (k : ℤ) : (0 : ℚ) < 10 ^ k := zpow_pos (by norm_num) k

theorem ten_zpow_lt_iff {a b : ℤ} : (10 : ℚ) ^ a < 10 ^ b ↔ a < b :=
  zpow_lt_zpow_iff_right₀ (by norm_num)

theorem two_zpow_lt_ten_zpow : (2 : ℚ) ^ (1080 : ℤ) < 10 ^ (330 : ℤ) := by
  have hroot : (2 : ℚ) ^ 108 < 10 ^ 33 := by norm_num
  have hpow := pow_lt_pow_left₀ hroot (by norm_num) (by decide : 10 ≠ 0)
  rw [← pow_mul, ← pow_mul] at hpow
  exact hpow

theorem ten_zpow_neg_lt_two_zpow_neg : (10 : ℚ) ^ (-330 : ℤ) < 2 ^ (-1080 : ℤ) := by
  rw [zpow_neg, zpow_neg]
  exact (inv_lt_inv₀ (ten_zpow_pos _) (two_zpow_pos _)).mpr two_zpow_lt_ten_zpow

end LineSieve.Decimal.Double
