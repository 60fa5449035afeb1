import Mathlib.Data.Nat.Cast.Order.Field
import Mathlib.Tactic.FieldSimp
import LineSieve.Proofs.Decimal.Rounding

/-!
# Shortest digits

The digits that are found for a double are read as the double. What is taken from a grid is tested
to be between the ends, and seventeen digits are always enough for a grid to have such a number.
-/

namespace LineSieve.Decimal.Double

/-! ### Grids -/

/-- A number between two ends, which count if `closed` holds. -/
def Between (low high : ℚ) (closed : Bool) (x : ℚ) : Prop :=
  low < x ∧ x < high ∨ closed = true ∧ low ≤ x ∧ x ≤ high

/-- Whole numbers of steps between the ends, both counted in small units. -/
def inside (low high step scale : ℕ) (closed : Bool) (n : ℕ) : Bool :=
  if closed then low * scale ≤ n * step && n * step ≤ high * scale
  else low * scale < n * step && n * step < high * scale

variable {low mid high den n : ℕ} {closed : Bool} {place : ℤ}

theorem inside_iff {unit scale : ℕ} (hden : 0 < den) (hscale : 0 < scale) :
    inside low high (unit * den) scale closed n = true ↔
      Between (low / den) (high / den) closed (n * (unit / scale)) := by
  have hden' : (0 : ℚ) < den := by exact_mod_cast hden
  have hscale' : (0 : ℚ) < scale := by exact_mod_cast hscale
  have hleft : ∀ a : ℕ, a * scale < n * (unit * den) ↔ (a : ℚ) / den < n * (unit / scale) := by
    intro a
    rw [← mul_div_assoc, div_lt_div_iff₀ hden' hscale', mul_assoc]
    exact_mod_cast Iff.rfl
  have hright : ∀ a : ℕ, n * (unit * den) < a * scale ↔ n * (unit / scale) < (a : ℚ) / den := by
    intro a
    rw [← mul_div_assoc, div_lt_div_iff₀ hscale' hden', mul_assoc]
    exact_mod_cast Iff.rfl
  unfold inside Between
  cases closed with
  | false => simp [hleft, hright]
  | true =>
    simp only [if_true, Bool.and_eq_true, decide_eq_true_eq, true_and]
    rw [← not_lt, ← not_lt, hright low, hleft high, not_lt, not_lt]
    exact ⟨.inr, fun h => h.elim (fun h => ⟨h.1.le, h.2.le⟩) id⟩

theorem onGrid?_eq (low mid high den : ℕ) (closed : Bool) (place : ℤ) :
    onGrid? low mid high den closed place =
      let step := (fraction 1 10 place).1 * den
      let scale := (fraction 1 10 place).2
      let below := mid * scale / step
      let nearest := roundEven (mid * scale) step
      if inside low high step scale closed nearest then some nearest
      else if inside low high step scale closed below then some below
      else if inside low high step scale closed (below + 1) then some (below + 1)
      else none := rfl

theorem inside_grid_iff (hden : 0 < den) :
    inside low high ((fraction 1 10 place).1 * den) (fraction 1 10 place).2 closed n = true ↔
      Between (low / den) (high / den) closed (n * 10 ^ place) := by
  have hvalue := fraction_value 1 10 place
  push_cast at hvalue
  rw [inside_iff hden (fraction_den_pos 1 (by decide) place), hvalue, one_mul]

theorem between_of_onGrid? (hden : 0 < den)
    (h : onGrid? low mid high den closed place = some n) :
    Between (low / den) (high / den) closed (n * 10 ^ place) := by
  rw [onGrid?_eq] at h
  dsimp only at h
  split_ifs at h with hnearest hbelow habove
  · cases h
    exact (inside_grid_iff hden).mp hnearest
  · cases h
    exact (inside_grid_iff hden).mp hbelow
  · cases h
    exact (inside_grid_iff hden).mp habove

/-- A grid with steps less than twice as large as the ways to the ends has a number between them. -/
theorem onGrid?_isSome (hden : 0 < den)
    (hlow : (10 : ℚ) ^ place / 2 < mid / den - low / den)
    (hhigh : (10 : ℚ) ^ place / 2 < high / den - mid / den) :
    (onGrid? low mid high den closed place).isSome := by
  have hscale := fraction_den_pos 1 (by decide : 0 < 10) place
  have hvalue := fraction_value 1 10 place
  push_cast at hvalue
  rw [one_mul] at hvalue
  have hten := ten_zpow_pos place
  have hunit : 0 < (fraction 1 10 place).1 := Nat.mul_pos one_pos (Nat.pow_pos (by decide))
  have hrounds := roundsTo_roundEven (mid * (fraction 1 10 place).2) (Nat.mul_pos hunit hden)
  have hscaled : ((mid * (fraction 1 10 place).2 : ℕ) : ℚ) / ((fraction 1 10 place).1 * den : ℕ) =
      mid / den / 10 ^ place := by
    rw [← hvalue]
    push_cast
    field_simp
  rw [hscaled] at hrounds
  rw [onGrid?_eq]
  dsimp only
  generalize roundEven (mid * (fraction 1 10 place).2) ((fraction 1 10 place).1 * den) = k at *
  obtain ⟨hdown, hup⟩ := hrounds.bounds
  rw [le_div_iff₀ hten] at hdown
  rw [div_le_iff₀ hten] at hup
  have hbetween : Between (low / den) (high / den) closed (k * 10 ^ place) :=
    .inl ⟨by linarith, by linarith⟩
  rw [if_pos ((inside_grid_iff hden).mpr hbetween)]
  rfl

/-- The first grid with a number between the ends is found if there is one within the fuel. -/
theorem between_shortestFrom (hden : 0 < den) {fuel j : ℕ} (hj : j < fuel)
    (hsome : (onGrid? low mid high den closed (place - j)).isSome) :
    Between (low / den) (high / den) closed
      ((shortestFrom low mid high den closed fuel place).1 *
        10 ^ (shortestFrom low mid high den closed fuel place).2) := by
  induction fuel generalizing place j with
  | zero => exact absurd hj (Nat.not_lt_zero j)
  | succ fuel ih =>
    unfold shortestFrom
    split
    · next n hn => exact between_of_onGrid? hden hn
    · next hnone =>
      cases j with
      | zero =>
        rw [Nat.cast_zero, sub_zero, hnone] at hsome
        cases hsome
      | succ j =>
        have hplace : place - (j + 1 : ℕ) = place - 1 - j := by omega
        exact ih (Nat.succ_lt_succ_iff.mp hj) (hplace ▸ hsome)

theorem withoutZeros_value (fuel n : ℕ) (e : ℤ) :
    ((withoutZeros fuel n e).1 : ℚ) * 10 ^ (withoutZeros fuel n e).2 = n * 10 ^ e := by
  induction fuel generalizing n e with
  | zero => rfl
  | succ fuel ih =>
    unfold withoutZeros
    split
    · next hzero =>
      have hsplit : (n : ℚ) = (n / 10 : ℕ) * 10 := by
        exact_mod_cast (Nat.div_mul_cancel (Nat.dvd_of_mod_eq_zero hzero)).symm
      rw [ih, hsplit, zpow_add_one₀ (by norm_num)]
      ring
    · rfl

/-! ### The first digit -/

theorem leadingBelowOne_spec (den fuel num : ℕ) (e : ℤ) :
    ∃ j : ℕ, leadingBelowOne den fuel num e = e - j ∧ (den ≤ num * 10 ^ j ∨ j = fuel) := by
  induction fuel generalizing num e with
  | zero => exact ⟨0, by rw [leadingBelowOne, Nat.cast_zero, sub_zero], .inr rfl⟩
  | succ fuel ih =>
    unfold leadingBelowOne
    split
    · next hle => exact ⟨0, by rw [Nat.cast_zero, sub_zero], .inl (by rwa [pow_zero, mul_one])⟩
    · obtain ⟨j, heq, hj⟩ := ih (num * 10) (e - 1)
      refine ⟨j + 1, by rw [heq]; omega, hj.imp ?_ (congrArg (· + 1))⟩
      intro hle
      rwa [pow_succ', ← mul_assoc]

/-- The number has no more digits before the point than are counted. -/
theorem ten_zpow_leadingExponent_le {num : ℕ} (hden : 0 < den)
    (hsmall : (10 : ℚ) ^ (-400 : ℤ) ≤ num / den) :
    (10 : ℚ) ^ leadingExponent num den ≤ num / den := by
  have hpos : (0 : ℚ) < den := by exact_mod_cast hden
  unfold leadingExponent
  split
  · next hle =>
    have hquotient : num / den ≠ 0 := (Nat.div_pos hle hden).ne'
    exact (ten_zpow_digitCount_bounds hquotient).1.trans Nat.cast_div_le
  · obtain ⟨j, heq, hle | rfl⟩ := leadingBelowOne_spec den 400 num 0
    · rw [heq, zero_sub, zpow_neg, zpow_natCast, inv_le_iff_one_le_mul₀ (by positivity),
        div_mul_eq_mul_div, one_le_div hpos]
      exact_mod_cast hle
    · rw [heq]
      exact hsmall

/-! ### Doubles -/

variable {d : Double}

/-- A double is not so small that its first digit is not found. -/
theorem Canonical.ten_zpow_le (hd : d.Canonical) (hzero : d.mantissa ≠ 0) :
    (10 : ℚ) ^ (-400 : ℤ) ≤ d.mantissa * 2 ^ d.exponent := by
  have hone : (1 : ℚ) ≤ d.mantissa := by exact_mod_cast Nat.one_le_iff_ne_zero.mpr hzero
  have hmin := hd.least
  unfold minExponent at hmin
  calc (10 : ℚ) ^ (-400 : ℤ) ≤ 10 ^ (-330 : ℤ) := (ten_zpow_lt_iff.mpr (by decide)).le
    _ ≤ 2 ^ (-1080 : ℤ) := ten_zpow_neg_lt_two_zpow_neg.le
    _ ≤ 2 ^ d.exponent := two_zpow_le_iff.mpr (by omega)
    _ ≤ d.mantissa * 2 ^ d.exponent := le_mul_of_one_le_left (two_zpow_pos _).le hone

theorem covers_of_between {x : ℚ}
    (h : Between ((d.mantissa - d.reach) * 2 ^ d.exponent) ((d.mantissa + 1 / 2) * 2 ^ d.exponent)
      (d.mantissa % 2 = 0) x) : d.Covers x := by
  have hpos := two_zpow_pos d.exponent
  unfold Covers
  rw [lt_div_iff₀ hpos, div_lt_iff₀ hpos, le_div_iff₀ hpos, div_le_iff₀ hpos]
  exact h.imp_right fun h => ⟨of_decide_eq_true h.1, h.2⟩

/-- The double, in a unit a quarter as large as that of its last place. -/
def middle (d : Double) : ℕ × ℕ := fraction (4 * d.mantissa) 2 (d.exponent - 2)

/-- The ways from there to the ends. -/
def lowWay (d : Double) : ℕ :=
  if d.mantissa = 2 ^ 52 ∧ minExponent < d.exponent then 2 * Nat.pow 2 (d.exponent - 2).toNat / 2
  else 2 * Nat.pow 2 (d.exponent - 2).toNat

def highWay (d : Double) : ℕ := 2 * Nat.pow 2 (d.exponent - 2).toNat

theorem shortest_eq (hzero : d.mantissa ≠ 0) :
    d.shortest =
      let found := shortestFrom (d.middle.1 - d.lowWay) d.middle.1 (d.middle.1 + d.highWay)
        d.middle.2 (d.mantissa % 2 = 0) 18 (leadingExponent d.middle.1 d.middle.2)
      withoutZeros 20 found.1 found.2 := by
  rw [shortest, if_neg hzero]
  rfl

theorem middle_eq (d : Double) : (d.middle.1 : ℚ) / d.middle.2 = d.mantissa * 2 ^ d.exponent := by
  rw [middle, fraction_value]
  push_cast
  rw [zpow_sub₀ two_ne_zero]
  ring

theorem unit_eq (d : Double) :
    ((Nat.pow 2 (d.exponent - 2).toNat : ℕ) : ℚ) / d.middle.2 = 2 ^ d.exponent / 4 := by
  have hpow := pow_toNat_div 2 (d.exponent - 2)
  rw [middle, fraction, Nat.pow_eq, Nat.pow_eq]
  push_cast
  rw [hpow, zpow_sub₀ two_ne_zero]
  norm_num

theorem lowWay_eq (d : Double) : (d.lowWay : ℚ) / d.middle.2 = d.reach * 2 ^ d.exponent := by
  have hunit := unit_eq d
  unfold lowWay reach
  split_ifs
  · rw [Nat.mul_div_cancel_left _ two_pos, hunit]
    ring
  · rw [Nat.cast_mul, mul_div_assoc, hunit]
    push_cast
    ring

theorem highWay_eq (d : Double) : (d.highWay : ℚ) / d.middle.2 = 1 / 2 * 2 ^ d.exponent := by
  rw [highWay, Nat.cast_mul, mul_div_assoc, unit_eq]
  push_cast
  ring

theorem lowWay_le (hzero : d.mantissa ≠ 0) : d.lowWay ≤ d.middle.1 := by
  have hle : d.lowWay ≤ 2 * Nat.pow 2 (d.exponent - 2).toNat := by
    unfold lowWay
    split_ifs
    · exact Nat.div_le_self _ _
    · exact le_rfl
  refine hle.trans (Nat.mul_le_mul_right _ ?_)
  omega

/-- The shortest digits of a double are near enough to it. -/
theorem covers_shortest (hd : d.Canonical) (hzero : d.mantissa ≠ 0) :
    d.Covers (d.shortest.1 * 10 ^ d.shortest.2) := by
  have hden : 0 < d.middle.2 := fraction_den_pos _ two_pos _
  have hlow : ((d.middle.1 - d.lowWay : ℕ) : ℚ) / d.middle.2 =
      (d.mantissa - d.reach) * 2 ^ d.exponent := by
    rw [Nat.cast_sub (lowWay_le hzero), sub_div, middle_eq, lowWay_eq, sub_mul]
  have hhigh : ((d.middle.1 + d.highWay : ℕ) : ℚ) / d.middle.2 =
      (d.mantissa + 1 / 2) * 2 ^ d.exponent := by
    rw [Nat.cast_add, add_div, middle_eq, highWay_eq, add_mul]
  have hmiddle := middle_eq d
  -- the seventeenth digit counts less than half of the way to an end
  have hstep : (10 : ℚ) ^ (leadingExponent d.middle.1 d.middle.2 - (17 : ℕ)) / 2 <
      1 / 4 * 2 ^ d.exponent := by
    have hfirst := ten_zpow_leadingExponent_le hden (hmiddle ▸ hd.ten_zpow_le hzero)
    rw [hmiddle] at hfirst
    have hmantissa : (d.mantissa : ℚ) ≤ 2 ^ 53 := by exact_mod_cast hd.mantissa_lt.le
    have hlarge : (d.mantissa : ℚ) * 2 ^ d.exponent ≤ 2 ^ 53 * 2 ^ d.exponent :=
      mul_le_mul_of_nonneg_right hmantissa (two_zpow_pos _).le
    have hpos := two_zpow_pos d.exponent
    rw [zpow_sub₀ (by norm_num), zpow_natCast, div_div, div_lt_iff₀ (by norm_num)]
    linarith
  have hreach : 1 / 4 ≤ d.reach := by
    unfold reach
    split_ifs
    · exact le_rfl
    · norm_num
  have hsome : (onGrid? (d.middle.1 - d.lowWay) d.middle.1 (d.middle.1 + d.highWay) d.middle.2
      (d.mantissa % 2 = 0) (leadingExponent d.middle.1 d.middle.2 - (17 : ℕ))).isSome := by
    have hpos := two_zpow_pos d.exponent
    refine onGrid?_isSome hden ?_ ?_
    · rw [hmiddle, hlow]
      have hway := mul_le_mul_of_nonneg_right hreach hpos.le
      linarith
    · rw [hmiddle, hhigh]
      linarith
  rw [shortest_eq hzero, withoutZeros_value]
  apply covers_of_between
  rw [← hlow, ← hhigh]
  exact between_shortestFrom hden (by decide : 17 < 18) hsome

/-- The double nearest to a tenth. -/
example : shortest ⟨false, 7205759403792794, -56⟩ = (1, -1) := by decide +kernel

end LineSieve.Decimal.Double
