import Calculator.Number.Decimal
import Calculator.Proofs.Number.Parts
import Mathlib.Algebra.Order.Floor.Semifield
import Mathlib.Data.Rat.Floor
import Mathlib.Algebra.Order.Field.Power

/-!
The double nearest to a fraction.

Fractions are not reduced, but only the number that a fraction stands for counts when it is rounded.
A number that some double has is rounded to that double.

* `exists_normalized`: doubles have all naturals up to `2 ^ 53`.
* `Fraction.value`: the number that a fraction stands for.
* `Fraction.log2_eq_iff`: the exponent of the leading bit.
* `Fraction.doubleBits_congr`: equal fractions have the same nearest double.
* `Fraction.doubleBits_of_value`: the number of a double is rounded to the double.
* `Fraction.le_doubleBits`: large numbers are rounded to doubles with a large exponent.
-/

namespace Calculator.Number

/-- A natural up to `2 ^ 53` is the number of a double. -/
theorem exists_normalized {n : Nat} (small : n ≤ 2 ^ 53) :
    ∃ m e, Normalized m e ∧ (n : ℚ) = m * 2 ^ e := by
  obtain rfl | positive := n.eq_zero_or_pos
  · exact ⟨0, -1074, by constructor <;> simp, by simp⟩
  · obtain below | rfl := small.lt_or_eq
    · -- The significand is the number shifted up to its full length.
      have length : n.log2 ≤ 52 := Nat.lt_succ_iff.mp ((Nat.log2_lt positive.ne').mpr below)
      obtain ⟨low, high⟩ := (Nat.log2_eq_iff positive.ne').mp (rfl : n.log2 = _)
      have full : 2 ^ n.log2 * 2 ^ (52 - n.log2) = 2 ^ 52 := by
        rw [← Nat.pow_add, Nat.add_sub_cancel' length]
      refine ⟨n * 2 ^ (52 - n.log2), n.log2 - 52, ⟨?bound, by omega, by omega, .inr ?full⟩, ?value⟩
      case bound =>
        calc n * 2 ^ (52 - n.log2) < 2 ^ (n.log2 + 1) * 2 ^ (52 - n.log2) :=
              Nat.mul_lt_mul_of_pos_right high (by positivity)
          _ = 2 ^ 53 := by rw [pow_succ, mul_right_comm, full]; rfl
      case full =>
        calc 2 ^ 52 = 2 ^ n.log2 * 2 ^ (52 - n.log2) := full.symm
          _ ≤ n * 2 ^ (52 - n.log2) := Nat.mul_le_mul_right _ low
      case value =>
        have shift : (n.log2 : Int) - 52 = -(52 - n.log2 : Nat) := by omega
        rw [shift, zpow_neg, zpow_natCast, Nat.cast_mul, Nat.cast_pow, Nat.cast_ofNat,
          mul_inv_cancel_right₀ (by positivity)]
    · exact ⟨2 ^ 52, 1, by constructor <;> simp, by norm_num⟩

namespace Fraction

variable {q r : Fraction}

/-- The number that a fraction stands for. -/
def value (q : Fraction) : ℚ := q.num / q.den

@[simp] theorem value_ofNat (n : Nat) : (ofNat n).value = n := by
  simp [value, ofNat]

theorem value_scale (q : Fraction) {base : Nat} (positive : 0 < base) (exponent : Int) :
    (q.scale base exponent).value = q.value * (base : ℚ) ^ exponent := by
  have nonzero : (base : ℚ) ≠ 0 := by exact_mod_cast positive.ne'
  obtain ⟨n, rfl | rfl⟩ := exponent.eq_nat_or_neg
  · simp [value, scale, mul_div_right_comm]
  · simp [value, scale, div_eq_mul_inv, mul_comm, mul_left_comm]

theorem den_scale_pos (positive : 0 < q.den) {base : Nat} (basePositive : 0 < base)
    (exponent : Int) : 0 < (q.scale base exponent).den :=
  Nat.mul_pos positive (Nat.pow_pos basePositive)

theorem value_eq_zero (positive : 0 < q.den) : q.value = 0 ↔ q.num = 0 := by
  have nonzero : (q.den : ℚ) ≠ 0 := by exact_mod_cast positive.ne'
  simp [value, nonzero]

theorem floor_eq (q : Fraction) : q.floor = ⌊q.value⌋₊ := (Nat.floor_div_eq_div _ _).symm

/-! ### Rounding to a natural -/

/-- Only the number that a fraction stands for counts when it is rounded. -/
theorem round_congr (positive : 0 < q.den) (positive' : 0 < r.den) (same : q.value = r.value) :
    q.round = r.round := by
  have cross : q.num * r.den = r.num * q.den := by
    have nonzero : (q.den : ℚ) ≠ 0 := by exact_mod_cast positive.ne'
    have nonzero' : (r.den : ℚ) ≠ 0 := by exact_mod_cast positive'.ne'
    rw [value, value, div_eq_div_iff nonzero nonzero'] at same
    exact_mod_cast same
  have floor : q.floor = r.floor := by rw [floor_eq, floor_eq, same]
  have middle : q.compareMiddle = r.compareMiddle := by
    have scaled (a b : Nat) {c : Nat} (positive : 0 < c) :
        compare a b = compare (a * c) (b * c) := by
      simp only [Nat.compare_eq_ite_lt, Nat.mul_lt_mul_right positive]
    have rest : q.num % q.den * r.den = r.num % r.den * q.den := by
      rw [← Nat.mul_mod_mul_right, ← Nat.mul_mod_mul_right, cross, mul_comm q.den]
    rw [compareMiddle, compareMiddle, scaled _ _ positive', scaled _ r.den positive, mul_assoc,
      mul_assoc, rest, mul_comm q.den]
  rw [round, round, middle, floor]

theorem round_of_value {n : Nat} (positive : 0 < q.den) (natural : q.value = n) : q.round = n := by
  have isNatural : (ofNat n).round = n := by
    rw [round, compareMiddle, ofNat, floor, Nat.mod_one, Nat.div_one]
    rfl
  rw [← isNatural]
  exact round_congr positive Nat.one_pos (by simp [natural])

theorem floor_le_round (q : Fraction) : q.floor ≤ q.round := by
  rw [round]
  split <;> omega

/-! ### The leading bit -/

/-- A power of two below a number, and the next one above it, are the only such ones. -/
theorem exponent_unique {v : ℚ} {k l : Int} (low : 2 ^ k ≤ v) (high : v < 2 ^ (k + 1))
    (low' : 2 ^ l ≤ v) (high' : v < 2 ^ (l + 1)) : k = l := by
  have above : k < l + 1 := (zpow_lt_zpow_iff_right₀ one_lt_two).mp (low.trans_lt high')
  have above' : l < k + 1 := (zpow_lt_zpow_iff_right₀ one_lt_two).mp (low'.trans_lt high)
  omega

/-- The logarithm is the exponent of the greatest power of two that is not above the number. -/
theorem log2_spec (numerator : 0 < q.num) (positive : 0 < q.den) :
    2 ^ q.log2 ≤ q.value ∧ q.value < 2 ^ (q.log2 + 1) := by
  have bounds {n : Nat} (nonzero : 0 < n) : (2 : ℚ) ^ (n.log2 : Int) ≤ n ∧
      (n : ℚ) < 2 ^ (n.log2 + 1 : Int) := by
    obtain ⟨low, high⟩ := (Nat.log2_eq_iff nonzero.ne').mp rfl
    constructor
    · exact_mod_cast low
    · exact_mod_cast high
  obtain ⟨lowNum, highNum⟩ := bounds numerator
  obtain ⟨lowDen, highDen⟩ := bounds positive
  have den : (0 : ℚ) < q.den := by exact_mod_cast positive
  let e : Int := q.num.log2 - q.den.log2
  -- The two logarithms leave two powers of two in question.
  have low : (2 : ℚ) ^ (e - 1) ≤ q.value := by
    rw [value, le_div_iff₀ den]
    calc (2 : ℚ) ^ (e - 1) * q.den ≤ 2 ^ (e - 1) * 2 ^ (q.den.log2 + 1 : Int) := by gcongr
      _ = 2 ^ (q.num.log2 : Int) := by rw [← zpow_add₀ two_ne_zero]; congr 1; omega
      _ ≤ q.num := lowNum
  have high : q.value < (2 : ℚ) ^ (e + 1) := by
    rw [value, div_lt_iff₀ den]
    calc (q.num : ℚ) < 2 ^ (q.num.log2 + 1 : Int) := highNum
      _ = 2 ^ (e + 1) * 2 ^ (q.den.log2 : Int) := by rw [← zpow_add₀ two_ne_zero]; congr 1; omega
      _ ≤ 2 ^ (e + 1) * q.den := by gcongr
  have restPositive : (0 : ℚ) < (q.scale 2 (-e)).den := by
    exact_mod_cast den_scale_pos positive two_pos (-e)
  have less : (q.scale 2 (-e)).num < (q.scale 2 (-e)).den ↔ q.value < 2 ^ e := by
    have scaled := value_scale q two_pos (-e)
    rw [value, div_eq_iff restPositive.ne'] at scaled
    rw [← Nat.cast_lt (α := ℚ), scaled, mul_lt_iff_lt_one_left restPositive, zpow_neg,
      ← div_eq_mul_inv, div_lt_one (zpow_pos two_pos _)]
    rfl
  rw [log2]
  split
  · next below => exact ⟨low, by rw [sub_add_cancel]; exact less.mp below⟩
  · next above => exact ⟨not_lt.mp (mt less.mpr above), high⟩

theorem log2_eq_iff (numerator : 0 < q.num) (positive : 0 < q.den) {k : Int} :
    q.log2 = k ↔ 2 ^ k ≤ q.value ∧ q.value < 2 ^ (k + 1) := by
  obtain ⟨low, high⟩ := log2_spec numerator positive
  constructor
  · rintro rfl
    exact ⟨low, high⟩
  · rintro ⟨low', high'⟩
    exact exponent_unique low high low' high'

/-! ### The nearest double -/

/-- Only the number that a fraction stands for counts for its nearest double. -/
theorem doubleBits_congr (positive : 0 < q.den) (positive' : 0 < r.den) (same : q.value = r.value) :
    q.doubleBits = r.doubleBits := by
  have zero : q.num = 0 ↔ r.num = 0 := by
    rw [← value_eq_zero positive, ← value_eq_zero positive', same]
  rw [doubleBits, doubleBits]
  by_cases isZero : q.num = 0
  · rw [if_pos isZero, if_pos (zero.mp isZero)]
  · have numerator := Nat.pos_of_ne_zero isZero
    have numerator' := Nat.pos_of_ne_zero (mt zero.mpr isZero)
    have log2 : q.log2 = r.log2 := by
      rw [log2_eq_iff numerator positive, same]
      exact log2_spec numerator' positive'
    have round (e : Int) : (q.scale 2 e).round = (r.scale 2 e).round :=
      round_congr (den_scale_pos positive two_pos e) (den_scale_pos positive' two_pos e)
        (by rw [value_scale _ two_pos, value_scale _ two_pos, same])
    simp only [if_neg isZero, if_neg (mt zero.mpr isZero), log2, round]

/-- A number that a double has is rounded to the double. -/
theorem doubleBits_of_value {m : Nat} {e : Int} (positive : 0 < q.den) (normalized : Normalized m e)
    (isValue : q.value = m * 2 ^ e) : q.doubleBits = magnitudeBits m e := by
  obtain ⟨fits, least, greatest, leading⟩ := id normalized
  rw [doubleBits]
  by_cases isZero : q.num = 0
  · have noSignificand : m = 0 := by
      have noValue := (value_eq_zero positive).mpr isZero
      rw [isValue, mul_eq_zero_iff_right (zpow_pos two_pos e).ne'] at noValue
      exact_mod_cast noValue
    obtain rfl : e = -1074 := by omega
    rw [if_pos isZero, noSignificand]
    rfl
  · have numerator := Nat.pos_of_ne_zero isZero
    have nonzero : m ≠ 0 := by
      rintro rfl
      exact isZero ((value_eq_zero positive).mp (by simpa using isValue))
    have log2 : q.log2 = m.log2 + e := by
      obtain ⟨low, high⟩ := (Nat.log2_eq_iff nonzero).mp (rfl : m.log2 = _)
      rw [log2_eq_iff numerator positive, isValue, add_right_comm, zpow_add₀ two_ne_zero,
        zpow_add₀ two_ne_zero]
      have power : (0 : ℚ) < 2 ^ e := zpow_pos two_pos e
      constructor
      · exact mul_le_mul_of_nonneg_right (by exact_mod_cast low) power.le
      · exact mul_lt_mul_of_pos_right (by exact_mod_cast high) power
    have exponent : max (q.log2 - 52) (-1074) = e := by
      have below : m.log2 < 53 := (Nat.log2_lt nonzero).mpr fits
      have above : 2 ^ 52 ≤ m → 52 ≤ m.log2 := (Nat.le_log2 nonzero).mpr
      omega
    have round : (q.scale 2 (-e)).round = m := by
      refine round_of_value (den_scale_pos positive two_pos _) ?_
      rw [value_scale _ two_pos, isValue, mul_assoc, Nat.cast_ofNat, ← zpow_add₀ two_ne_zero,
        add_neg_cancel, zpow_zero, mul_one]
    simp only [if_neg isZero, exponent, round]
    exact Nat.min_eq_left normalized.magnitudeBits_lt.le

/-- Above `2 ^ 53`, numbers are rounded to doubles with a positive exponent. -/
theorem le_doubleBits (positive : 0 < q.den) (large : 2 ^ 53 ≤ q.value) :
    1076 * leadingBit ≤ q.doubleBits := by
  have numerator : 0 < q.num := by
    refine Nat.pos_of_ne_zero fun isZero => ?_
    rw [(value_eq_zero positive).mpr isZero] at large
    norm_num at large
  obtain ⟨low, high⟩ := log2_spec numerator positive
  have between : (2 : ℚ) ^ (53 : Int) < 2 ^ (q.log2 + 1) :=
    lt_of_le_of_lt (by exact_mod_cast large) high
  have above : 53 < q.log2 + 1 := (zpow_lt_zpow_iff_right₀ one_lt_two).mp between
  have exponent : max (q.log2 - 52) (-1074) = q.log2 - 52 := by omega
  have round : leadingBit ≤ (q.scale 2 (-(q.log2 - 52))).round := by
    refine le_trans ?_ (floor_le_round _)
    rw [floor_eq, Nat.le_floor_iff' (by decide), value_scale _ two_pos]
    calc (leadingBit : ℚ) = 2 ^ q.log2 * 2 ^ (-(q.log2 - 52)) := by
          rw [← zpow_add₀ two_ne_zero, neg_sub, add_sub_cancel]
          norm_num [leadingBit]
      _ ≤ q.value * 2 ^ (-(q.log2 - 52)) := by gcongr
  rw [doubleBits, if_neg numerator.ne', exponent, le_min_iff]
  constructor
  · simp only [leadingBit] at *
    omega
  · decide

end Fraction

end Calculator.Number
