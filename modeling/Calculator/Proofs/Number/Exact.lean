import Calculator.Proofs.Number.Rounding

/-!
Exact arithmetic.

A double is the nearest one to the result of an operation, so where some double has the very number
that two operands add up to, or whose product they have, the result is that number. This is shown
here for sums, differences, products and negations. Among the numbers of doubles are all integers up
to `2 ^ 53`.

* `rational?`: the number of a finite double.
* `Representable`, `representable_intCast`: the numbers of doubles, and integers among them.
* `roundWithAccuracy_of_normalized`, `round_of_normalized`: where rounding has nothing to do.
* `rational?_add`, `rational?_sub`, `rational?_mul`, `rational?_neg`: the operations.
-/

namespace Calculator.Number

open Float.Model (UnpackedFloat)
open Float.Model.Format (binary64)
open Float.Model.UnpackedFloat

/-! ### The numbers of doubles -/

/-- The number of a significand and an exponent with a sign. -/
def signedValue (negative : Bool) (m : Nat) (e : Int) : ℚ :=
  if negative then -(m * 2 ^ e) else m * 2 ^ e

/-- The number that parts stand for. -/
def Parts.value? : Parts → Option ℚ
  | .finite negative m e => some (signedValue negative m e)
  | _ => none

/-- The number of a finite double. -/
def rational? (x : Float) : Option ℚ := (parts x).value?

example : rational? 0.1 = some (3602879701896397 / 2 ^ 55) := by decide +kernel

/-- A number is representable if a double has it, up to the sign. -/
def Representable (q : ℚ) : Prop := ∃ m e, Normalized m e ∧ |q| = m * 2 ^ e

theorem abs_signedValue (negative : Bool) (m : Nat) (e : Int) :
    |signedValue negative m e| = m * 2 ^ e := by
  have nonnegative : (0 : ℚ) ≤ m * 2 ^ e := by positivity
  cases negative <;> simp [signedValue, abs_of_nonneg nonnegative]

/-- There are two doubles for zero. -/
theorem eq_zero_of_rational? {x : Float} (zero : rational? x = some 0) : x = 0.0 ∨ x = -0.0 := by
  unfold rational? at zero
  cases taken : parts x with
  | finite negative m e =>
    rw [taken, Parts.value?, Option.some.injEq] at zero
    have normalized := normalized_of_parts taken
    have noSignificand : m = 0 := by
      have magnitude := abs_signedValue negative m e
      rw [zero, abs_zero, eq_comm, mul_eq_zero_iff_right (zpow_pos two_pos e).ne'] at magnitude
      exact_mod_cast magnitude
    obtain rfl : e = -1074 := normalized.leading.resolve_right (by omega)
    cases negative with
    | false => exact .inl (parts_injective (taken.trans (by rw [noSignificand]; decide +kernel)))
    | true => exact .inr (parts_injective (taken.trans (by rw [noSignificand]; decide +kernel)))
  | _ =>
    rw [taken] at zero
    cases zero

/-- **An integer up to `2 ^ 53` is the number of a double.** -/
theorem representable_intCast {n : Int} (small : |(n : ℚ)| ≤ 2 ^ 53) : Representable n := by
  have magnitude : |(n : ℚ)| = (n.natAbs : ℚ) := by
    rw [← Int.cast_abs, Int.abs_eq_natAbs]
    rfl
  rw [magnitude] at small
  obtain ⟨m, e, normalized, value⟩ := exists_normalized (n := n.natAbs) (by exact_mod_cast small)
  exact ⟨m, e, normalized, magnitude.trans value⟩

/-! ### Rounding -/

section

variable {m k : Nat} {e f : Int} {sign : Sign}

/-- Two ways to write one number as a significand and an exponent differ by a shift. -/
theorem eq_shift (same : (m : ℚ) * 2 ^ e = k * 2 ^ f) (below : e ≤ f) :
    m = k * 2 ^ (f - e).toNat := by
  have split : f = e + (f - e).toNat := by omega
  rw [split, zpow_add₀ two_ne_zero, mul_left_comm, mul_comm, zpow_natCast] at same
  exact_mod_cast mul_left_cancel₀ (zpow_pos two_pos e).ne' same

theorem log2_shift (positive : 0 < k) (n : Nat) : (k * 2 ^ n).log2 = k.log2 + n := by
  obtain ⟨low, high⟩ := (Nat.log2_eq_iff positive.ne').mp (rfl : k.log2 = _)
  rw [Nat.log2_eq_iff (Nat.mul_pos positive (by positivity)).ne', Nat.pow_add, add_right_comm,
    Nat.pow_add]
  exact ⟨Nat.mul_le_mul_right _ low, Nat.mul_lt_mul_of_pos_right high (by positivity)⟩

/-- A normalized number has the exponent that rounding aims at. -/
theorem targetExponent_of_normalized (normalized : Normalized k f) (positive : 0 < k) :
    binary64.targetExponent (Float.Model.totalExponent k f) = f := by
  obtain ⟨fits, least, greatest, leading⟩ := normalized
  have below : k.log2 < 53 := (Nat.log2_lt positive.ne').mpr fits
  have above : 2 ^ 52 ≤ k → 52 ≤ k.log2 := (Nat.le_log2 positive.ne').mpr
  simp only [Float.Model.Format.targetExponent, Float.Model.totalExponent,
    Float.Model.Format.mantissaBits, Float.Model.Format.minExponent]
  omega

/-- The exponent that rounding aims at depends on the number alone. -/
theorem totalExponent_eq (positive : 0 < m) (positive' : 0 < k)
    (same : (m : ℚ) * 2 ^ e = k * 2 ^ f) :
    Float.Model.totalExponent m e = Float.Model.totalExponent k f := by
  simp only [Float.Model.totalExponent]
  obtain below | above := le_total e f
  · rw [eq_shift same below, log2_shift positive']
    omega
  · rw [eq_shift same.symm above, log2_shift positive]
    omega

/-- A significand with zeros at its end loses nothing when they are shifted out. -/
theorem shiftRight_exact (k n : Nat) :
    (⟨k * 2 ^ n, false, false⟩ : ExtendedMantissa) >>> n = ⟨k, false, false⟩ := by
  show Nat.repeat ExtendedMantissa.shiftRightOne n _ = _
  induction n generalizing k with
  | zero => simp [Nat.repeat]
  | succ n ih =>
    have step : Nat.repeat ExtendedMantissa.shiftRightOne n ⟨k * 2 * 2 ^ n, false, false⟩ = _ :=
      ih (k * 2)
    rw [Nat.repeat, pow_succ', ← mul_assoc, step]
    simp [ExtendedMantissa.shiftRightOne]

/-- Shifting to the exponent that rounding aims at gives a normalized number as such. -/
theorem shiftToTargetExponent_of_normalized (normalized : Normalized k f) (positive : 0 < k)
    (nonzero : 0 < m) (same : (m : ℚ) * 2 ^ e = k * 2 ^ f) (below : e ≤ f) :
    shiftToTargetExponent binary64 m e .exact = (⟨k, false, false⟩, f) := by
  rw [shiftToTargetExponent, totalExponent_eq nonzero positive same,
    targetExponent_of_normalized normalized positive]
  simp only [shiftToExponent, ExtendedMantissa.ofMantissaAndAccuracy, Prod.mk.injEq]
  constructor
  · rw [eq_shift same below]
    exact shiftRight_exact k _
  · omega

/-- Rounding has nothing to do for a normalized number with zeros behind its significand. -/
theorem roundWithAccuracy_of_normalized (normalized : Normalized k f) (positive : 0 < k)
    (nonzero : 0 < m) (same : (m : ℚ) * 2 ^ e = k * 2 ^ f) (below : e ≤ f) :
    roundWithAccuracy binary64 sign m e .exact = .finite sign k f positive := by
  have first := shiftToTargetExponent_of_normalized normalized positive nonzero same below
  have second := shiftToTargetExponent_of_normalized normalized positive positive rfl le_rfl
  have rounded : (⟨k, false, false⟩ : ExtendedMantissa).roundedMantissa = k := rfl
  simp only [roundWithAccuracy, first, rounded, second]
  exact dif_neg positive.ne'

/-- Decreasing the exponent of a number does not change it. -/
theorem decreaseExponent_value (m : Nat) (e target : Int) :
    ((decreaseExponent m e target).1 : ℚ) * 2 ^ min e target = m * 2 ^ e := by
  have split : e = (e - target).toNat + min e target := by omega
  rw [decreaseExponent, Nat.shiftLeft_eq, Nat.cast_mul, Nat.cast_pow, Nat.cast_ofNat, mul_assoc,
    ← zpow_natCast, ← zpow_add₀ two_ne_zero, ← split]

/-- Rounding a number that a double has gives the number. -/
theorem round_of_normalized (normalized : Normalized k f) (positive : 0 < k)
    (nonzero : 0 < m) (same : (m : ℚ) * 2 ^ e = k * 2 ^ f) :
    Float.Model.UnpackedFloat.round binary64 sign m e = .finite sign k f positive := by
  rw [Float.Model.UnpackedFloat.round, totalExponent_eq nonzero positive same,
    targetExponent_of_normalized normalized positive]
  have value := (decreaseExponent_value m e f).trans same
  have exponent : e - (e - f).toNat = min e f := by omega
  simp only [decreaseExponent, exponent, Nat.shiftLeft_eq] at *
  exact roundWithAccuracy_of_normalized normalized positive
    (Nat.mul_pos nonzero (by positivity)) value (min_le_right e f)

end

/-! ### Operations on unpacked doubles -/

/-- The unpacked double is that of a double, and has this number. -/
def HasValue (unpacked : UnpackedFloat) (q : ℚ) : Prop :=
  Canonical unpacked ∧ (Parts.ofUnpacked unpacked).value? = some q

section

variable {x y : UnpackedFloat} {a b q : ℚ} {sign sign' : Sign} {m k : Nat} {e f : Int}

@[simp] theorem signedValue_zero (negative : Bool) (e : Int) : signedValue negative 0 e = 0 := by
  simp [signedValue]

theorem signedValue_congr (same : (m : ℚ) * 2 ^ e = k * 2 ^ f) {negative : Bool} :
    signedValue negative m e = signedValue negative k f := by
  rw [signedValue, signedValue, same]

theorem signedValue_neg (sign : Sign) (m : Nat) (e : Int) :
    signedValue (isNegative (-sign)) m e = -signedValue (isNegative sign) m e := by
  cases sign
  · exact (neg_neg _).symm
  · rfl

theorem signedValue_mul (sign sign' : Sign) (m k : Nat) (e f : Int) :
    signedValue (isNegative (sign * sign')) (m * k) (e + f) =
      signedValue (isNegative sign) m e * signedValue (isNegative sign') k f := by
  have magnitude : ((m * k : Nat) : ℚ) * 2 ^ (e + f) = m * 2 ^ e * (k * 2 ^ f) := by
    rw [Nat.cast_mul, zpow_add₀ two_ne_zero, mul_mul_mul_comm]
  cases sign <;> cases sign'
  · exact magnitude.trans (neg_mul_neg _ _).symm
  · exact (congrArg Neg.neg magnitude).trans (neg_mul _ _).symm
  · exact (congrArg Neg.neg magnitude).trans (mul_neg _ _).symm
  · exact magnitude

/-- The number of a signed significand. -/
theorem apply_mul (sign : Sign) (m : Nat) (e : Int) :
    ((sign.apply m : Int) : ℚ) * 2 ^ e = signedValue (isNegative sign) m e := by
  cases sign
  · simp [Sign.apply, isNegative, signedValue]
  · simp [Sign.apply, isNegative, signedValue]

theorem hasValue_zero (sign : Sign) : HasValue (.zero sign) 0 :=
  ⟨trivial, congrArg some (signedValue_zero _ _)⟩

/-- An unpacked double with a number is zero or has a significand. -/
theorem HasValue.cases (has : HasValue x a) :
    (∃ sign, x = .zero sign ∧ a = 0) ∨
      ∃ sign m e positive, x = .finite sign m e positive ∧ Normalized m e ∧
        a = signedValue (isNegative sign) m e := by
  obtain ⟨canonical, value⟩ := has
  cases x with
  | zero sign =>
    exact .inl ⟨sign, rfl, (Option.some.inj value).symm.trans (signedValue_zero _ _)⟩
  | finite sign m e positive =>
    exact .inr ⟨sign, m, e, positive, rfl, canonical, (Option.some.inj value).symm⟩
  | _ => cases value

/-- What is equal to a normalized number of the same sign has the same double. -/
theorem hasValue_finite (normalized : Normalized k f) (positive : 0 < k)
    (same : (m : ℚ) * 2 ^ e = k * 2 ^ f) :
    HasValue (.finite sign k f positive) (signedValue (isNegative sign) m e) := by
  rw [signedValue_congr same]
  exact ⟨normalized, rfl⟩

/-- A number other than zero that a double has can be normalized. -/
theorem Representable.exists_normalized {negative : Bool} (nonzero : 0 < m)
    (representable : Representable (signedValue negative m e)) :
    ∃ k f, Normalized k f ∧ 0 < k ∧ (m : ℚ) * 2 ^ e = k * 2 ^ f := by
  obtain ⟨k, f, normalized, same⟩ := representable
  rw [abs_signedValue] at same
  refine ⟨k, f, normalized, Nat.pos_of_ne_zero ?_, same⟩
  rintro rfl
  have isZero : (m : ℚ) * 2 ^ e = 0 := by simpa using same
  have isPositive : (0 : ℚ) < m * 2 ^ e := by positivity
  exact isPositive.ne' isZero

theorem hasValue_round (nonzero : 0 < m)
    (representable : Representable (signedValue (isNegative sign) m e)) :
    HasValue (Float.Model.UnpackedFloat.round binary64 sign m e)
      (signedValue (isNegative sign) m e) := by
  obtain ⟨k, f, normalized, positive, same⟩ := representable.exists_normalized nonzero
  rw [round_of_normalized normalized positive nonzero same]
  exact hasValue_finite normalized positive same

/-- Normalizing a number that a double has gives the number. -/
theorem hasValue_normalize {mantissa : Int} (representable : Representable q)
    (value : (mantissa : ℚ) * 2 ^ e = q) (sign : Sign) :
    HasValue (Float.Model.UnpackedFloat.normalize binary64 mantissa e sign) q := by
  unfold Float.Model.UnpackedFloat.normalize
  split
  case h_1 less =>
    have negative : mantissa < 0 := compare_lt_iff_lt.mp less
    have isValue : q = signedValue (isNegative .negative) (-mantissa).toNat e := by
      rw [← apply_mul, ← value, Sign.apply, Int.toNat_of_nonneg (by omega), neg_neg]
    rw [isValue] at representable ⊢
    exact hasValue_round (by omega) representable
  case h_2 equal =>
    obtain rfl : mantissa = 0 := compare_eq_iff_eq.mp equal
    obtain rfl : 0 = q := by simpa using value
    exact hasValue_zero sign
  case h_3 greater =>
    have positive : 0 < mantissa := compare_gt_iff_gt.mp greater
    have isValue : q = signedValue (isNegative .positive) mantissa.toNat e := by
      rw [← apply_mul, ← value, Sign.apply, Int.toNat_of_nonneg (by omega)]
    rw [isValue] at representable ⊢
    exact hasValue_round (by omega) representable

theorem HasValue.add (hasX : HasValue x a) (hasY : HasValue y b)
    (representable : Representable (a + b)) :
    HasValue (UnpackedFloat.add binary64 x y) (a + b) := by
  obtain ⟨sign, rfl, rfl⟩ | ⟨sign, m, e, positive, rfl, -, rfl⟩ := hasX.cases
  · obtain ⟨sign', rfl, rfl⟩ | ⟨sign', k, f, positive', rfl, -, rfl⟩ := hasY.cases
    · rw [add_zero, UnpackedFloat.add]
      split <;> exact hasValue_zero _
    · rw [zero_add]
      exact hasY
  · obtain ⟨sign', rfl, rfl⟩ | ⟨sign', k, f, positive', rfl, -, rfl⟩ := hasY.cases
    · rw [add_zero]
      exact hasX
    · refine hasValue_normalize representable ?_ .positive
      have left := decreaseExponent_value m e (min e f)
      have right := decreaseExponent_value k f (min e f)
      rw [min_eq_right (min_le_left e f), decreaseExponent] at left
      rw [min_eq_right (min_le_right e f), decreaseExponent] at right
      rw [Int.cast_add, add_mul, apply_mul, apply_mul, signedValue_congr left,
        signedValue_congr right]

theorem HasValue.neg (has : HasValue x a) : HasValue x.neg (-a) := by
  obtain ⟨sign, rfl, rfl⟩ | ⟨sign, m, e, positive, rfl, normalized, rfl⟩ := has.cases
  · rw [neg_zero]
    exact hasValue_zero _
  · rw [← signedValue_neg]
    exact ⟨normalized, rfl⟩

/-- A difference is a sum with the negation. -/
theorem sub_eq_add_neg_unpacked (x y : UnpackedFloat) :
    UnpackedFloat.sub binary64 x y = UnpackedFloat.add binary64 x y.neg := by
  have signed (sign sign' : Sign) (m k : Nat) :
      sign.apply m - sign'.apply k = sign.apply m + (-sign').apply k := by
    cases sign' with
    | negative => exact Int.sub_eq_add_neg.trans (by rw [Sign.apply, neg_neg]; rfl)
    | positive => exact Int.sub_eq_add_neg
  cases x <;> cases y <;> first | rfl | simp only [UnpackedFloat.sub, UnpackedFloat.add,
    UnpackedFloat.neg, signed]

/-- The exponent of a product is at least the sum of the exponents. -/
theorem Normalized.add_exponents_le {l : Nat} {g : Int} (normal : Normalized m e)
    (normal' : Normalized k f) (product : Normalized l g) (positive : 0 < m) (positive' : 0 < k)
    (same : ((m * k : Nat) : ℚ) * 2 ^ (e + f) = l * 2 ^ g) : e + f ≤ g := by
  by_contra above
  have least := product.least
  have shifted := eq_shift same.symm (not_le.mp above).le
  have even : 2 ≤ 2 ^ (e + f - g).toNat := Nat.le_self_pow (by omega) 2
  -- Not both operands have the least exponent, so one of them has a full significand.
  have full : 2 ^ 52 ≤ m * k := by
    obtain isLeast | full := normal.leading
    · obtain isLeast' | full' := normal'.leading
      · omega
      · exact full'.trans (Nat.le_mul_of_pos_left k positive)
    · exact full.trans (Nat.le_mul_of_pos_right m positive')
  have long : 2 ^ 52 * 2 ≤ l := by
    rw [shifted]
    exact Nat.mul_le_mul full even
  exact absurd product.fits (not_lt.mpr long)

theorem HasValue.mul (hasX : HasValue x a) (hasY : HasValue y b)
    (representable : Representable (a * b)) :
    HasValue (UnpackedFloat.mul binary64 x y) (a * b) := by
  obtain ⟨sign, rfl, rfl⟩ | ⟨sign, m, e, positive, rfl, normal, rfl⟩ := hasX.cases
  · rw [zero_mul]
    obtain ⟨sign', rfl, rfl⟩ | ⟨sign', k, f, positive', rfl, -, rfl⟩ := hasY.cases
    · exact hasValue_zero _
    · exact hasValue_zero _
  · obtain ⟨sign', rfl, rfl⟩ | ⟨sign', k, f, positive', rfl, normal', rfl⟩ := hasY.cases
    · rw [mul_zero]
      exact hasValue_zero _
    · rw [← signedValue_mul] at representable ⊢
      have nonzero := Nat.mul_pos positive positive'
      obtain ⟨l, g, normalized, positive'', same⟩ := representable.exists_normalized nonzero
      have below : e + f ≤ g :=
        normal.add_exponents_le normal' normalized positive positive' same
      rw [UnpackedFloat.mul,
        roundWithAccuracy_of_normalized normalized positive'' nonzero same below]
      exact hasValue_finite normalized positive'' same

end

/-! ### Operations on doubles -/

section

variable {x y : Float} {a b : ℚ}

theorem hasValue_unpack (exact : rational? x = some a) : HasValue x.toModel.unpack a :=
  ⟨canonical_unpack _, by rw [← parts_eq_ofUnpacked]; exact exact⟩

theorem rational?_pack {unpacked : UnpackedFloat} (has : HasValue unpacked a) :
    rational? (.ofModel (.pack unpacked)) = some a := by
  rw [rational?, parts_pack has.1]
  exact has.2

/-- **A sum that a double has is exact.** -/
theorem rational?_add (left : rational? x = some a) (right : rational? y = some b)
    (representable : Representable (a + b)) : rational? (x + y) = some (a + b) :=
  rational?_pack ((hasValue_unpack left).add (hasValue_unpack right) representable)

/-- **A difference that a double has is exact.** -/
theorem rational?_sub (left : rational? x = some a) (right : rational? y = some b)
    (representable : Representable (a - b)) : rational? (x - y) = some (a - b) := by
  rw [sub_eq_add_neg] at representable ⊢
  have has := (hasValue_unpack left).add (hasValue_unpack right).neg representable
  rw [← sub_eq_add_neg_unpacked] at has
  exact rational?_pack has

/-- **A product that a double has is exact.** -/
theorem rational?_mul (left : rational? x = some a) (right : rational? y = some b)
    (representable : Representable (a * b)) : rational? (x * y) = some (a * b) :=
  rational?_pack ((hasValue_unpack left).mul (hasValue_unpack right) representable)

/-- **A negation is exact.** -/
theorem rational?_neg (operand : rational? x = some a) : rational? (-x) = some (-a) :=
  rational?_pack (hasValue_unpack operand).neg

end

end Calculator.Number
