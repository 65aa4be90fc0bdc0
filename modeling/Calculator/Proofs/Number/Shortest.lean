import Calculator.Proofs.Number.Rounding
import Mathlib.Data.List.Basic

/-!
The shortest decimal of a double.

The search for the shortest decimal goes from coarse grids to fine ones and takes none but those
that read back as the double. The grid of the naturals is among the grids it goes through, so if the
double is a natural, the search ends there at the latest, and the decimal is the natural. The other
way round, a natural reads back as no double but a natural: small ones are doubles themselves, and
the doubles near large ones have no places behind the point.

* `Decimal.value`: the number that a decimal stands for.
* `doubleBits_shortest`: the shortest decimal reads back as the double.
* `shortest_isNatural_iff`: it is a natural where the double is one.
-/

namespace Calculator.Number

/-- A number without places behind the point. -/
def IsNatural (q : ℚ) : Prop := ∃ n : Nat, q = n

/-! ### Decimals -/

/-- The number that a decimal stands for. -/
def Decimal.value (d : Decimal) : ℚ := d.digits * 10 ^ d.exponent

theorem Decimal.value_toFraction (d : Decimal) : d.toFraction.value = d.value := by
  rw [toFraction, Fraction.value_scale _ (by decide), Fraction.value_ofNat, value]
  rfl

theorem Decimal.den_toFraction_pos (d : Decimal) : 0 < d.toFraction.den :=
  Fraction.den_scale_pos Nat.one_pos (by decide) _

/-- Only the number that a decimal stands for counts when it is read. -/
theorem Decimal.doubleBits_of_value {d : Decimal} {q : Fraction} (positive : 0 < q.den)
    (same : d.value = q.value) : d.doubleBits = q.doubleBits :=
  Fraction.doubleBits_congr d.den_toFraction_pos positive (by rw [value_toFraction, same])

/-- A decimal with the number of a double reads as the double. -/
theorem Decimal.doubleBits_of_normalized {d : Decimal} {m : Nat} {e : Int}
    (normalized : Normalized m e) (isValue : d.value = m * 2 ^ e) :
    d.doubleBits = magnitudeBits m e :=
  Fraction.doubleBits_of_value d.den_toFraction_pos normalized (by rw [value_toFraction, isValue])

theorem Decimal.isNatural_of_exponent {d : Decimal} (whole : 0 ≤ d.exponent) :
    IsNatural d.value := by
  obtain ⟨k, exponent⟩ := Int.eq_ofNat_of_zero_le whole
  exact ⟨d.digits * 10 ^ k, by rw [value, exponent, zpow_natCast]; norm_cast⟩

theorem value_binaryFraction (m : Nat) (e : Int) : (binaryFraction m e).value = m * 2 ^ e := by
  rw [binaryFraction, Fraction.value_scale _ two_pos, Fraction.value_ofNat]
  rfl

theorem den_binaryFraction_pos (m : Nat) (e : Int) : 0 < (binaryFraction m e).den :=
  Fraction.den_scale_pos Nat.one_pos two_pos _

/-- Every double is a decimal. -/
theorem value_binaryDecimal (m : Nat) (e : Int) : (binaryDecimal m e).value = m * 2 ^ e := by
  rw [binaryDecimal]
  split
  case isTrue negative =>
    obtain ⟨n, rfl⟩ : ∃ n : Nat, e = -n := ⟨(-e).toNat, by omega⟩
    have ten : (10 : ℚ) ^ n = 2 ^ n * 5 ^ n := by rw [← mul_pow]; norm_num
    have five : (5 : ℚ) ^ n ≠ 0 := by positivity
    simp only [Decimal.value, neg_neg, Int.toNat_natCast, Nat.pow_eq, Nat.cast_mul, Nat.cast_pow,
      Nat.cast_ofNat, zpow_neg, zpow_natCast, ten, mul_inv]
    rw [mul_assoc, mul_left_comm (5 ^ n : ℚ), mul_inv_cancel₀ five, mul_one]
  case isFalse natural =>
    obtain ⟨n, rfl⟩ := Int.eq_ofNat_of_zero_le (not_lt.mp natural)
    simp [Decimal.value, binaryFraction, Fraction.scale, Fraction.ofNat]

/-! ### The search -/

section

variable {m : Nat} {e : Int} {q : Fraction} {bits : Nat} {exponent : Int} {d : Decimal}

/-- A point of a grid that is taken reads back. -/
theorem gridPoint?_eq_some (found : gridPoint? q bits exponent = some d) :
    d.exponent = exponent ∧ d.doubleBits = bits := by
  unfold gridPoint? at found
  dsimp only at found
  split at found
  case h_1 lower upper =>
    rw [decide_eq_true_eq] at lower upper
    split at found <;> obtain rfl := Option.some.inj found
    · exact ⟨rfl, lower⟩
    · exact ⟨rfl, upper⟩
  case h_2 lower upper =>
    obtain rfl := Option.some.inj found
    exact ⟨rfl, decide_eq_true_eq.mp lower⟩
  case h_3 lower upper =>
    obtain rfl := Option.some.inj found
    exact ⟨rfl, decide_eq_true_eq.mp upper⟩
  case h_4 => cases found

/-- A natural is found on the grid of the naturals. -/
theorem gridPoint?_zero {n : Nat} (positive : 0 < q.den) (natural : q.value = n) :
    gridPoint? q q.doubleBits 0 ≠ none := by
  have place : (q.scale 10 (-0)).floor = n := by
    rw [Fraction.floor_eq, Fraction.value_scale _ (by decide), natural]
    simp
  have reads : (⟨n, 0⟩ : Decimal).doubleBits = q.doubleBits :=
    Decimal.doubleBits_of_value positive (by simp [Decimal.value, natural])
  unfold gridPoint?
  simp only [place, reads, decide_true]
  split <;> simp_all

/-- The grids of the search, for a number with so many digits before the point. -/
def grids (digits : Int) : List Int := (List.range 17).map fun n => digits - (n + 1 : Nat)

/-- The grids get finer. -/
theorem pairwise_grids (digits : Int) : (grids digits).Pairwise (· > ·) := by
  rw [grids, List.pairwise_map]
  exact List.pairwise_lt_range.imp (by intros; omega)

/-- The naturals come before the grids that have places behind the point. -/
theorem zero_mem_grids {digits : Int} (whole : 1 ≤ digits) (member : exponent ∈ grids digits)
    (places : exponent < 0) : 0 ∈ grids digits := by
  obtain ⟨n, inRange, rfl⟩ := List.mem_map.mp member
  rw [List.mem_range] at inRange
  exact List.mem_map.mpr ⟨digits.toNat - 1, List.mem_range.mpr (by omega), by omega⟩

/-- The shortest decimal is a point on one of the grids, and no coarser grid has any; or it is the
double itself. -/
theorem shortest_cases (m : Nat) (e : Int) :
    let q := binaryFraction m e
    (∃ coarser exponent finer, grids q.wholeDigits = coarser ++ exponent :: finer ∧
        gridPoint? q q.doubleBits exponent = some (shortest m e) ∧
        ∀ other ∈ coarser, gridPoint? q q.doubleBits other = none) ∨
      shortest m e = binaryDecimal m e := by
  intro q
  have isSearch : shortest m e =
      ((grids q.wholeDigits).findSome? (gridPoint? q q.doubleBits)).getD (binaryDecimal m e) := rfl
  rw [isSearch]
  cases found : (grids q.wholeDigits).findSome? (gridPoint? q q.doubleBits) with
  | none => exact .inr rfl
  | some d =>
    obtain ⟨coarser, exponent, finer, split, point, none⟩ := List.findSome?_eq_some_iff.mp found
    exact .inl ⟨coarser, exponent, finer, split, point, none⟩

/-- A natural other than zero has a digit before the point. -/
theorem one_le_wholeDigits {n : Nat} (positive : 0 < q.den) (natural : q.value = n)
    (nonzero : 0 < n) : 1 ≤ q.wholeDigits := by
  have isProduct : q.num = n * q.den := by
    have nonzero : (q.den : ℚ) ≠ 0 := by exact_mod_cast positive.ne'
    rw [Fraction.value, div_eq_iff nonzero] at natural
    exact_mod_cast natural
  have large : q.den ≤ q.num := by
    rw [isProduct]
    exact Nat.le_mul_of_pos_left _ nonzero
  have some : 0 < (Nat.toDigits 10 q.floor).length := Nat.length_toDigits_pos
  simp only [Fraction.wholeDigits, if_pos large]
  omega

/-- **The shortest decimal reads back as the double.** -/
theorem doubleBits_shortest (m : Nat) (e : Int) :
    (shortest m e).doubleBits = (binaryFraction m e).doubleBits := by
  obtain ⟨coarser, exponent, finer, -, point, -⟩ | itself := shortest_cases m e
  · exact (gridPoint?_eq_some point).2
  · rw [itself]
    exact Decimal.doubleBits_of_value (den_binaryFraction_pos m e)
      (by rw [value_binaryDecimal, value_binaryFraction])

/-- The shortest decimal of a natural is a natural. -/
theorem isNatural_shortest (positive : 0 < m) (natural : IsNatural (m * 2 ^ e)) :
    IsNatural (shortest m e).value := by
  obtain ⟨n, isNatural⟩ := natural
  obtain ⟨coarser, exponent, finer, split, point, none⟩ | itself := shortest_cases m e
  · refine Decimal.isNatural_of_exponent ?_
    rw [(gridPoint?_eq_some point).1]
    by_contra fine
    -- The grid of the naturals would have come before this one, and it has a point.
    have isValue : (binaryFraction m e).value = n := by rw [value_binaryFraction, isNatural]
    have nonzero : 0 < n := by
      have isPositive : (0 : ℚ) < n := by rw [← isNatural]; positivity
      exact_mod_cast isPositive
    have digits := one_le_wholeDigits (den_binaryFraction_pos m e) isValue nonzero
    have sorted := pairwise_grids (binaryFraction m e).wholeDigits
    have member := zero_mem_grids digits (by rw [split]; simp) (not_le.mp fine)
    rw [split] at member
    rw [split, List.pairwise_append, List.pairwise_cons] at sorted
    obtain inCoarser | rfl | inFiner := by simpa using member
    · exact gridPoint?_zero (den_binaryFraction_pos m e) isValue (none 0 inCoarser)
    · exact fine le_rfl
    · exact fine (sorted.2.1.1 0 inFiner).le
  · rw [itself, value_binaryDecimal]
    exact ⟨n, isNatural⟩

/-- The shortest decimal of a double is a natural only if the double is. -/
theorem isNatural_of_shortest (normalized : Normalized m e)
    (natural : IsNatural (shortest m e).value) : IsNatural (m * 2 ^ e) := by
  obtain ⟨n, isNatural⟩ := natural
  have reads : (Fraction.ofNat n).doubleBits = magnitudeBits m e := by
    rw [← Fraction.doubleBits_of_value (den_binaryFraction_pos m e) normalized
      (value_binaryFraction m e), ← doubleBits_shortest]
    exact (Decimal.doubleBits_of_value Nat.one_pos (by rw [isNatural, Fraction.value_ofNat])).symm
  obtain small | large := le_total n (2 ^ 53)
  · obtain ⟨k, f, normalized', value⟩ := exists_normalized small
    rw [Fraction.doubleBits_of_value Nat.one_pos normalized'
      (by rw [Fraction.value_ofNat, value])] at reads
    obtain ⟨rfl, rfl⟩ := normalized'.eq_of_magnitudeBits normalized reads
    exact ⟨n, value.symm⟩
  · have bits := Fraction.le_doubleBits (q := .ofNat n) Nat.one_pos
      (by rw [Fraction.value_ofNat]; exact_mod_cast large)
    have exponent : 0 ≤ e := by
      have fits := normalized.fits
      rw [reads, magnitudeBits, leadingBit] at bits
      omega
    obtain ⟨k, rfl⟩ := Int.eq_ofNat_of_zero_le exponent
    exact ⟨m * 2 ^ k, by rw [zpow_natCast]; norm_cast⟩

/-- **The shortest decimal has places behind the point if and only if the double has.** -/
theorem shortest_isNatural_iff (normalized : Normalized m e) (positive : 0 < m) :
    IsNatural (shortest m e).value ↔ IsNatural (m * 2 ^ e) :=
  ⟨isNatural_of_shortest normalized, isNatural_shortest positive⟩

end

end Calculator.Number
