import Calculator.Proofs.Number.Digits
import Calculator.Proofs.Number.Printing
import Calculator.Proofs.Number.Shortest

/-!
Doubles in plain notation.

A double that is an integer is written with digits alone, behind a minus if it is negative, and the
digits read back as its magnitude. Any other finite double has a point and digits behind it.

* `splitDigits_spec`: the digits on both sides of a point.
* `Decimal.plain_of_natural`, `Decimal.plain_of_not_natural`: decimals in plain notation.
* `ofText?_plain_magnitude`: the digits of an integer read back.
-/

namespace Calculator.Number

/-! ### Decimals in plain notation -/

/-- The digits before and behind a point are those of the quotient and of the remainder. -/
theorem splitDigits_spec (places n : Nat) :
    (splitDigits places n).1 ≠ [] ∧ digitsValue (splitDigits places n).1 = n / 10 ^ places ∧
      digitsValue (splitDigits places n).2 = n % 10 ^ places := by
  let digits := Nat.toDigits 10 n
  let padded := List.replicate (places + 1 - digits.length) '0' ++ digits
  have cut : splitDigits places n =
      (padded.take (padded.length - places), padded.drop (padded.length - places)) :=
    List.splitAt_eq
  have isValue : digitsValue padded = n := by
    rw [digitsValue, Nat.ofDigitChars_append, Nat.ofDigitChars_replicate_zero, Nat.mul_zero]
    exact Nat.ofDigitChars_ten_toDigits
  have length : places + 1 ≤ padded.length := by
    rw [List.length_append, List.length_replicate]
    omega
  have behind : (padded.drop (padded.length - places)).length = places := by
    rw [List.length_drop]
    omega
  have less : digitsValue (padded.drop (padded.length - places)) < 10 ^ places := by
    have digits := (splitDigits_digits places n).2
    rw [cut] at digits
    have less := digitsValue_lt digits
    rwa [behind] at less
  have sum : 10 ^ places * digitsValue (padded.take (padded.length - places)) +
      digitsValue (padded.drop (padded.length - places)) = n := by
    have joined := digitsValue_append (padded.take (padded.length - places))
      (padded.drop (padded.length - places))
    rwa [List.take_append_drop, isValue, behind, eq_comm] at joined
  rw [cut]
  refine ⟨?nonempty, ?before, ?behind⟩
  case nonempty =>
    rw [← List.length_pos_iff, List.length_take]
    omega
  case before =>
    rw [← sum, Nat.mul_add_div (Nat.pow_pos (by decide)), Nat.div_eq_of_lt less, Nat.add_zero]
  case behind =>
    rw [← sum, Nat.mul_add_mod, Nat.mod_eq_of_lt less]

/-- Digits with the zeros at their end left out. -/
def stripZeros (digits : List Char) : List Char := (digits.reverse.dropWhile (· == '0')).reverse

theorem stripZeros_eq_nil {digits : List Char} :
    stripZeros digits = [] ↔ ∀ c ∈ digits, c = '0' := by
  simp [stripZeros]

theorem stripZeros_subset (digits : List Char) : stripZeros digits ⊆ digits := by
  intro c member
  exact List.mem_reverse.mp (List.dropWhile_subset _ (List.mem_reverse.mp member))

namespace Decimal

variable {d : Decimal} {n : Nat}

/-- The places of a decimal behind its point. -/
def places (d : Decimal) : Nat := (-d.exponent).toNat

/-- The number of a decimal with the point moved behind all places. -/
def unscaled (d : Decimal) : Nat := (d.toFraction.scale 10 d.places).floor

theorem plain_eq (d : Decimal) :
    d.plain = joinDigits (splitDigits d.places d.unscaled).1
      (stripZeros (splitDigits d.places d.unscaled).2) := rfl

theorem value_mul_pow (d : Decimal) : d.value * 10 ^ d.places = d.unscaled := by
  have split : d.exponent + d.places = d.exponent.toNat := by
    simp only [places]
    omega
  have natural : d.value * 10 ^ d.places = (d.digits * 10 ^ d.exponent.toNat : Nat) := by
    rw [value, mul_assoc, ← zpow_natCast, ← zpow_add₀ (by norm_num), split, zpow_natCast]
    norm_cast
  have isValue : (d.toFraction.scale 10 d.places).value = d.value * 10 ^ d.places := by
    rw [Fraction.value_scale _ (by decide), value_toFraction, zpow_natCast]
    rfl
  rw [unscaled, Fraction.floor_eq, isValue, natural, Nat.floor_natCast]

/-- A decimal is a natural if there are only zeros behind its point. -/
theorem value_eq_natCast : d.value = n ↔ d.unscaled = n * 10 ^ d.places := by
  have power : (10 : ℚ) ^ d.places ≠ 0 := by positivity
  rw [← mul_left_inj' power, value_mul_pow]
  norm_cast

/-- A natural is written with its digits alone. -/
theorem plain_of_natural (natural : d.value = n) :
    d.plain ≠ [] ∧ (∀ c ∈ d.plain, c.isDigit) ∧ digitsValue d.plain = n := by
  obtain ⟨nonempty, before, behind⟩ := splitDigits_spec d.places d.unscaled
  obtain ⟨digits, digits'⟩ := splitDigits_digits d.places d.unscaled
  have isProduct := value_eq_natCast.mp natural
  have none : stripZeros (splitDigits d.places d.unscaled).2 = [] := by
    rw [stripZeros_eq_nil, ← digitsValue_eq_zero digits', behind, isProduct, Nat.mul_mod_left]
  have whole : d.plain = (splitDigits d.places d.unscaled).1 := by
    rw [plain_eq, none]
    rfl
  rw [whole]
  refine ⟨nonempty, digits, ?_⟩
  rw [before, isProduct, Nat.mul_div_cancel _ (Nat.pow_pos (by decide))]

/-- Any other decimal is written with a point, and digits on both sides of it. -/
theorem plain_of_not_natural (fractional : ¬ IsNatural d.value) :
    ∃ whole fraction, d.plain = whole ++ '.' :: fraction ∧ whole ≠ [] ∧ fraction ≠ [] ∧
      (∀ c ∈ whole, c.isDigit) ∧ ∀ c ∈ fraction, c.isDigit := by
  obtain ⟨nonempty, -, behind⟩ := splitDigits_spec d.places d.unscaled
  obtain ⟨digits, digits'⟩ := splitDigits_digits d.places d.unscaled
  have some : stripZeros (splitDigits d.places d.unscaled).2 ≠ [] := by
    rw [Ne, stripZeros_eq_nil, ← digitsValue_eq_zero digits', behind]
    intro whole
    refine fractional ⟨d.unscaled / 10 ^ d.places, value_eq_natCast.mpr ?_⟩
    exact (Nat.div_mul_cancel (Nat.dvd_of_mod_eq_zero whole)).symm
  refine ⟨_, _, ?_, nonempty, some, digits, fun c member => digits' c (stripZeros_subset _ member)⟩
  rw [plain_eq, joinDigits, if_neg (by simpa using some)]

end Decimal

/-! ### Doubles -/

section

variable {m : Nat} {e : Int}

/-- The magnitude of a double in plain notation. -/
def plainMagnitude (m : Nat) (e : Int) : List Char :=
  if m = 0 then ['0'] else (shortest m e).plain

theorem plain_eq (x : Float) : plain x = withParts x plainMagnitude := rfl

/-- The magnitude of an integer is written with digits that read back as the magnitude. -/
theorem plainMagnitude_of_natural (normalized : Normalized m e) (natural : IsNatural (m * 2 ^ e)) :
    IsDigits (String.ofList (plainMagnitude m e)) ∧
      ∃ y, ofText? (String.ofList (plainMagnitude m e)) = some y ∧ parts y = .finite false m e := by
  -- The digits are those of a natural whose nearest double is the one in question.
  obtain ⟨n, isDigits, value, nearest⟩ : ∃ n : Nat, IsDigits (String.ofList (plainMagnitude m e)) ∧
      digitsValue (plainMagnitude m e) = n ∧
      (⟨n, 0⟩ : Decimal).doubleBits = magnitudeBits m e := by
    obtain rfl | positive := m.eq_zero_or_pos
    · have isZero : plainMagnitude 0 e = ['0'] := rfl
      rw [isZero]
      exact ⟨0, by decide, by decide,
        Decimal.doubleBits_of_normalized normalized (by simp [Decimal.value])⟩
    · obtain ⟨n, isNatural⟩ := (shortest_isNatural_iff normalized positive).mpr natural
      obtain ⟨nonempty, digits, value⟩ := Decimal.plain_of_natural isNatural
      rw [plainMagnitude, if_neg positive.ne', isDigits_ofList]
      refine ⟨n, ⟨nonempty, digits⟩, value, ?_⟩
      rw [← Fraction.doubleBits_of_value (den_binaryFraction_pos m e) normalized
        (value_binaryFraction m e), ← doubleBits_shortest]
      exact Decimal.doubleBits_of_value (shortest m e).den_toFraction_pos
        (by rw [Decimal.value_toFraction, isNatural]; simp [Decimal.value])
  refine ⟨isDigits, _, ofText?_of_isDigits isDigits, ?_⟩
  rw [Numeral.value_digits, String.toList_ofList, value, nearest]
  exact parts_ofMagnitudeBits normalized false

/-- Any other magnitude is written with a point, and digits on both sides of it. -/
theorem plainMagnitude_of_not_natural (normalized : Normalized m e)
    (fractional : ¬ IsNatural (m * 2 ^ e)) :
    ∃ whole fraction, plainMagnitude m e = whole ++ '.' :: fraction ∧ whole ≠ [] ∧ fraction ≠ [] ∧
      (∀ c ∈ whole, c.isDigit) ∧ ∀ c ∈ fraction, c.isDigit := by
  have nonzero : m ≠ 0 := by
    rintro rfl
    exact fractional ⟨0, by simp⟩
  rw [plainMagnitude, if_neg nonzero]
  exact Decimal.plain_of_not_natural
    (mt (shortest_isNatural_iff normalized (Nat.pos_of_ne_zero nonzero)).mp fractional)

end

end Calculator.Number
