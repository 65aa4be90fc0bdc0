import Calculator.Number.Reading
import Calculator.Proofs.Token.Canonical

/-!
Runs of digits as numbers.

A run of digits has no sign, no point and no exponent, and it is not one of the words for infinity
and for no number at all. So it can always be read, however long it is, and stands for the double
nearest to its digits.

* `Number.ofText?_of_isDigits`: the value of a run of digits.
* `Number.digitsValue_append`, `Number.digitsValue_lt`: the natural that digits write out.
-/

namespace Calculator

/-- A digit is the same in small letters. -/
theorem toLower_of_isDigit {c : Char} (digit : c.isDigit) : c.toLower = c := by
  simp only [Char.isDigit, Bool.and_eq_true, decide_eq_true_eq] at digit
  have below : '9'.val < 'A'.val := by decide
  have noCapital : ¬ (c.val ≥ 'A'.val ∧ c.val ≤ 'Z'.val) := by
    rintro ⟨above, -⟩
    exact UInt32.not_le.mpr below (UInt32.le_trans above digit.2)
  exact dif_neg noCapital

namespace Number

/-- A list of digits has no sign to split off. -/
theorem splitSign_digits {cs : List Char} (digits : ∀ c ∈ cs, c.isDigit) :
    splitSign cs = (false, cs) := by
  unfold splitSign
  split
  · exact absurd (digits '-' List.mem_cons_self) (by decide)
  · exact absurd (digits '+' List.mem_cons_self) (by decide)
  · rfl

/-- A list of digits is no word with a letter, small or capital. -/
theorem lower_digits_ne {cs word : List Char} (digits : ∀ c ∈ cs, c.isDigit)
    (letter : ∃ c ∈ word, c.isDigit = false) : cs.map Char.toLower ≠ word := by
  rintro rfl
  obtain ⟨_, inside, noDigit⟩ := letter
  obtain ⟨c, member, rfl⟩ := List.mem_map.mp inside
  have digit := digits c member
  rw [toLower_of_isDigit digit, digit] at noDigit
  cases noDigit

/-- Digits are a decimal without fraction and exponent. -/
theorem numeral?_digits {cs : List Char} (nonempty : cs ≠ []) (digits : ∀ c ∈ cs, c.isDigit) :
    numeral? cs = some (.decimal cs 0) := by
  have whole : cs.takeWhile Char.isDigit = cs := List.takeWhile_eq_self_iff.mpr digits
  have nothing : cs.dropWhile Char.isDigit = [] := List.dropWhile_eq_nil_iff.mpr digits
  have noInf : cs.map Char.toLower ≠ "inf".toList := lower_digits_ne digits (by simp)
  have noInfinity : cs.map Char.toLower ≠ "infinity".toList := lower_digits_ne digits (by simp)
  have noNan : cs.map Char.toLower ≠ "nan".toList := lower_digits_ne digits (by simp)
  have some : cs.isEmpty = false := List.isEmpty_eq_false_iff.mpr nonempty
  simp only [numeral?, noInf, noInfinity, noNan, whole, nothing, some, decide_false, Bool.or_self,
    Bool.false_and, Bool.false_eq_true, if_false, List.append_nil, exponent?, Option.map_some]
  rfl

/-- **A run of digits can be read.** Its value is the double nearest to its digits. -/
theorem ofText?_of_isDigits {text : String} (digits : IsDigits text) :
    ofText? text = some (Numeral.value false (.decimal text.toList 0)) := by
  obtain ⟨nonempty, digits⟩ := digits
  rw [ofText?, splitSign_digits digits]
  simp only [numeral?_digits (mt String.toList_eq_nil_iff.mp nonempty) digits, Option.map_some]

/-- Digits without an exponent stand for the double nearest to the natural they write out. -/
theorem Numeral.value_digits (digits : List Char) :
    Numeral.value false (.decimal digits 0) =
      ofMagnitudeBits false (⟨digitsValue digits, 0⟩ : Decimal).doubleBits := by
  have notClamped : clampExponent digits 0 = 0 := by
    rw [clampExponent]
    omega
  rw [Numeral.value, notClamped]

/-! ### The natural that digits write out -/

theorem digitsValue_append (front back : List Char) :
    digitsValue (front ++ back) = 10 ^ back.length * digitsValue front + digitsValue back := by
  rw [digitsValue, Nat.ofDigitChars_append, Nat.ofDigitChars_eq_ofDigitChars_zero]
  rfl

theorem digitsValue_cons (c : Char) (cs : List Char) :
    digitsValue (c :: cs) = 10 ^ cs.length * (c.toNat - '0'.toNat) + digitsValue cs := by
  rw [digitsValue, Nat.ofDigitChars_cons, Nat.ofDigitChars_eq_ofDigitChars_zero, Nat.mul_zero,
    Nat.zero_add]
  rfl

/-- A digit is between zero and nine, and only the digit zero is zero. -/
theorem toNat_of_isDigit {c : Char} (digit : c.isDigit) :
    c.toNat - '0'.toNat < 10 ∧ (c.toNat - '0'.toNat = 0 ↔ c = '0') := by
  simp only [Char.isDigit, Bool.and_eq_true, decide_eq_true_eq] at digit
  have low : 48 ≤ c.toNat := digit.1
  have high : c.toNat ≤ 57 := digit.2
  have zero : '0'.toNat = 48 := rfl
  constructor
  · omega
  · constructor
    · intro none
      exact Char.toNat_inj.mp (by omega)
    · rintro rfl
      rfl

/-- Digits are worth less than a one with a zero for each of them. -/
theorem digitsValue_lt {cs : List Char} (digits : ∀ c ∈ cs, c.isDigit) :
    digitsValue cs < 10 ^ cs.length := by
  induction cs with
  | nil => decide
  | cons c cs ih =>
    obtain ⟨digit, digits⟩ := List.forall_mem_cons.mp digits
    have rest := ih digits
    have first : c.toNat - '0'.toNat + 1 ≤ 10 := (toNat_of_isDigit digit).1
    rw [digitsValue_cons, List.length_cons, Nat.pow_succ]
    calc 10 ^ cs.length * (c.toNat - '0'.toNat) + digitsValue cs
        < 10 ^ cs.length * (c.toNat - '0'.toNat) + 10 ^ cs.length := Nat.add_lt_add_left rest _
      _ = 10 ^ cs.length * (c.toNat - '0'.toNat + 1) := by rw [Nat.mul_succ]
      _ ≤ 10 ^ cs.length * 10 := Nat.mul_le_mul_left _ first

/-- Digits are worth nothing if they are all zeros, and only then. -/
theorem digitsValue_eq_zero {cs : List Char} (digits : ∀ c ∈ cs, c.isDigit) :
    digitsValue cs = 0 ↔ ∀ c ∈ cs, c = '0' := by
  induction cs with
  | nil => simp [digitsValue]
  | cons c cs ih =>
    obtain ⟨digit, digits⟩ := List.forall_mem_cons.mp digits
    rw [digitsValue_cons, Nat.add_eq_zero_iff, Nat.mul_eq_zero, ih digits,
      (toNat_of_isDigit digit).2, List.forall_mem_cons]
    simp

end Number

end Calculator
