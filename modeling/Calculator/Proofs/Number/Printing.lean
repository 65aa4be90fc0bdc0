import Calculator.Output
import Mathlib.Data.List.Basic

/-!
Written numbers: when there is one, and its characters.

Whether a value can be written depends on the settings alone. With no number of places set, or one
that is not too large, all values can, and otherwise none, not even infinity. A number is written
with digits, a minus, a point and the letters of `inf` and `NaN`. It holds no blank and no line
feed, so it can stand in a line with other things.

* `OutputSettings.Feasible`: settings that ask for no more places than a number can have.
* `OutputSettings.formatValue?_eq_none_iff`: all other settings, and no others, write no value.
* `OutputSettings.formatValue?_characters`: the characters of a value as it is written.
-/

namespace Calculator

namespace Number

/-- A digit, a minus, a point or one of the letters of infinity and of no number at all. -/
def IsWritten (c : Char) : Prop := c.isDigit ∨ c ∈ ['-', '.', 'i', 'n', 'f', 'N', 'a']

variable {whole fraction : List Char}

/-- The digits on both sides of a point are those of a number, with zeros before them. -/
theorem splitDigits_digits (places n : Nat) :
    (∀ c ∈ (splitDigits places n).1, c.isDigit) ∧ ∀ c ∈ (splitDigits places n).2, c.isDigit := by
  let digits := Nat.toDigits 10 n
  let padded := List.replicate (places + 1 - digits.length) '0' ++ digits
  have all : ∀ c ∈ padded, c.isDigit := by
    intro c member
    rcases List.mem_append.mp member with zero | digit
    · rw [List.eq_of_mem_replicate zero]
      rfl
    · exact Nat.isDigit_of_mem_toDigits (by decide) (by decide) digit
  have cut : splitDigits places n =
      (padded.take (padded.length - places), padded.drop (padded.length - places)) :=
    List.splitAt_eq
  rw [cut]
  exact ⟨fun c member => all c (List.mem_of_mem_take member),
    fun c member => all c (List.mem_of_mem_drop member)⟩

theorem joinDigits_characters (digitsWhole : ∀ c ∈ whole, c.isDigit)
    (digitsFraction : ∀ c ∈ fraction, c.isDigit) :
    ∀ c ∈ joinDigits whole fraction, IsWritten c := by
  intro c member
  rw [joinDigits] at member
  split at member
  · exact .inl (digitsWhole c member)
  · rcases List.mem_append.mp member with inWhole | behind
    · exact .inl (digitsWhole c inWhole)
    · rcases List.mem_cons.mp behind with rfl | inFraction
      · exact .inr (by decide)
      · exact .inl (digitsFraction c inFraction)

theorem Decimal.plain_characters (d : Decimal) : ∀ c ∈ d.plain, IsWritten c := by
  obtain ⟨whole, fraction⟩ := splitDigits_digits (-d.exponent).toNat
    (d.toFraction.scale 10 (-d.exponent).toNat).floor
  refine joinDigits_characters whole fun c member => fraction c ?_
  exact List.mem_reverse.mp (List.dropWhile_subset _ (List.mem_reverse.mp member))

/-- A double is written with the characters of its magnitude and some of its own. -/
theorem withParts_characters {magnitude : Nat → Int → List Char}
    (written : ∀ significand exponent, ∀ c ∈ magnitude significand exponent, IsWritten c)
    (x : Float) : ∀ c ∈ (withParts x magnitude).toList, IsWritten c := by
  have signed {negative : Bool} {text : List Char} (all : ∀ c ∈ text, IsWritten c) :
      ∀ c ∈ (String.ofList (if negative then '-' :: text else text)).toList, IsWritten c := by
    intro c member
    rw [String.toList_ofList] at member
    split at member
    · rcases List.mem_cons.mp member with rfl | inText
      · exact .inr (by decide)
      · exact all c inText
    · exact all c member
  unfold withParts
  cases parts x with
  | nan => simp [IsWritten]
  | infinite negative => exact signed (by simp [IsWritten])
  | finite negative significand exponent => exact signed (written significand exponent)

theorem plain_characters (x : Float) : ∀ c ∈ (plain x).toList, IsWritten c := by
  refine withParts_characters (fun significand exponent => ?_) x
  split
  · simp [IsWritten]
  · exact Decimal.plain_characters _

theorem fixed?_characters {places : Nat} {x : Float} {text : String}
    (written : fixed? places x = some text) : ∀ c ∈ text.toList, IsWritten c := by
  unfold fixed? at written
  split at written
  · cases written
    refine withParts_characters (fun significand exponent => ?_) x
    obtain ⟨whole, fraction⟩ := splitDigits_digits places
      ((binaryFraction significand exponent).scale 10 places).round
    exact joinDigits_characters whole fraction
  · cases written

theorem fixed?_eq_none_iff {places : Nat} {x : Float} :
    fixed? places x = none ↔ ¬ places ≤ Text.widest := by
  unfold fixed?
  split <;> simp [*]

end Number

namespace OutputSettings

/-- The settings ask for no more places than a number can be written with. -/
def Feasible (settings : OutputSettings) : Prop :=
  ∀ places ∈ settings.precision, places ≤ Text.widest

/-- With other settings no value is written, and with these all are. -/
theorem formatValue?_eq_none_iff {settings : OutputSettings} {value : Float} :
    settings.formatValue? value = none ↔ ¬ settings.Feasible := by
  obtain ⟨_ | places, echo⟩ := settings
  · simp [formatValue?, Feasible]
  · simp [formatValue?, Feasible, Number.fixed?_eq_none_iff]

/-- The characters of a value as it is written, with any settings. -/
theorem formatValue?_characters {settings : OutputSettings} {value : Float} {text : String}
    (written : settings.formatValue? value = some text) :
    ∀ c ∈ text.toList, Number.IsWritten c := by
  unfold formatValue? at written
  split at written
  · exact Number.fixed?_characters written
  · cases written
    exact Number.plain_characters value

/-- An expression's line is its value as written, behind the expression if the settings say so. -/
theorem formatResult?_eq_some_iff {settings : OutputSettings} {expression line : String}
    {value : Float} :
    settings.formatResult? expression value = some line ↔
      ∃ text, settings.formatValue? value = some text ∧
        (if settings.echo then expression ++ " = " ++ text else text) = line :=
  Option.map_eq_some_iff

/-- An expression's line can be written just if its value can. -/
theorem formatResult?_eq_none_iff {settings : OutputSettings} {expression : String}
    {value : Float} : settings.formatResult? expression value = none ↔ ¬ settings.Feasible := by
  rw [formatResult?, Option.map_eq_none_iff, formatValue?_eq_none_iff]

theorem Feasible.exists_formatResult? {settings : OutputSettings} (feasible : settings.Feasible)
    (expression : String) (value : Float) :
    ∃ line, settings.formatResult? expression value = some line :=
  Option.ne_none_iff_exists'.mp (mt formatResult?_eq_none_iff.mp (not_not_intro feasible))

end OutputSettings

end Calculator
