import Mathlib
import Calculator.Number.Double

/-!
Doubles and their bits.

The parts of a double depend on its bits alone, so `parts` is `partsOfBits` of them. A pair of a
significand and an exponent is normalized if it is the one that a double with this value has; the
bits of the double are then the ones that `magnitudeBits` gives. The arithmetic of doubles works on
unpacked ones. Unpacking and packing keep the parts, so what is shown about unpacked doubles holds
for doubles.

* `Normalized`: the significands and exponents of doubles.
* `parts_injective`: a double is told by its parts.
* `normalized_of_parts`: the parts of a finite double are normalized.
* `parts_ofMagnitudeBits`: the double with given parts.
* `parts_eq_ofUnpacked`, `parts_pack`: the parts of unpacked and of packed doubles.
-/

namespace Calculator.Number

open Float.Model (UnpackedFloat)
open Float.Model.Format (binary64)
open Float.Model.UnpackedFloat

/-- A significand and an exponent that a double has: the significand has 53 bits, or fewer with the
least exponent. -/
structure Normalized (m : Nat) (e : Int) : Prop where
  fits : m < 2 ^ 53
  least : -1074 ≤ e
  greatest : e ≤ 971
  leading : e = -1074 ∨ 2 ^ 52 ≤ m

/-- The bits of the positive double with this significand and this exponent. -/
def magnitudeBits (m : Nat) (e : Int) : Nat := m + (e + 1074).toNat * leadingBit

/-- The bits with these below the sign. -/
def signedBits (negative : Bool) (bits : Nat) : Nat := if negative then signBit + bits else bits

@[simp] theorem signedBits_true (bits : Nat) : signedBits true bits = signBit + bits := rfl

@[simp] theorem signedBits_false (bits : Nat) : signedBits false bits = bits := rfl

/-- The parts of the double with these fields. -/
def fieldParts (negative : Bool) (field fraction : Nat) : Parts :=
  if field = 2047 then
    if fraction = 0 then .infinite negative else .nan
  else if field = 0 then .finite negative fraction (-1074)
  else .finite negative (leadingBit + fraction) (field - 1075)

/-- The parts of the double with these bits. -/
def partsOfBits (bits : Nat) : Parts :=
  fieldParts (decide (signBit ≤ bits)) (bits / leadingBit % 2048) (bits % leadingBit)

theorem parts_eq (x : Float) : parts x = partsOfBits x.toBits.toNat := rfl

/-! ### Bits -/

section

variable {negative negative' : Bool} {field fraction m m' bits bits' : Nat} {e e' : Int}

/-- The bits of a double are made of its fields. -/
theorem exists_fields (bounded : bits < 2 ^ 64) :
    ∃ negative field fraction, field < 2048 ∧ fraction < leadingBit ∧
      bits = signedBits negative (field * leadingBit + fraction) := by
  have isField : bits / leadingBit % 2048 < 2048 := Nat.mod_lt _ (by decide)
  have isFraction : bits % leadingBit < leadingBit := Nat.mod_lt _ (by decide)
  by_cases negative : signBit ≤ bits
  · refine ⟨true, _, _, isField, isFraction, ?_⟩
    simp only [signedBits, signBit, leadingBit, if_true] at *
    omega
  · refine ⟨false, _, _, isField, isFraction, ?_⟩
    simp only [signedBits, signBit, leadingBit, Bool.false_eq_true, if_false] at *
    omega

theorem partsOfBits_signedBits (isField : field < 2048) (isFraction : fraction < leadingBit) :
    partsOfBits (signedBits negative (field * leadingBit + fraction)) =
      fieldParts negative field fraction := by
  simp only [leadingBit] at isFraction
  rw [partsOfBits]
  congr 1 <;> cases negative <;> simp [signedBits, leadingBit, signBit] <;> omega

theorem Normalized.magnitudeBits_lt (normalized : Normalized m e) :
    magnitudeBits m e < infinityBits := by
  obtain ⟨fits, least, greatest, leading⟩ := normalized
  simp only [magnitudeBits, infinityBits, leadingBit]
  omega

/-- Normalized pairs are told by their bits. -/
theorem Normalized.eq_of_magnitudeBits (normalized : Normalized m e)
    (normalized' : Normalized m' e') (same : magnitudeBits m e = magnitudeBits m' e') :
    m = m' ∧ e = e' := by
  obtain ⟨fits, least, greatest, leading⟩ := normalized
  obtain ⟨fits', least', greatest', leading'⟩ := normalized'
  simp only [magnitudeBits, leadingBit] at same
  omega

/-- The fields of a double with a full significand. -/
theorem Normalized.magnitudeBits_normal (normalized : Normalized m e) (full : leadingBit ≤ m) :
    magnitudeBits m e = (e + 1075).toNat * leadingBit + (m - leadingBit) := by
  have least := normalized.least
  simp only [magnitudeBits, leadingBit] at *
  omega

/-- The fields of a double with a smaller significand. -/
theorem Normalized.magnitudeBits_subnormal (normalized : Normalized m e) (small : m < leadingBit) :
    e = -1074 ∧ magnitudeBits m e = 0 * leadingBit + m := by
  have least := normalized.leading.resolve_right (Nat.not_le.mpr small)
  subst least
  simp [magnitudeBits]

/-- The parts of a double are the ones its bits are made of. -/
theorem partsOfBits_magnitudeBits (normalized : Normalized m e) (negative : Bool) :
    partsOfBits (signedBits negative (magnitudeBits m e)) = .finite negative m e := by
  obtain small | full := Nat.lt_or_ge m leadingBit
  · obtain ⟨rfl, bits⟩ := normalized.magnitudeBits_subnormal small
    rw [bits, partsOfBits_signedBits (by decide) small]
    rfl
  · have fits := normalized.fits
    have least := normalized.least
    have greatest := normalized.greatest
    have isFraction : m - leadingBit < leadingBit := by
      simp only [leadingBit]
      omega
    rw [normalized.magnitudeBits_normal full, partsOfBits_signedBits (by omega) isFraction,
      fieldParts, if_neg (by omega), if_neg (by omega), Nat.add_sub_cancel' full]
    congr 1
    omega

/-- The fields of a finite double make up its bits, and its parts are normalized. -/
theorem normalized_of_fieldParts (isField : field < 2048) (isFraction : fraction < leadingBit)
    (taken : fieldParts negative field fraction = .finite negative' m e) :
    negative = negative' ∧ Normalized m e ∧
      field * leadingBit + fraction = magnitudeBits m e := by
  rw [fieldParts] at taken
  split at taken
  · split at taken <;> cases taken
  · split at taken
    all_goals
      obtain ⟨rfl, rfl, rfl⟩ := Parts.finite.inj taken
      have size : leadingBit = 2 ^ 52 := rfl
      refine ⟨rfl, ⟨by omega, by omega, by omega, by omega⟩, ?_⟩
      simp only [magnitudeBits, leadingBit]
      omega

/-- The parts in the bits of a finite double are normalized. -/
theorem normalized_of_partsOfBits (bounded : bits < 2 ^ 64)
    (taken : partsOfBits bits = .finite negative m e) :
    Normalized m e ∧ bits = signedBits negative (magnitudeBits m e) := by
  obtain ⟨sign, field, fraction, isField, isFraction, rfl⟩ := exists_fields bounded
  rw [partsOfBits_signedBits isField isFraction] at taken
  obtain ⟨rfl, normalized, same⟩ := normalized_of_fieldParts isField isFraction taken
  exact ⟨normalized, by rw [same]⟩

theorem fieldParts_eq_nan (number : fieldParts negative field fraction = .nan) :
    field = 2047 ∧ fraction ≠ 0 := by
  rw [fieldParts] at number
  split at number
  · next isTop =>
    split at number
    · cases number
    · next nonzero => exact ⟨isTop, nonzero⟩
  · split at number <;> cases number

theorem fieldParts_eq_infinite
    (infinite : fieldParts negative field fraction = .infinite negative') :
    negative = negative' ∧ field = 2047 ∧ fraction = 0 := by
  rw [fieldParts] at infinite
  split at infinite
  · next isTop =>
    split at infinite
    · next isZero => exact ⟨Parts.infinite.inj infinite, isTop, isZero⟩
    · cases infinite
  · split at infinite <;> cases infinite

/-- Bits are told by their parts, but for those of no number. -/
theorem eq_of_partsOfBits (bounded : bits < 2 ^ 64) (bounded' : bits' < 2 ^ 64)
    (same : partsOfBits bits = partsOfBits bits') (number : partsOfBits bits ≠ .nan) :
    bits = bits' := by
  obtain ⟨sign, field, fraction, isField, isFraction, rfl⟩ := exists_fields bounded
  obtain ⟨sign', field', fraction', isField', isFraction', rfl⟩ := exists_fields bounded'
  rw [partsOfBits_signedBits isField isFraction] at same number
  rw [partsOfBits_signedBits isField' isFraction'] at same
  cases taken : fieldParts sign field fraction with
  | nan => exact absurd taken number
  | finite negative m e =>
    obtain ⟨rfl, -, made⟩ := normalized_of_fieldParts isField isFraction taken
    obtain ⟨rfl, -, made'⟩ := normalized_of_fieldParts isField' isFraction' (same.symm.trans taken)
    rw [made, made']
  | infinite negative =>
    obtain ⟨rfl, rfl, rfl⟩ := fieldParts_eq_infinite taken
    obtain ⟨rfl, rfl, rfl⟩ := fieldParts_eq_infinite (same.symm.trans taken)
    rfl

end

/-! ### Unpacked doubles -/

/-- Whether a sign is the negative one. -/
def isNegative : Sign → Bool
  | .negative => true
  | .positive => false

/-- The parts of an unpacked double. -/
def Parts.ofUnpacked : UnpackedFloat → Parts
  | .notANumber => .nan
  | .infinity sign => .infinite (isNegative sign)
  | .zero sign => .finite (isNegative sign) 0 (-1074)
  | .finite sign m e _ => .finite (isNegative sign) m e

/-- An unpacked double is canonical if a double unpacks to it. -/
def Canonical : UnpackedFloat → Prop
  | .finite _ m e _ => Normalized m e
  | _ => True

theorem toNat_unpackMantissa (b : BitVec 64) :
    (@unpackMantissa binary64 b).toNat = b.toNat % leadingBit := by
  simp [unpackMantissa, leadingBit]

theorem toNat_unpackExponent (b : BitVec 64) :
    (@unpackExponent binary64 b).toNat = b.toNat / leadingBit % 2048 := by
  simp [unpackExponent, leadingBit, Nat.shiftRight_eq_div_pow]

theorem isNegative_unpackSign (b : BitVec 64) :
    isNegative (Sign.ofBitVec (@unpackSign binary64 b)) = decide (signBit ≤ b.toNat) := by
  have isTop (bit : BitVec 1) : isNegative (Sign.ofBitVec bit) = decide (bit.toNat = 1) := by
    revert bit; decide
  have top : (@unpackSign binary64 b).toNat = b.toNat / signBit % 2 := by
    simp [unpackSign, signBit, Nat.shiftRight_eq_div_pow]
  have bounded := b.isLt
  rw [isTop, top, decide_eq_decide, signBit]
  omega

/-- The parts of bits are those of the fields that unpacking takes from them. -/
theorem partsOfBits_eq_fieldParts (b : BitVec 64) :
    partsOfBits b.toNat = fieldParts (isNegative (Sign.ofBitVec (@unpackSign binary64 b)))
      (@unpackExponent binary64 b).toNat (@unpackMantissa binary64 b).toNat := by
  rw [isNegative_unpackSign, toNat_unpackExponent, toNat_unpackMantissa, partsOfBits]

/-- The bits of what is packed from fields. -/
theorem toNat_packComponents (sign : Sign) (exponent : BitVec 11) (mantissa : BitVec 52) :
    (packComponents binary64 sign exponent mantissa).toNat =
      signedBits (isNegative sign) (exponent.toNat * leadingBit + mantissa.toNat) := by
  rw [packComponents, BitVec.toNat_append, ← Nat.shiftLeft_add_eq_or_of_lt mantissa.isLt,
    BitVec.toNat_append, ← Nat.shiftLeft_add_eq_or_of_lt exponent.isLt]
  cases sign <;>
    simp [Nat.shiftLeft_eq, signedBits, isNegative, Sign.toBitVec, signBit, leadingBit]
  ring

theorem eq_ofNat_iff {n : Nat} {b : BitVec n} (value : Nat) (small : value < 2 ^ n) :
    b = BitVec.ofNat n value ↔ b.toNat = value := by
  rw [← BitVec.toNat_inj, BitVec.toNat_ofNat, Nat.mod_eq_of_lt small]

/-- Unpacking keeps the parts. -/
theorem ofUnpacked_unpack (b : BitVec 64) :
    Parts.ofUnpacked (unpack binary64 b) = partsOfBits b.toNat := by
  have top : @unpackExponent binary64 b = -1#_ ↔ (@unpackExponent binary64 b).toNat = 2047 :=
    eq_ofNat_iff 2047 (by decide)
  have bottom : @unpackExponent binary64 b = 0#_ ↔ (@unpackExponent binary64 b).toNat = 0 :=
    eq_ofNat_iff 0 (by decide)
  have none : @unpackMantissa binary64 b = 0#_ ↔ (@unpackMantissa binary64 b).toNat = 0 :=
    eq_ofNat_iff 0 (by decide)
  have leading : (1#1 ++ @unpackMantissa binary64 b).toNat =
      leadingBit + (@unpackMantissa binary64 b).toNat := by
    rw [BitVec.toNat_append, ← Nat.shiftLeft_add_eq_or_of_lt (BitVec.isLt _)]
    rfl
  rw [partsOfBits_eq_fieldParts, unpack, fieldParts]
  dsimp only
  split
  case isTrue isTop =>
    rw [if_pos (top.mp isTop)]
    split
    case isTrue isZero => rw [if_pos (none.mp isZero)]; rfl
    case isFalse nonzero => rw [if_neg (mt none.mpr nonzero)]; rfl
  case isFalse notTop =>
    rw [if_neg (mt top.mpr notTop)]
    split
    case isTrue isBottom =>
      rw [if_pos (bottom.mp isBottom)]
      split
      case isTrue isZero => rw [none.mp isZero]; rfl
      case isFalse nonzero =>
        rw [Parts.ofUnpacked, bottom.mp isBottom]
        rfl
    case isFalse notBottom =>
      rw [if_neg (mt bottom.mpr notBottom), Parts.ofUnpacked, leading]
      congr 1

/-- What unpacks from bits is canonical. -/
theorem canonical_unpack (b : BitVec 64) : Canonical (unpack binary64 b) := by
  have parts := ofUnpacked_unpack b
  cases unpacked : unpack binary64 b with
  | finite sign m e positive =>
    rw [unpacked] at parts
    exact (normalized_of_partsOfBits b.isLt parts.symm).1
  | _ => trivial

/-- Packing keeps the parts of what is canonical. -/
theorem partsOfBits_pack {unpacked : UnpackedFloat} (canonical : Canonical unpacked) :
    partsOfBits (pack binary64 unpacked).toNat = Parts.ofUnpacked unpacked := by
  cases unpacked with
  | notANumber => decide
  | infinity sign => cases sign <;> decide
  | zero sign => cases sign <;> decide
  | finite sign m e positive =>
    have normalized : Normalized m e := canonical
    have least := normalized.least
    have greatest := normalized.greatest
    have biased : (e + binary64.exponentBias + binary64.mantissaBitsWithoutImplicit).toNat =
        (e + 1075).toNat := by
      simp [Float.Model.Format.exponentBias]
      omega
    have below : ¬ 2 ^ binary64.exponentBits ≤ (e + 1075).toNat + 1 := by simp; omega
    have isNormal : m.log2 + 1 = binary64.mantissaBits ↔ leadingBit ≤ m := by
      have log2 := Nat.log2_eq_iff (k := 52) positive.ne'
      have fits := normalized.fits
      simp only [Float.Model.Format.mantissaBits, leadingBit] at *
      omega
    rw [Parts.ofUnpacked, ← partsOfBits_magnitudeBits normalized, pack]
    simp only [biased, below, isNormal, if_false]
    congr 1
    split
    case isTrue full =>
      have exponent : (BitVec.ofNat 11 (e + 1075).toNat).toNat = (e + 1075).toNat :=
        (eq_ofNat_iff _ (by omega)).mp rfl
      have mantissa : (BitVec.ofNat 52 m).toNat = m - leadingBit := by
        have fits := normalized.fits
        rw [BitVec.toNat_ofNat]
        simp only [leadingBit] at *
        omega
      rw [toNat_packComponents, exponent, mantissa, normalized.magnitudeBits_normal full]
    case isFalse small =>
      obtain ⟨-, bits⟩ := normalized.magnitudeBits_subnormal (Nat.not_le.mp small)
      have mantissa : (BitVec.ofNat 52 m).toNat = m :=
        (eq_ofNat_iff _ (Nat.not_le.mp small)).mp rfl
      rw [toNat_packComponents, mantissa, bits]
      rfl

/-! ### Doubles -/

/-- The parts of a double are those of what it unpacks to. -/
theorem parts_eq_ofUnpacked (x : Float) : parts x = Parts.ofUnpacked x.toModel.unpack :=
  (ofUnpacked_unpack x.toModel.toBits.toBitVec).symm

/-- The parts of what is packed to a double. -/
theorem parts_pack {unpacked : UnpackedFloat} (canonical : Canonical unpacked) :
    parts (.ofModel (.pack unpacked)) = Parts.ofUnpacked unpacked :=
  partsOfBits_pack canonical

theorem parts_ofBits (bits : UInt64) : parts (.ofBits bits) = partsOfBits bits.toNat := by
  rw [Float.ofBits, Float.Model.ofBits, parts_pack (canonical_unpack _)]
  exact ofUnpacked_unpack _

/-- The double with the given parts. -/
theorem parts_ofMagnitudeBits {m : Nat} {e : Int} (normalized : Normalized m e) (negative : Bool) :
    parts (ofMagnitudeBits negative (magnitudeBits m e)) = .finite negative m e := by
  have below := normalized.magnitudeBits_lt
  have small : signedBits negative (magnitudeBits m e) < 2 ^ 64 := by
    simp only [infinityBits, leadingBit] at below
    cases negative
    · rw [signedBits_false]
      omega
    · rw [signedBits_true, signBit]
      omega
  rw [ofMagnitudeBits, ← signedBits, parts_ofBits, UInt64.toNat_ofNat_of_lt' small]
  exact partsOfBits_magnitudeBits normalized negative

/-- The parts of the negation. -/
def Parts.neg : Parts → Parts
  | .nan => .nan
  | .infinite negative => .infinite (!negative)
  | .finite negative m e => .finite (!negative) m e

/-- A negation has the other sign and is the same otherwise. -/
theorem parts_neg (x : Float) : parts (-x) = (parts x).neg := by
  have canonical : Canonical x.toModel.unpack.neg := by
    have operand : Canonical x.toModel.unpack := canonical_unpack _
    cases unpacked : x.toModel.unpack with
    | finite sign m e positive =>
      rw [unpacked] at operand
      exact operand
    | _ => trivial
  have packed : parts (-x) = Parts.ofUnpacked x.toModel.unpack.neg := parts_pack canonical
  rw [packed, parts_eq_ofUnpacked]
  rcases x.toModel.unpack with sign | _ | sign | ⟨sign, m, e, positive⟩
  case notANumber => rfl
  all_goals cases sign <;> rfl

/-- The parts of a finite double are normalized. -/
theorem normalized_of_parts {x : Float} {negative : Bool} {m : Nat} {e : Int}
    (finite : parts x = .finite negative m e) : Normalized m e :=
  (normalized_of_partsOfBits x.toBits.toNat_lt ((parts_eq x).symm.trans finite)).1

/-- All doubles that are no numbers have the same bits. -/
theorem bits_of_nan {x : Float} (number : parts x = .nan) :
    x.toBits = .ofBitVec (packedNaN binary64) := by
  let b := x.toBits.toBitVec
  obtain ⟨isTop, nonzero⟩ : (@unpackExponent binary64 b).toNat = 2047 ∧
      (@unpackMantissa binary64 b).toNat ≠ 0 :=
    fieldParts_eq_nan ((partsOfBits_eq_fieldParts b).symm.trans number)
  have packed : b = packedNaN binary64 := x.toModel.valid.eq_packedNaN
    ((eq_ofNat_iff 2047 (by decide)).mpr isTop) (mt (eq_ofNat_iff 0 (by decide)).mp nonzero)
  rw [← packed]

/-- **A double is told by its parts.** -/
theorem parts_injective {x y : Float} (same : parts x = parts y) : x = y := by
  have bits : x.toBits = y.toBits := by
    by_cases number : parts x = .nan
    · rw [bits_of_nan number, bits_of_nan (same.symm.trans number)]
    · exact UInt64.toNat_inj.mp
        (eq_of_partsOfBits x.toBits.toNat_lt y.toBits.toNat_lt same number)
  obtain ⟨⟨_, _⟩⟩ := x
  obtain ⟨⟨_, _⟩⟩ := y
  cases bits
  rfl

end Calculator.Number
