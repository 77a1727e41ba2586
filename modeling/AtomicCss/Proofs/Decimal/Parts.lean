import AtomicCss.Decimal.Binary
import Mathlib

/-!
Contract: what a number stands for, and the sign, mantissa and exponent that it unpacks into.

Owns:
- the fields of the bits of a number;
- what an unpacked number stands for;
- packing numbers whose mantissa has all of its binary digits.

Does not own: arithmetic on unpacked numbers.
-/

namespace AtomicCss.Decimal

open Float.Model
open Float.Model.UnpackedFloat

/-! ## Fields -/

section Fields

variable (bits : BitVec Format.binary64.numBits)

theorem toNat_unpackExponent :
    (unpackExponent bits).toNat = bits.toNat / 2 ^ 52 % 2048 := by
  simp [unpackExponent, Nat.shiftRight_eq_div_pow]

theorem toNat_unpackMantissa : (unpackMantissa bits).toNat = bits.toNat % 2 ^ 52 := by
  simp [unpackMantissa]

end Fields

theorem toNat_implicit (fraction : BitVec 52) :
    (1#1 ++ fraction).toNat = 2 ^ 52 + fraction.toNat := by
  rw [BitVec.toNat_append, ← Nat.shiftLeft_add_eq_or_of_lt fraction.isLt, Nat.shiftLeft_eq]
  simp

/-! ## What an unpacked number stands for -/

/-- What a biased power and a fraction stand for. -/
def magnitudeOf (power fraction : Nat) : Magnitude :=
  match power with
  | 0 => .finite fraction (-1074) false
  | 2047 => if fraction = 0 then .infinite else .notANumber
  | power => .finite (Nat.pow 2 52 + fraction) (power - 1075) (fraction = 0 && power > 1)

theorem magnitude_of_fields
    {number : Float}
    {power fraction : Nat}
    (exponent : number.toBits.toNat / 2 ^ 52 % 2048 = power)
    (mantissa : number.toBits.toNat % 2 ^ 52 = fraction) :
    magnitude number = magnitudeOf power fraction := by
  have upper : number.toBits.toNat % Nat.pow 2 63 / Nat.pow 2 52 = power := by
    simp only [Nat.pow_eq] at exponent ⊢
    omega
  have lower : number.toBits.toNat % Nat.pow 2 63 % Nat.pow 2 52 = fraction := by
    simp only [Nat.pow_eq] at mantissa ⊢
    omega
  rw [← upper, ← lower]
  rfl

section Unpacked

variable {number : Float} {sign : Sign}

theorem magnitude_of_unpack_zero (unpacked : number.toModel.unpack = .zero sign) :
    magnitude number = .finite 0 (-1074) false := by
  unfold Float.Model.unpack UnpackedFloat.unpack at unpacked
  simp only at unpacked
  split at unpacked
  · split at unpacked <;> cases unpacked
  · split at unpacked
    · split at unpacked
      · rename_i exponent fraction
        have exponentBits := congrArg BitVec.toNat exponent
        have fractionBits := congrArg BitVec.toNat fraction
        rw [toNat_unpackExponent] at exponentBits
        rw [toNat_unpackMantissa] at fractionBits
        exact magnitude_of_fields exponentBits fractionBits
      · cases unpacked
    · cases unpacked

theorem magnitude_of_unpack_finite
    {mantissa : Nat}
    {exponent : Int}
    {positive : 0 < mantissa}
    (unpacked : number.toModel.unpack = .finite sign mantissa exponent positive) :
    ∃ narrowBelow, magnitude number = .finite mantissa exponent narrowBelow := by
  have power := toNat_unpackExponent number.toModel.toBits.toBitVec
  have fraction := toNat_unpackMantissa number.toModel.toBits.toBitVec
  have fields := magnitude_of_fields power.symm fraction.symm
  unfold Float.Model.unpack UnpackedFloat.unpack at unpacked
  simp only at unpacked
  split at unpacked
  · split at unpacked <;> cases unpacked
  · rename_i finite
    split at unpacked
    · rename_i subnormal
      split at unpacked
      · cases unpacked
      · cases unpacked
        rw [subnormal] at fields ⊢
        exact ⟨_, fields⟩
    · rename_i normal
      cases unpacked
      rw [toNat_implicit]
      unfold magnitudeOf at fields
      split at fields
      · rename_i zero
        exact absurd (BitVec.eq_of_toNat_eq zero) normal
      · rename_i full
        exact absurd (BitVec.eq_of_toNat_eq full) finite
      · exact ⟨_, fields⟩

end Unpacked

/-! ## Bits -/

/-- Bits whose power is in range are a number with a full mantissa. -/
theorem unpack_of_fields
    {bits : BitVec Format.binary64.numBits}
    {power fraction : Nat}
    (exponent : bits.toNat / 2 ^ 52 % 2048 = power)
    (mantissa : bits.toNat % 2 ^ 52 = fraction)
    (least : 0 < power)
    (greatest : power < 2047) :
    ∃ sign positive,
      UnpackedFloat.unpack Format.binary64 bits =
        .finite sign (2 ^ 52 + fraction) (power - 1075) positive := by
  have powerBits : (unpackExponent bits).toNat = power := by
    rw [toNat_unpackExponent, exponent]
  have full : (1#1 ++ unpackMantissa bits).toNat = 2 ^ 52 + fraction := by
    rw [toNat_implicit, toNat_unpackMantissa, mantissa]
  have finite : unpackExponent bits ≠ -1#11 := by
    intro same
    rw [same] at powerBits
    have most : (-1#11).toNat = 2047 := rfl
    omega
  have normal : unpackExponent bits ≠ 0#11 := by
    intro same
    rw [same] at powerBits
    have least : (0#11).toNat = 0 := rfl
    omega
  refine ⟨Sign.ofBitVec (unpackSign bits), by omega, ?_⟩
  rw [UnpackedFloat.unpack]
  simp only [if_neg finite, if_neg normal, full, powerBits]
  rfl

/-! ## Packing -/

theorem unpackSign_packComponents
    {format : Format}
    (sign : Sign)
    (exponent : BitVec format.exponentBits)
    (mantissa : BitVec format.mantissaBitsWithoutImplicit) :
    unpackSign (packComponents format sign exponent mantissa) = sign.toBitVec := by
  apply BitVec.eq_of_getLsbD_eq
  intro index inside
  obtain rfl : index = 0 := by omega
  simp [unpackSign, packComponents, BitVec.getLsbD_append, BitVec.getElem_append]

theorem ofBitVec_toBitVec (sign : Sign) : Sign.ofBitVec sign.toBitVec = sign := by
  cases sign <;> rfl

section Normal

variable
  {sign : Sign}
  {mantissa : Nat}
  {exponent : Int}
  {positive : 0 < mantissa}
  (full : 2 ^ 52 ≤ mantissa)
  (fits : mantissa < 2 ^ 53)

include full fits

/-- A number with a full mantissa and an exponent in range is packed without loss. -/
theorem unpack_pack_normal (least : -1074 ≤ exponent) (greatest : exponent ≤ 971) :
    (Float.Model.pack (.finite sign mantissa exponent positive)).unpack =
      .finite sign mantissa exponent positive := by
  have digits : mantissa.log2 + 1 = Format.binary64.mantissaBits := by
    have log : mantissa.log2 = 52 := (Nat.log2_eq_iff (by omega)).2 ⟨full, fits⟩
    rw [log]
    rfl
  obtain ⟨power, biased⟩ : ∃ power : Nat, exponent = power - 1075 :=
    ⟨(exponent + 1075).toNat, by omega⟩
  subst biased
  have bias : (power - 1075 + Format.binary64.exponentBias +
      Format.binary64.mantissaBitsWithoutImplicit : Int).toNat = power := by
    show (power - 1075 + 1023 + 52 : Int).toNat = power
    omega
  have below : ¬ 2 ^ Format.binary64.exponentBits ≤ power + 1 := by
    show ¬ 2048 ≤ power + 1
    omega
  have packed : UnpackedFloat.pack Format.binary64 (.finite sign mantissa (power - 1075) positive) =
      packComponents Format.binary64 sign (BitVec.ofNat 11 power) (BitVec.ofNat 52 mantissa) := by
    simp only [UnpackedFloat.pack, bias, if_neg below, if_pos digits]
  have powerBits : (BitVec.ofNat 11 power).toNat = power := by
    rw [BitVec.toNat_ofNat]
    omega
  have fraction : (1#1 ++ BitVec.ofNat 52 mantissa).toNat = mantissa := by
    rw [toNat_implicit, BitVec.toNat_ofNat]
    omega
  have finite : BitVec.ofNat 11 power ≠ -1#11 := by
    intro same
    have all := congrArg BitVec.toNat same
    rw [powerBits] at all
    have most : (-1#11).toNat = 2047 := rfl
    omega
  have normal : BitVec.ofNat 11 power ≠ 0#11 := by
    intro same
    have none := congrArg BitVec.toNat same
    rw [powerBits] at none
    have least : (0#11).toNat = 0 := rfl
    omega
  show UnpackedFloat.unpack Format.binary64 (UnpackedFloat.pack Format.binary64 _) = _
  rw [packed, UnpackedFloat.unpack]
  simp only [unpackExponent_packComponents, unpackMantissa_packComponents,
    unpackSign_packComponents, ofBitVec_toBitVec, if_neg finite, if_neg normal, fraction, powerBits]
  rfl

end Normal

/-- The number with the given fields. -/
theorem unpack_ofBits
    {power fraction : Nat}
    (least : 0 < power)
    (greatest : power < 2047)
    (small : fraction < 2 ^ 52)
    (negative : Bool) :
    ∃ sign positive,
      (Float.ofBits (UInt64.ofNat
        (power * 2 ^ 52 + fraction + if negative then Nat.pow 2 63 else 0))).toModel.unpack =
          .finite sign (2 ^ 52 + fraction) (power - 1075) positive := by
  obtain ⟨top, signed, bound⟩ :
      ∃ top : Nat, (if negative then Nat.pow 2 63 else 0) = top * 2 ^ 63 ∧ top ≤ 1 := by
    cases negative
    · exact ⟨0, rfl, by decide⟩
    · exact ⟨1, rfl, by decide⟩
  rw [signed]
  have word : power * 2 ^ 52 + fraction + top * 2 ^ 63 < UInt64.size := by
    rw [UInt64.size]
    omega
  have bits : (UInt64.ofNat (power * 2 ^ 52 + fraction + top * 2 ^ 63)).toBitVec.toNat =
      power * 2 ^ 52 + fraction + top * 2 ^ 63 := by
    rw [UInt64.toNat_toBitVec]
    exact UInt64.toNat_ofNat_of_lt' word
  have exponent : (UInt64.ofNat (power * 2 ^ 52 + fraction + top * 2 ^ 63)).toBitVec.toNat /
      2 ^ 52 % 2048 = power := by
    rw [bits]
    omega
  have mantissa : (UInt64.ofNat (power * 2 ^ 52 + fraction + top * 2 ^ 63)).toBitVec.toNat %
      2 ^ 52 = fraction := by
    rw [bits]
    omega
  obtain ⟨sign, positive, unpacked⟩ := unpack_of_fields exponent mantissa least greatest
  refine ⟨sign, positive, ?_⟩
  show (Float.Model.pack (UnpackedFloat.unpack Format.binary64 _)).unpack = _
  rw [unpacked]
  exact unpack_pack_normal (by omega) (by omega) (by omega) (by omega)

end AtomicCss.Decimal
