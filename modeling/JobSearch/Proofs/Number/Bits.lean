import JobSearch.Number.Binary
import Mathlib

/-!
# The bits of a double

A double is made from 64 bits and read from its bits. On the way bits that are no number become
the bits of one double that is none. The reading does not notice: `Reading.ofFloat_ofBits` says
that the reading of the double made from some bits is that of the bits.
-/

namespace JobSearch.Number

open Float.Model (Format)
open Float.Model.UnpackedFloat

variable (b : BitVec Format.binary64.numBits)

theorem toNat_unpackExponent : (unpackExponent b).toNat = b.toNat / twoTo 52 % twoTo 11 := by
  simp [unpackExponent, BitVec.extractLsb_toNat, Nat.shiftRight_eq_div_pow, twoTo]

theorem toNat_unpackMantissa : (unpackMantissa b).toNat = b.toNat % twoTo 52 := by
  simp [unpackMantissa, BitVec.extractLsb_toNat, twoTo]

/-- Bits with the largest exponent and a fraction are no number. -/
theorem Reading.ofBits_eq_nan (h : isNaNBits b = true) : Reading.ofBits b.toNat = .nan := by
  obtain ⟨he, hm⟩ := of_decide_eq_true h
  have hfield : b.toNat / twoTo 52 % twoTo 11 = 2047 := by
    rw [← toNat_unpackExponent, he]
    rfl
  have hfraction : b.toNat % twoTo 52 ≠ 0 := by
    rw [← toNat_unpackMantissa]
    exact fun h0 => hm (BitVec.eq_of_toNat_eq h0)
  rw [Reading.ofBits, if_pos hfield, if_neg hfraction]

/-- Whether or not bits are a number, packing what was unpacked from them does not change how
they are read. -/
theorem Reading.ofBits_pack_unpack :
    Reading.ofBits (pack Format.binary64 (unpack Format.binary64 b)).toNat =
      Reading.ofBits b.toNat := by
  rw [pack_unpack b]
  split
  · next h =>
    rw [Reading.ofBits_eq_nan b h]
    exact Reading.ofBits_eq_nan _ isNaNBits_packedNaN
  · rfl

/-- The reading of the double made from some bits is that of the bits. -/
theorem Reading.ofFloat_ofBits (w : UInt64) :
    Reading.ofFloat (Float.ofBits w) = Reading.ofBits w.toNat :=
  Reading.ofBits_pack_unpack w.toBitVec

/-- A finite reading has a mantissa of at most 53 places and an exponent in the range of doubles,
and the mantissa has all its places unless the exponent is the least one. -/
theorem Reading.bounds_of_ofBits {bits : Nat} {negative : Bool} {m : Nat} {e : ℤ}
    (h : Reading.ofBits bits = .finite negative m e) :
    m < twoTo 53 ∧ -1074 ≤ e ∧ e ≤ 971 ∧ (twoTo 52 ≤ m ∨ e = -1074) := by
  have hfraction : bits % twoTo 52 < twoTo 52 := Nat.mod_lt _ (twoTo_pos 52)
  have hfield : bits / twoTo 52 % twoTo 11 < twoTo 11 := Nat.mod_lt _ (twoTo_pos 11)
  have h53 : twoTo 53 = 2 * twoTo 52 := rfl
  have h11 : twoTo 11 = 2048 := rfl
  rw [ofBits] at h
  split_ifs at h with hlargest hinfinite hleast
  · obtain ⟨-, rfl, rfl⟩ := Reading.finite.inj h
    omega
  · obtain ⟨-, rfl, rfl⟩ := Reading.finite.inj h
    omega

end JobSearch.Number
