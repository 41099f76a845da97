import JobSearch.Proofs.Number.Rounding

/-!
# Products of doubles

Two doubles are multiplied by taking them apart, multiplying what they stand for exactly, and
rounding once. While it is rounded a mantissa gives up places, of which only two bits are kept:
these tell on which side of the middle it lies (`HasLost.roundedMantissa_eq`). So what is put
together again are the bits of the double nearest to the exact product, or of an infinity beyond the
largest double (`toNat_pack_roundWithAccuracy`). A natural number becomes a double in the same way,
as a mantissa that is rounded.

## Main definitions

* `Reading.ofUnpacked` — what a double that was taken apart stands for.
* `HasValue` — what was taken apart has an exact value.
* `HasLost` — what a mantissa has lost when it gave up some places.

## Main statements

* `exactValue?_mul`, `reading_mul_infinite` — the value of a product.
* `exactValue?_ofNat`, `reading_ofNat` — the value of a natural number as a double.
-/

namespace JobSearch.Number

open Float.Model (Format totalExponent)
open Float.Model.UnpackedFloat

/-! ### Doubles taken apart -/

/-- Whether a sign is the negative one. -/
def isNegative : Sign → Bool
  | .negative => true
  | .positive => false

/-- What a double that was taken apart stands for. -/
def Reading.ofUnpacked : Float.Model.UnpackedFloat → Reading
  | .notANumber => .nan
  | .infinity s => .infinite (isNegative s)
  | .zero s => .finite (isNegative s) 0 (-1074)
  | .finite s m e _ => .finite (isNegative s) m e

theorem toNat_unpackSign (b : BitVec Format.binary64.numBits) :
    (unpackSign b).toNat = b.toNat / twoTo 63 % 2 := by
  simp [unpackSign, BitVec.extractLsb_toNat, Nat.shiftRight_eq_div_pow, twoTo]

theorem isNegative_ofBitVec (b : BitVec 1) : isNegative (Sign.ofBitVec b) = (b.toNat == 1) := by
  revert b
  decide

theorem toNat_implicit (m : BitVec 52) : (1#1 ++ m).toNat = m.toNat + twoTo 52 := by
  rw [BitVec.toNat_append, ← Nat.shiftLeft_add_eq_or_of_lt m.isLt]
  simp [Nat.shiftLeft_eq, twoTo, add_comm]

/-- Bits are read as what they are taken apart into. -/
theorem Reading.ofBits_eq_ofUnpacked (b : BitVec Format.binary64.numBits) :
    Reading.ofBits b.toNat = .ofUnpacked (unpack Format.binary64 b) := by
  have hsign : (b.toNat / twoTo 63 % 2 == 1) = isNegative (Sign.ofBitVec (unpackSign b)) := by
    rw [isNegative_ofBitVec, toNat_unpackSign]
  have hlargest : unpackExponent b = -1#_ ↔ b.toNat / twoTo 52 % twoTo 11 = 2047 := by
    rw [← toNat_unpackExponent, ← BitVec.toNat_inj]
    rfl
  have hleast : unpackExponent b = 0#_ ↔ b.toNat / twoTo 52 % twoTo 11 = 0 := by
    rw [← toNat_unpackExponent, ← BitVec.toNat_inj]
    rfl
  have hfraction : unpackMantissa b = 0#_ ↔ b.toNat % twoTo 52 = 0 := by
    rw [← toNat_unpackMantissa, ← BitVec.toNat_inj]
    rfl
  rw [Reading.ofBits, unpack]
  simp only [hlargest, hleast, hfraction, hsign]
  split_ifs with h1 h2 h3 h4
  · rfl
  · rfl
  · rw [Reading.ofUnpacked, h4]
  · rw [Reading.ofUnpacked, toNat_unpackMantissa, toNat_unpackExponent, h3]
    rfl
  · rw [Reading.ofUnpacked, toNat_implicit, toNat_unpackMantissa, toNat_unpackExponent]
    rfl

theorem Reading.ofFloat_eq_ofUnpacked (x : Float) :
    Reading.ofFloat x = .ofUnpacked (unpack Format.binary64 x.toBits.toBitVec) :=
  Reading.ofBits_eq_ofUnpacked _

/-- The mantissa has at most 53 places, and has all of them unless the exponent is the least one. -/
structure FillsPlaces (m : Nat) (e : ℤ) : Prop where
  pos : 0 < m
  lt : m < twoTo 53
  le : -1074 ≤ e
  places : twoTo 52 ≤ m ∨ e = -1074

theorem FillsPlaces.value_pos {m : Nat} {e : ℤ} (h : FillsPlaces m e) :
    (0 : ℚ) < m * 2 ^ e := by
  have hm : (0 : ℚ) < m := by exact_mod_cast h.pos
  positivity

/-- What was taken apart from a double has an exact value. -/
inductive HasValue : Float.Model.UnpackedFloat → ℚ → Prop where
  | zero (s : Sign) : HasValue (.zero s) 0
  | positive {m : Nat} {e : ℤ} (h : FillsPlaces m e) :
    HasValue (.finite .positive m e h.pos) (m * 2 ^ e)
  | negative {m : Nat} {e : ℤ} (h : FillsPlaces m e) :
    HasValue (.finite .negative m e h.pos) (-(m * 2 ^ e))

theorem hasValue_of_exactValue? {x : Float} {q : ℚ} (hx : exactValue? x = some q) :
    HasValue (unpack Format.binary64 x.toBits.toBitVec) q := by
  have hreading := Reading.ofFloat_eq_ofUnpacked x
  rw [exactValue?, hreading] at hx
  cases hu : unpack Format.binary64 x.toBits.toBitVec with
  | notANumber =>
    rw [hu] at hx
    cases hx
  | infinity s =>
    rw [hu] at hx
    cases hx
  | zero s =>
    rw [hu] at hx
    obtain rfl : 0 = q := by
      cases s <;> simpa [Reading.ofUnpacked, Reading.value?, scaled_eq, isNegative] using hx
    exact .zero s
  | finite s m e hm =>
    rw [hu] at hx hreading
    obtain ⟨hlt, hle, -, hplaces⟩ := Reading.bounds_of_ofBits hreading
    rw [Reading.ofUnpacked, Reading.value?, scaled_eq] at hx
    obtain rfl := Option.some.inj hx
    cases s with
    | positive => exact .positive ⟨hm, hlt, hle, hplaces⟩
    | negative => exact .negative ⟨hm, hlt, hle, hplaces⟩

/-! ### Doubles put together -/

theorem toNat_packComponents (s : Sign) (e : BitVec 11) (m : BitVec 52) :
    (packComponents Format.binary64 s e m).toNat =
      e.toNat * twoTo 52 + m.toNat + signBits (isNegative s) := by
  have hsign : s.toBitVec.toNat * twoTo 11 * twoTo 52 = signBits (isNegative s) := by
    cases s <;> rfl
  have hbits : (packComponents Format.binary64 s e m).toNat =
      (s.toBitVec.toNat * twoTo 11 + e.toNat) * twoTo 52 + m.toNat := by
    rw [packComponents, BitVec.toNat_append, ← Nat.shiftLeft_add_eq_or_of_lt m.isLt,
      BitVec.toNat_append, ← Nat.shiftLeft_add_eq_or_of_lt e.isLt, Nat.shiftLeft_eq,
      Nat.shiftLeft_eq]
    rfl
  rw [hbits, add_mul, hsign]
  omega

/-- The bits of a mantissa and an exponent that were rounded are their magnitude, which is an
infinity beyond the largest double. -/
theorem toNat_pack_finite (s : Sign) {m : Nat} {e : ℤ} (hpos : 0 < m) (hm : m < twoTo 53)
    (he : -1074 ≤ e) (hnormal : m < twoTo 52 → e = -1074) :
    (pack Format.binary64 (.finite s m e hpos)).toNat =
      min (magnitudeBits m e) infinityBits + signBits (isNegative s) := by
  have hbias : (e + Format.binary64.exponentBias + Format.binary64.mantissaBitsWithoutImplicit) =
      e + 1075 := by
    show e + 1023 + 52 = e + 1075
    omega
  have h53 : twoTo 53 = 2 * twoTo 52 := rfl
  have h52 : twoTo 52 = 4503599627370496 := rfl
  rw [pack]
  simp only [hbias]
  split
  · -- The exponent is that of an infinity or above it.
    next hover =>
    have hover : 2048 ≤ (e + 1075).toNat + 1 := hover
    have hbits : infinityBits ≤ magnitudeBits m e := by
      simp only [magnitudeBits, infinityBits, h52]
      omega
    rw [packedInfinity, toNat_packComponents, min_eq_right hbits]
    rfl
  · next hover =>
    have hover : ¬2048 ≤ (e + 1075).toNat + 1 := hover
    have hbits : magnitudeBits m e ≤ infinityBits := by
      simp only [magnitudeBits, infinityBits, h52]
      omega
    rw [min_eq_left hbits]
    split
    · -- The leading place is not stored, but counts as one more for the exponent.
      next hlog =>
      have hlog : m.log2 + 1 = 53 := hlog
      have hhigh : twoTo 52 ≤ m := (Nat.le_log2 hpos.ne').mp (by omega)
      have hexp : (BitVec.ofNat 11 (e + 1075).toNat).toNat = (e + 1075).toNat := by
        rw [BitVec.toNat_ofNat]
        exact Nat.mod_eq_of_lt (by omega)
      have hfraction : (BitVec.ofNat 52 m).toNat = m - twoTo 52 := by
        rw [BitVec.toNat_ofNat]
        show m % twoTo 52 = m - twoTo 52
        rw [Nat.mod_eq_sub_mod hhigh]
        exact Nat.mod_eq_of_lt (by omega)
      rw [toNat_packComponents, hexp, hfraction, magnitudeBits]
      have hsucc : (e + 1075).toNat = (e + 1074).toNat + 1 := by omega
      rw [hsucc, add_mul]
      omega
    · -- Without the leading place the exponent is the least one.
      next hlog =>
      have hlog : ¬m.log2 + 1 = 53 := hlog
      have hlow : m < twoTo 52 := by
        have hlog2 : m.log2 < 53 := (Nat.log2_lt hpos.ne').mpr hm
        exact (Nat.log2_lt hpos.ne').mp (by omega)
      have hfraction : (BitVec.ofNat 52 m).toNat = m := by
        rw [BitVec.toNat_ofNat]
        exact Nat.mod_eq_of_lt hlow
      rw [toNat_packComponents, hfraction, hnormal hlow]
      simp [magnitudeBits]

/-! ### Rounding a mantissa -/

/-- What a mantissa has lost when it gave up some places: nothing, less than half of its last place,
half of it or more. -/
structure HasLost (em : ExtendedMantissa) (m k : Nat) : Prop where
  mantissa : em.mantissa = m / twoTo k
  roundBit : em.roundBit = decide (twoTo k ≤ 2 * (m % twoTo k))
  stickyBit : em.stickyBit = decide (m % twoTo k ≠ 0 ∧ 2 * (m % twoTo k) ≠ twoTo k)

theorem HasLost.shiftRightOne {em : ExtendedMantissa} {m k : Nat} (h : HasLost em m k) :
    HasLost em.shiftRightOne m (k + 1) := by
  have hpos := twoTo_pos k
  have hlt : m % twoTo k < twoTo k := Nat.mod_lt _ hpos
  have hmod : m % twoTo (k + 1) = m % twoTo k + twoTo k * (m / twoTo k % 2) := Nat.mod_mul
  have hbit : m / twoTo k % 2 = 0 ∨ m / twoTo k % 2 = 1 := Nat.mod_two_eq_zero_or_one _
  refine ⟨?_, ?_, ?_⟩
  · rw [ExtendedMantissa.shiftRightOne, h.mantissa, twoTo_succ, Nat.div_div_eq_div_mul]
  · rw [ExtendedMantissa.shiftRightOne, h.mantissa, hmod, twoTo_succ]
    rcases hbit with hbit | hbit <;> simp [hbit] <;> omega
  · rw [ExtendedMantissa.shiftRightOne, h.roundBit, h.stickyBit, hmod, twoTo_succ]
    rcases hbit with hbit | hbit <;> simp [hbit] <;> grind

theorem hasLost_shiftRight (m k : Nat) :
    HasLost (ExtendedMantissa.ofMantissaAndAccuracy m .exact >>> k) m k := by
  induction k with
  | zero => exact ⟨(Nat.div_one m).symm, by simp [Nat.mod_one]; rfl, by simp [Nat.mod_one]; rfl⟩
  | succ k ih => exact ih.shiftRightOne

/-- A mantissa that gave up some places is rounded to the nearest integer. -/
theorem HasLost.roundedMantissa_eq {em : ExtendedMantissa} {m k : Nat} (h : HasLost em m k) :
    em.roundedMantissa = roundDiv m (twoTo k) := by
  obtain ⟨mantissa, roundBit, stickyBit⟩ := em
  obtain ⟨hmantissa, hround, hsticky⟩ := h
  simp only at hmantissa hround hsticky
  have hpos := twoTo_pos k
  rw [roundDiv, ← hmantissa]
  rcases lt_trichotomy (2 * (m % twoTo k)) (twoTo k) with hlt | heq | hgt
  · rw [decide_eq_false (not_le.mpr hlt)] at hround
    rw [if_pos hlt, hround]
    cases stickyBit <;> rfl
  · rw [decide_eq_true heq.ge] at hround
    rw [decide_eq_false (fun h => h.2 heq)] at hsticky
    rw [if_neg heq.not_lt, if_neg heq.not_gt, hround, hsticky]
    rfl
  · rw [decide_eq_true hgt.le] at hround
    rw [decide_eq_true ⟨by omega, hgt.ne'⟩] at hsticky
    rw [if_neg hgt.not_gt, if_pos hgt, hround, hsticky]
    rfl

theorem targetExponent_eq (m : Nat) (e : ℤ) :
    Format.binary64.targetExponent (totalExponent m e) =
      max ((m.log2 : ℤ) + e - 52) (-1074) := by
  show max ((m.log2 : ℤ) + 1 + e - 53) (-1074) = _
  congr 1
  omega

theorem shiftToTargetExponent_eq {m k : Nat} {e : ℤ}
    (hk : (max ((m.log2 : ℤ) + e - 52) (-1074) - e).toNat = k) :
    shiftToTargetExponent Format.binary64 m e .exact =
      (ExtendedMantissa.ofMantissaAndAccuracy m .exact >>> k, e + k) := by
  rw [shiftToTargetExponent]
  simp only [targetExponent_eq, shiftToExponent, hk]

/-- A mantissa that was rounded is put together with its exponent. If rounding led to the power of
two just above 53 places then one place is given up, in which nothing is lost. -/
theorem toNat_pack_of_rounded (s : Sign) {r : Nat} {e : ℤ} (hr : r ≤ twoTo 53) (he : -1074 ≤ e)
    (hnormal : r < twoTo 52 → e = -1074) :
    let shifted := shiftToTargetExponent Format.binary64 r e .exact
    (pack Format.binary64 (if h : shifted.1.mantissa = 0 then .zero s
      else .finite s shifted.1.mantissa shifted.2 (Nat.pos_of_ne_zero h))).toNat =
      min (magnitudeBits r e) infinityBits + signBits (isNegative s) := by
  have h53 : twoTo 53 = 2 * twoTo 52 := rfl
  have h52 : twoTo 52 = 4503599627370496 := rfl
  rcases hr.lt_or_eq with hlt | rfl
  · have hlog : r.log2 ≤ 52 := by
      rcases Nat.eq_zero_or_pos r with rfl | hpos
      · decide
      · exact Nat.lt_succ_iff.mp ((Nat.log2_lt hpos.ne').mpr hlt)
    rw [shiftToTargetExponent_eq (k := 0) (by omega)]
    show (pack Format.binary64 (if h : r = 0 then .zero s
      else .finite s r (e + (0 : Nat)) (Nat.pos_of_ne_zero h))).toNat = _
    rw [Nat.cast_zero, add_zero]
    split
    · next hzero =>
      subst hzero
      rw [hnormal (twoTo_pos 52)]
      show (packedZero Format.binary64 s).toNat = _
      rw [packedZero, toNat_packComponents]
      simp [magnitudeBits]
    · next hne => exact toNat_pack_finite s (Nat.pos_of_ne_zero hne) hlt he hnormal
  · have hlog : (twoTo 53).log2 = 53 := Nat.log2_two_pow
    rw [shiftToTargetExponent_eq (k := 1) (by rw [hlog]; omega)]
    have hhalf : (ExtendedMantissa.ofMantissaAndAccuracy (twoTo 53) .exact >>> 1).mantissa =
        twoTo 52 := by
      rw [(hasLost_shiftRight (twoTo 53) 1).mantissa, h53]
      exact Nat.mul_div_cancel_left _ two_pos
    have hsame : magnitudeBits (twoTo 52) (e + (1 : Nat)) = magnitudeBits (twoTo 53) e := by
      have hsucc : (e + (1 : Nat) + 1074).toNat = (e + 1074).toNat + 1 := by omega
      rw [magnitudeBits, magnitudeBits, hsucc, h53]
      ring
    simp only [hhalf]
    rw [dif_neg (twoTo_pos 52).ne', toNat_pack_finite s (twoTo_pos 52) (by omega) (by omega)
      (by omega), hsame]

/-- A positive mantissa with an exponent is rounded to the bits of the nearest double, or to an
infinity beyond the largest one. -/
theorem toNat_pack_roundWithAccuracy (s : Sign) {num den m : Nat} {e : ℤ} (hnum : 0 < num)
    (hden : 0 < den) (hm : 0 < m) (h : (num : ℚ) / den = m * 2 ^ e)
    (he : e ≤ max ((m.log2 : ℤ) + e - 52) (-1074)) :
    (pack Format.binary64 (roundWithAccuracy Format.binary64 s m e .exact)).toNat =
      min (nearestBits num den) infinityBits + signBits (isNegative s) := by
  obtain ⟨k, hk⟩ : ∃ k : Nat, e + k = max ((m.log2 : ℤ) + e - 52) (-1074) :=
    ⟨(max ((m.log2 : ℤ) + e - 52) (-1074) - e).toNat, by omega⟩
  have hnearest := nearest_of_scaled hnum hden hm h hk
  have hlast : lastPlace num den = e + k := by rw [← nearest_snd hden, hnearest]
  have hround := (hasLost_shiftRight m k).roundedMantissa_eq
  have hmantissa : (nearest num den).1 = roundDiv m (twoTo k) := by rw [hnearest]
  have hle := nearest_le_twoTo hnum hden
  have hnormal : (nearest num den).1 < twoTo 52 → e + k = -1074 := by
    intro hlt
    by_contra hne
    exact absurd (twoTo_le_nearest hnum hden (hlast ▸ hne)) (by omega)
  rw [roundWithAccuracy, shiftToTargetExponent_eq (k := k) (by omega), nearestBits]
  simp only [hround, ← hmantissa, hlast]
  exact toNat_pack_of_rounded s hle (by omega) hnormal

/-- The bits of the double nearest to a quotient have the value of the nearest grid point. -/
theorem value?_of_rounded {num den bits : Nat} (hnum : 0 < num) (hden : 0 < den)
    (hbits : bits = min (nearestBits num den) infinityBits + signBits false)
    (hfit : nearestBits num den < infinityBits) :
    (Reading.ofBits bits).value? = some (rounded num den) := by
  rw [hbits, min_eq_left hfit.le]
  exact value?_nearestBits hnum hden false hfit

/-! ### Products -/

/-- A product is formed from what the doubles are taken apart into. -/
theorem Reading.ofFloat_mul (x y : Float) : Reading.ofFloat (x * y) =
    .ofBits (pack Format.binary64 (mul Format.binary64
      (unpack Format.binary64 x.toBits.toBitVec)
      (unpack Format.binary64 y.toBits.toBitVec))).toNat := rfl

/-- A positive double is a mantissa and an exponent. -/
theorem exists_unpack_eq_finite {x : Float} {q : ℚ} (hx : exactValue? x = some q) (hq : 0 < q) :
    ∃ m e hm, unpack Format.binary64 x.toBits.toBitVec = .finite .positive m e hm ∧
      q = m * 2 ^ e ∧ (twoTo 52 ≤ m ∨ e = -1074) := by
  have hvalue := hasValue_of_exactValue? hx
  generalize unpack Format.binary64 x.toBits.toBitVec = u at hvalue
  cases hvalue with
  | zero s => exact absurd hq (lt_irrefl 0)
  | positive h => exact ⟨_, _, h.pos, rfl, rfl, h.places⟩
  | negative h => exact absurd hq (neg_neg_of_pos h.value_pos).not_gt

/-- The product of two positive doubles is the double nearest to the exact product, unless that lies
beyond the largest double. -/
theorem exactValue?_mul {x y : Float} {p q : ℚ} (hx : exactValue? x = some p)
    (hy : exactValue? y = some q) (hp : 0 < p) (hq : 0 < q) {num den : Nat} (hnum : 0 < num)
    (hden : 0 < den) (h : (num : ℚ) / den = p * q)
    (hfit : nearestBits num den < infinityBits) :
    exactValue? (x * y) = some (rounded num den) := by
  obtain ⟨m, e, hm, hxu, rfl, hplaces⟩ := exists_unpack_eq_finite hx hp
  obtain ⟨m', e', hm', hyu, rfl, hplaces'⟩ := exists_unpack_eq_finite hy hq
  have he : e + e' ≤ max (((m * m').log2 : ℤ) + (e + e') - 52) (-1074) := by
    by_cases hlow : twoTo 52 ≤ m * m'
    · have hlog : 52 ≤ (m * m').log2 := (Nat.le_log2 (Nat.mul_pos hm hm').ne').mpr hlow
      omega
    · have hmle : m ≤ m * m' := Nat.le_mul_of_pos_right m hm'
      have hmle' : m' ≤ m * m' := Nat.le_mul_of_pos_left m' hm
      omega
  have hvalue : (num : ℚ) / den = (m * m' : Nat) * 2 ^ (e + e') := by
    rw [h, Nat.cast_mul, zpow_add₀ two_ne_zero]
    ring
  have hbits := toNat_pack_roundWithAccuracy .positive hnum hden (Nat.mul_pos hm hm') hvalue he
  rw [exactValue?, Reading.ofFloat_mul, hxu, hyu]
  exact value?_of_rounded hnum hden hbits hfit

/-- A positive double times zero is zero. -/
theorem exactValue?_mul_zero {x : Float} {p : ℚ} (hx : exactValue? x = some p) (hp : 0 < p) :
    exactValue? (x * Float.ofNat 0) = some 0 := by
  obtain ⟨m, e, hm, hxu, -, -⟩ := exists_unpack_eq_finite hx hp
  have hzero : unpack Format.binary64 (Float.ofNat 0).toBits.toBitVec = .zero .positive := rfl
  have hbits : (pack Format.binary64 (.zero .positive)).toNat = 0 := by decide
  rw [exactValue?, Reading.ofFloat_mul, hxu, hzero]
  refine (congrArg (fun bits => (Reading.ofBits bits).value?) hbits).trans ?_
  exact exactValue?_zero false

/-- A positive double times infinity is infinity. -/
theorem reading_mul_infinite {x y : Float} {p : ℚ} (hx : exactValue? x = some p) (hp : 0 < p)
    (hy : Reading.ofFloat y = .infinite false) : Reading.ofFloat (x * y) = .infinite false := by
  obtain ⟨m, e, hm, hxu, -, -⟩ := exists_unpack_eq_finite hx hp
  rw [Reading.ofFloat_eq_ofUnpacked] at hy
  rw [Reading.ofFloat_mul, hxu]
  cases hyu : unpack Format.binary64 y.toBits.toBitVec with
  | infinity s =>
    rw [hyu] at hy
    cases s with
    | negative => cases hy
    | positive =>
      show Reading.ofBits (pack Format.binary64 (.infinity .positive)).toNat = _
      decide
  | notANumber =>
    rw [hyu] at hy
    cases hy
  | zero s =>
    rw [hyu] at hy
    cases hy
  | finite s m e hm =>
    rw [hyu] at hy
    cases hy

/-! ### Natural numbers -/

theorem log2_shiftLeft {m : Nat} (hm : 0 < m) (k : Nat) : (m <<< k).log2 = m.log2 + k := by
  rw [Nat.shiftLeft_eq]
  refine (Nat.log2_eq_iff (by positivity)).mpr ⟨?_, ?_⟩
  · rw [pow_add]
    gcongr
    exact Nat.log2_self_le hm.ne'
  · rw [add_right_comm, pow_add]
    gcongr
    exact Nat.lt_log2_self

/-- Any positive mantissa with an exponent is rounded to the bits of the nearest double. -/
theorem toNat_pack_round {num den m : Nat} {e : ℤ} (hnum : 0 < num) (hden : 0 < den)
    (hm : 0 < m) (h : (num : ℚ) / den = m * 2 ^ e) :
    (pack Format.binary64 (round Format.binary64 .positive m e)).toNat =
      min (nearestBits num den) infinityBits + signBits false := by
  rw [Float.Model.UnpackedFloat.round]
  simp only [targetExponent_eq, decreaseExponent]
  generalize hk : (e - max ((m.log2 : ℤ) + e - 52) (-1074)).toNat = k
  have hlog := log2_shiftLeft hm k
  refine toNat_pack_roundWithAccuracy .positive hnum hden ?_ ?_ (by omega)
  · rw [Nat.shiftLeft_eq]
    positivity
  · rw [h, Nat.shiftLeft_eq, Nat.cast_mul, Nat.cast_pow, zpow_sub₀ two_ne_zero, zpow_natCast]
    have hpos : (0 : ℚ) < 2 ^ k := by positivity
    push_cast
    field_simp

theorem nearestBits_lt_of_lt {n : Nat} (hn : 0 < n) (hlt : n < twoTo 53) :
    nearestBits n 1 < infinityBits := by
  refine nearestBits_lt hn Nat.one_pos (lt_trans ?_ two_zpow_lt_top)
  calc (n : ℚ) / (1 : Nat) = n := by rw [Nat.cast_one, div_one]
    _ < (twoTo 53 : Nat) := by exact_mod_cast hlt
    _ = 2 ^ (53 : ℤ) := cast_twoTo 53
    _ ≤ 2 ^ (1000 : ℤ) := two_zpow_le (by norm_num)

/-- Natural numbers of at most 53 places are doubles. -/
theorem exactValue?_toFloat {n : Nat} (hn : 0 < n) (hlt : n < twoTo 53) :
    exactValue? n.toUInt64.toFloat = some (n : ℚ) := by
  have hword : n.toUInt64.toNat = n := by
    rw [Nat.toUInt64, UInt64.toNat_ofNat']
    exact Nat.mod_eq_of_lt (hlt.trans (by decide))
  have hvalue : exactValue? n.toUInt64.toFloat = (Reading.ofBits (pack Format.binary64
      (normalize Format.binary64 (n.toUInt64.toNat : ℤ) 0 .positive)).toNat).value? := rfl
  have hcompare : compare (n : ℤ) 0 = .gt := Int.compare_eq_gt.mpr (by omega)
  have hfit := nearestBits_lt_of_lt hn hlt
  have hbits := toNat_pack_round (e := 0) hn Nat.one_pos hn (by simp)
  rw [hvalue, hword, Float.Model.UnpackedFloat.normalize, hcompare, ← rounded_natCast hn hlt]
  exact value?_of_rounded hn Nat.one_pos hbits hfit

/-- Natural numbers of more than 53 places are rounded. -/
theorem toNat_toBits_ofNat {n : Nat} (hn : 0 < n) (hge : ¬n < twoTo 53) :
    (Float.ofNat n).toBits.toNat =
      min (nearestBits n 1) infinityBits + signBits false := by
  have hsmall : ¬(n < 2 ^ 53 ∧ 0 ≤ 22) := fun h => hge h.1
  have hofNat : Float.ofNat n = Float.ofScientific n false 0 := rfl
  have hbits : (Float.ofModel (Float.Model.ofScientific n (Int.ofNat 0))).toBits.toNat =
      (pack Format.binary64 (ofScientific Format.binary64 n 0)).toNat := rfl
  have hscientific : ofScientific Format.binary64 n 0 = roundWithAccuracy Format.binary64
      .positive (n <<< 53 * 10 ^ 0) (-53 + 0) .exact := by
    rw [ofScientific, dif_neg hn.ne', if_neg (by decide), if_neg, if_pos le_rfl]
    · rfl
    · have hnonneg : 0 ≤ (2 : ℤ) ^ Format.binary64.exponentBits + n.log2 := by positivity
      omega
  have hlog := log2_shiftLeft hn 53
  rw [hofNat, Float.ofScientific, dif_neg hsmall]
  refine hbits.trans ?_
  rw [hscientific, pow_zero, mul_one, add_zero]
  refine toNat_pack_roundWithAccuracy .positive hn Nat.one_pos ?_ ?_ (by omega)
  · rw [Nat.shiftLeft_eq]
    positivity
  · rw [Nat.shiftLeft_eq, Nat.cast_mul, mul_assoc]
    norm_num

/-- The double made from a natural number is the nearest one, unless the number lies beyond the
largest double. -/
theorem exactValue?_ofNat {n : Nat} (hn : 0 < n)
    (hfit : nearestBits n 1 < infinityBits) :
    exactValue? (Float.ofNat n) = some (rounded n 1) := by
  by_cases hlt : n < twoTo 53
  · -- A small number goes through a machine word and is multiplied by one, its power of ten.
    have hsmall : n < 2 ^ 53 ∧ 0 ≤ 22 := ⟨hlt, Nat.zero_le 22⟩
    have hofNat : Float.ofNat n = Float.ofScientific n false 0 := rfl
    have hone : exactValue? (Float.ofBits 0x3FF0000000000000) = some 1 := by decide
    rw [hofNat, Float.ofScientific, dif_pos hsmall]
    refine exactValue?_mul (exactValue?_toFloat hn hlt) hone ?_ one_pos hn Nat.one_pos ?_ hfit
    · exact_mod_cast hn
    · rw [Nat.cast_one, div_one, mul_one]
  · exact value?_of_rounded hn Nat.one_pos (toNat_toBits_ofNat hn hlt) hfit

/-- The double made from a natural number beyond the largest double is an infinity. -/
theorem reading_ofNat {n : Nat} (hn : 0 < n)
    (hover : ¬nearestBits n 1 < infinityBits) :
    Reading.ofFloat (Float.ofNat n) = .infinite false := by
  have hge : ¬n < twoTo 53 := fun hlt => hover (nearestBits_lt_of_lt hn hlt)
  have hbits := toNat_toBits_ofNat hn hge
  rw [min_eq_right (not_lt.mp hover)] at hbits
  rw [Reading.ofFloat, hbits]
  decide

end JobSearch.Number
