import JobSearch.Proofs.Number.Product

/-!
# Comparing doubles

Doubles are compared by sign, exponent and mantissa. Since a mantissa has all its places unless the
exponent is the least one, this is how their exact values compare (`lt_iff_of_exactValue?`). Zeros
of both signs are equal, and two numbers are equal if they have the same place on the line
(`beq_iff_point?`).

## Main definitions

* `HasPoint` — what was taken apart from a double has a place on the line.
-/

namespace JobSearch.Number

open Float.Model (Format)
open Float.Model.UnpackedFloat

/-! ### Exponent and mantissa -/

theorem mul_two_zpow_lt {m m' : Nat} {e e' : ℤ} (hm : m < twoTo 53) (hm' : twoTo 52 ≤ m')
    (he : e < e') : (m : ℚ) * 2 ^ e < m' * 2 ^ e' := by
  have hlt : (m : ℚ) < 2 ^ (53 : ℤ) := by
    rw [← show ((twoTo 53 : Nat) : ℚ) = 2 ^ (53 : ℤ) from cast_twoTo 53]
    exact_mod_cast hm
  have hle : (2 : ℚ) ^ (52 : ℤ) ≤ m' := by
    rw [← show ((twoTo 52 : Nat) : ℚ) = 2 ^ (52 : ℤ) from cast_twoTo 52]
    exact_mod_cast hm'
  calc (m : ℚ) * 2 ^ e < 2 ^ (53 : ℤ) * 2 ^ e := by gcongr
    _ = 2 ^ (52 : ℤ) * 2 ^ (e + 1) := by
      rw [← zpow_add₀ two_ne_zero, ← zpow_add₀ two_ne_zero]
      congr 1
      ring
    _ ≤ m' * 2 ^ e' := by
      gcongr
      · norm_num
      · omega

/-- Exponents are compared first, then mantissas. -/
theorem FillsPlaces.compare_eq {m m' : Nat} {e e' : ℤ} (h : FillsPlaces m e)
    (h' : FillsPlaces m' e') :
    (compare e e').then (compare m m') = compare ((m : ℚ) * 2 ^ e) (m' * 2 ^ e') := by
  rcases lt_trichotomy e e' with hlt | rfl | hgt
  · have hfull : twoTo 52 ≤ m' := h'.places.resolve_right (h.le.trans_lt hlt).ne'
    rw [compare_lt_iff_lt.mpr hlt, compare_lt_iff_lt.mpr (mul_two_zpow_lt h.lt hfull hlt)]
    rfl
  · have hpos := two_zpow_pos e
    rw [compare_eq_iff_eq.mpr (rfl : e = e)]
    rcases lt_trichotomy m m' with hlt | rfl | hgt
    · refine (compare_lt_iff_lt.mpr hlt).trans (compare_lt_iff_lt.mpr ?_).symm
      gcongr
    · rw [compare_eq_iff_eq.mpr (rfl : m = m), compare_eq_iff_eq.mpr rfl]
      rfl
    · refine (compare_gt_iff_gt.mpr hgt).trans (compare_gt_iff_gt.mpr ?_).symm
      gcongr
  · have hfull : twoTo 52 ≤ m := h.places.resolve_right (h'.le.trans_lt hgt).ne'
    rw [compare_gt_iff_gt.mpr hgt, compare_gt_iff_gt.mpr (mul_two_zpow_lt h'.lt hfull hgt)]
    rfl

/-! ### Doubles taken apart -/

theorem compare_of_neg_of_neg {a b : ℚ} : compare (-a) (-b) = (compare a b).swap := by
  rcases lt_trichotomy a b with h | rfl | h
  · rw [compare_lt_iff_lt.mpr h, compare_gt_iff_gt.mpr (neg_lt_neg h)]
    rfl
  · rw [compare_eq_iff_eq.mpr rfl, compare_eq_iff_eq.mpr rfl]
    rfl
  · rw [compare_gt_iff_gt.mpr h, compare_lt_iff_lt.mpr (neg_lt_neg h)]
    rfl

/-- What was taken apart compares as the exact values do. -/
theorem HasValue.compare_eq {u v : Float.Model.UnpackedFloat} {p q : ℚ} (hu : HasValue u p)
    (hv : HasValue v q) : u.compare v = some (compare p q) := by
  cases hu with
  | zero s =>
    cases hv with
    | zero s' => rw [compare_eq_iff_eq.mpr rfl]; rfl
    | positive h' => rw [compare_lt_iff_lt.mpr h'.value_pos]; rfl
    | negative h' => rw [compare_gt_iff_gt.mpr (neg_neg_of_pos h'.value_pos)]; rfl
  | positive h =>
    cases hv with
    | zero s' => rw [compare_gt_iff_gt.mpr h.value_pos]; rfl
    | positive h' => rw [← h.compare_eq h']; rfl
    | negative h' =>
      rw [compare_gt_iff_gt.mpr ((neg_neg_of_pos h'.value_pos).trans h.value_pos)]; rfl
  | negative h =>
    cases hv with
    | zero s' => rw [compare_lt_iff_lt.mpr (neg_neg_of_pos h.value_pos)]; rfl
    | positive h' =>
      rw [compare_lt_iff_lt.mpr ((neg_neg_of_pos h.value_pos).trans h'.value_pos)]; rfl
    | negative h' => rw [compare_of_neg_of_neg, ← h.compare_eq h']; rfl

/-! ### Doubles -/

theorem beq_eq_compare (x y : Float) : (x == y) =
    ((unpack Format.binary64 x.toBits.toBitVec).compare
      (unpack Format.binary64 y.toBits.toBitVec) == some .eq) := rfl

theorem lt_iff_compare (x y : Float) : x < y ↔
    ((unpack Format.binary64 x.toBits.toBitVec).compare
      (unpack Format.binary64 y.toBits.toBitVec) == some .lt) = true := by
  show decide (_ = true) = true ↔ _
  rw [decide_eq_true_iff]
  rfl

section exact

variable {x y : Float} {p q : ℚ} (hx : exactValue? x = some p) (hy : exactValue? y = some q)
include hx hy

theorem lt_iff_of_exactValue? : x < y ↔ p < q := by
  rw [lt_iff_compare, (hasValue_of_exactValue? hx).compare_eq (hasValue_of_exactValue? hy),
    beq_iff_eq, Option.some_inj, compare_lt_iff_lt]

end exact

/-- What was taken apart from a double has a place on the line. -/
inductive HasPoint : Float.Model.UnpackedFloat → Point → Prop where
  | infinity (s : Sign) : HasPoint (.infinity s) (if isNegative s then .bottom else .top)
  | exactly {u : Float.Model.UnpackedFloat} {q : ℚ} (h : HasValue u q) : HasPoint u (.exactly q)

theorem exists_hasPoint {x : Float} (hx : isNaN x = false) :
    ∃ p, (Reading.ofFloat x).point? = some p ∧
      HasPoint (unpack Format.binary64 x.toBits.toBitVec) p := by
  cases hvalue : exactValue? x with
  | some q =>
    refine ⟨.exactly q, ?_, .exactly (hasValue_of_exactValue? hvalue)⟩
    obtain ⟨negative, m, e, hreading, rfl⟩ := exists_finite_of_exactValue? hvalue
    rw [hreading, Reading.point?]
  | none =>
    rw [exactValue?, Reading.ofFloat_eq_ofUnpacked] at hvalue
    rw [isNaN, Reading.ofFloat_eq_ofUnpacked] at hx
    rw [Reading.ofFloat_eq_ofUnpacked]
    cases hu : unpack Format.binary64 x.toBits.toBitVec with
    | infinity s => exact ⟨_, rfl, .infinity s⟩
    | notANumber => rw [hu] at hx; cases hx
    | _ => rw [hu] at hvalue; cases hvalue

/-- What was taken apart is equal if the places on the line are the same. -/
theorem HasPoint.compare_eq_iff {u v : Float.Model.UnpackedFloat} {p q : Point}
    (hu : HasPoint u p) (hv : HasPoint v q) : u.compare v = some .eq ↔ p = q := by
  cases hu with
  | infinity s =>
    cases hv with
    | infinity s' => cases s <;> cases s' <;> decide
    | exactly h => cases s <;> cases h <;> simp [Float.Model.UnpackedFloat.compare, isNegative]
  | exactly h =>
    cases hv with
    | infinity s => cases s <;> cases h <;> simp [Float.Model.UnpackedFloat.compare, isNegative]
    | exactly h' =>
      rw [h.compare_eq h', Option.some_inj, compare_eq_iff_eq, Point.exactly.injEq]

/-- Two numbers are equal if they have the same place on the line. -/
theorem beq_iff_point? {x y : Float} (hx : isNaN x = false) (hy : isNaN y = false) :
    (x == y) = true ↔ (Reading.ofFloat x).point? = (Reading.ofFloat y).point? := by
  obtain ⟨p, hxp, hp⟩ := exists_hasPoint hx
  obtain ⟨q, hyq, hq⟩ := exists_hasPoint hy
  rw [beq_eq_compare, beq_iff_eq, hp.compare_eq_iff hq, hxp, hyq, Option.some_inj]

end JobSearch.Number
