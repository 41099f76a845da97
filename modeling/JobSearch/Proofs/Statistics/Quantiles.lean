import JobSearch.Statistics.Order
import Mathlib

/-!
# Quantiles of exact numbers

A share between zero and one of the way through a list leads to a place between its first and its
last position, so the two positions around the place are inside the list (`exists_liesAt`). In an
ascending list the value at the place lies between the values at these positions (`LiesAt.low_le`,
`LiesAt.le_high`), and it is one of them if the place is a position itself. From place to place it
never falls (`LiesAt.mono`): within two positions it rises with the weight, and behind a position it
stays above the value there.

## Main definitions

* `LiesAt` — the value of a list at a place.
-/

namespace JobSearch

/-! ### Values at positions -/

section positions

variable {α : Type} {xs : List α}

theorem exists_valueAt {position : ℤ} (hlow : 0 ≤ position) (hhigh : position < xs.length) :
    ∃ x, xs[position.toNat]? = some x ∧ valueAt xs position = .ok x := by
  have hlt : position.toNat < xs.length := by omega
  refine ⟨xs[position.toNat], List.getElem?_eq_getElem hlt, ?_⟩
  rw [valueAt]
  simp only [if_neg (not_lt.mpr hlow), List.getElem?_eq_getElem hlt]

/-- A value is found if the positions around the place are inside the list. -/
theorem exists_quantile [Graded α] {share : α} {lower upper : ℤ}
    (hlower : Graded.floor (placeOf xs share) = .ok lower)
    (hupper : Graded.ceiling (placeOf xs share) = .ok upper) (hlow : 0 ≤ lower)
    (hle : lower ≤ upper) (hhigh : upper < xs.length) :
    ∃ low high, xs[lower.toNat]? = some low ∧ xs[upper.toNat]? = some high ∧
      quantile xs share = .ok (between low high (placeOf xs share - Graded.ofInt lower)) := by
  obtain ⟨low, hlowAt, hlowValue⟩ := exists_valueAt hlow (hle.trans_lt hhigh)
  obtain ⟨high, hhighAt, hhighValue⟩ := exists_valueAt (hlow.trans hle) hhigh
  have hempty : xs.isEmpty = false := by
    cases xs with
    | nil => simp at hhigh; omega
    | cons x xs => rfl
  refine ⟨low, high, hlowAt, hhighAt, ?_⟩
  rw [quantile, hempty]
  simp only [Bool.false_eq_true, if_false, hlower, hupper, hlowValue, hhighValue]

end positions

/-! ### Values at places -/

/-- The value of a list at a place: the values at the positions around it, weighted by how far the
place is behind the first of them. -/
structure LiesAt (xs : List ℚ) (place low high v : ℚ) : Prop where
  low_at : xs[place.floor.toNat]? = some low
  high_at : xs[place.ceil.toNat]? = some high
  value : v = low * (1 - (place - place.floor)) + high * (place - place.floor)

variable {xs : List ℚ}

theorem le_of_positions (hxs : xs.Pairwise (· ≤ ·)) {i j : Nat} (hij : i ≤ j) {a b : ℚ}
    (ha : xs[i]? = some a) (hb : xs[j]? = some b) : a ≤ b := by
  obtain ⟨hi, rfl⟩ := List.getElem?_eq_some_iff.mp ha
  obtain ⟨hj, rfl⟩ := List.getElem?_eq_some_iff.mp hb
  rcases hij.lt_or_eq with hlt | rfl
  · exact List.pairwise_iff_getElem.mp hxs i j hi hj hlt
  · exact le_rfl

theorem floor_le_ceil (q : ℚ) : q.floor ≤ q.ceil := by
  exact_mod_cast (Rat.floor_le q).trans Rat.le_ceil

theorem ceil_le_floor_add_one (q : ℚ) : q.ceil ≤ q.floor + 1 := by
  rw [Rat.ceil_le_iff]
  exact_mod_cast (Rat.lt_floor_add_one q).le

/-- A number that is no integer lies strictly between two of them. -/
theorem ceil_eq_of_floor_lt {q : ℚ} (h : (q.floor : ℚ) < q) : q.ceil = q.floor + 1 := by
  have hlt : (q.floor : ℚ) < q.ceil := h.trans_le Rat.le_ceil
  exact le_antisymm (ceil_le_floor_add_one q) (by exact_mod_cast hlt)

namespace LiesAt

variable {place low high v place' low' high' v' : ℚ}

theorem low_le_high (h : LiesAt xs place low high v) (hxs : xs.Pairwise (· ≤ ·)) : low ≤ high :=
  le_of_positions hxs (Int.toNat_le_toNat (floor_le_ceil place)) h.low_at h.high_at

/-- Seen from the value in front the value at a place is higher by a part of the distance. -/
theorem eq_add (h : LiesAt xs place low high v) :
    v = low + (high - low) * (place - place.floor) := by
  rw [h.value]
  ring

theorem low_le (h : LiesAt xs place low high v) (hxs : xs.Pairwise (· ≤ ·)) : low ≤ v := by
  have hdistance : 0 ≤ high - low := sub_nonneg.mpr (h.low_le_high hxs)
  have hweight : 0 ≤ place - place.floor := sub_nonneg.mpr (Rat.floor_le place)
  rw [h.eq_add]
  exact le_add_of_nonneg_right (mul_nonneg hdistance hweight)

theorem le_high (h : LiesAt xs place low high v) (hxs : xs.Pairwise (· ≤ ·)) : v ≤ high := by
  have hdistance : 0 ≤ high - low := sub_nonneg.mpr (h.low_le_high hxs)
  have hweight : place - place.floor ≤ 1 := by
    have := Rat.lt_floor_add_one place
    push_cast at this
    linarith
  rw [h.eq_add]
  calc low + (high - low) * (place - place.floor) ≤ low + (high - low) * 1 := by gcongr
    _ = high := by ring

/-- At a position itself the value there is found. -/
theorem eq_of_position (h : LiesAt xs place low high v) {k : ℤ} (hk : place = k) :
    v = low ∧ v = high := by
  have hfloor : place.floor = k := by rw [hk, Rat.floor_intCast]
  have hceil : place.ceil = k := by rw [hk, Rat.ceil_intCast]
  have hsame : low = high := by
    have hlow := h.low_at
    rw [hfloor, ← hceil, h.high_at] at hlow
    exact (Option.some.inj hlow).symm
  have hv : v = low := by rw [h.eq_add, hfloor, hk, sub_self, mul_zero, add_zero]
  exact ⟨hv, hv.trans hsame⟩

/-- From place to place the value never falls. -/
theorem mono (h : LiesAt xs place low high v) (h' : LiesAt xs place' low' high' v')
    (hxs : xs.Pairwise (· ≤ ·)) (hle : place ≤ place') : v ≤ v' := by
  have hfloor : place.floor ≤ place'.floor := Rat.floor_monotone hle
  rcases hfloor.lt_or_eq with hlt | heq
  · -- A position lies between the two places.
    have hbetween : place.ceil.toNat ≤ place'.floor.toNat :=
      Int.toNat_le_toNat ((ceil_le_floor_add_one place).trans hlt)
    calc v ≤ high := h.le_high hxs
      _ ≤ low' := le_of_positions hxs hbetween h.high_at h'.low_at
      _ ≤ v' := h'.low_le hxs
  · obtain rfl : low = low' := by
      have hlow := h.low_at
      rw [heq, h'.low_at] at hlow
      exact (Option.some.inj hlow).symm
    rcases (Rat.floor_le place).lt_or_eq with hplace | hplace
    · -- Both places lie behind the same position, and in front of the same one.
      have hplace' : (place'.floor : ℚ) < place' := heq ▸ hplace.trans_le hle
      obtain rfl : high = high' := by
        have hhigh := h.high_at
        rw [ceil_eq_of_floor_lt hplace, heq, ← ceil_eq_of_floor_lt hplace', h'.high_at] at hhigh
        exact (Option.some.inj hhigh).symm
      have hdistance : 0 ≤ high - low := sub_nonneg.mpr (h.low_le_high hxs)
      rw [h.eq_add, h'.eq_add, heq]
      gcongr
    · rw [(h.eq_of_position hplace.symm).1]
      exact h'.low_le hxs

end LiesAt

/-! ### Shares -/

section share

variable {share : ℚ} (hne : xs ≠ [])
include hne

theorem last_position_nonneg : (0 : ℚ) ≤ ((xs.length - 1 : ℤ) : ℚ) := by
  have hlength : (1 : ℤ) ≤ xs.length := by exact_mod_cast List.length_pos_iff.mpr hne
  exact_mod_cast sub_nonneg.mpr hlength

theorem floor_placeOf_nonneg (hlow : 0 ≤ share) : 0 ≤ (placeOf xs share).floor := by
  have hplace : 0 ≤ placeOf xs share := mul_nonneg hlow (last_position_nonneg hne)
  exact Rat.le_floor_iff.mpr (by exact_mod_cast hplace)

theorem ceil_placeOf_lt (hhigh : share ≤ 1) : (placeOf xs share).ceil < xs.length := by
  have hle : (placeOf xs share).ceil ≤ (xs.length - 1 : ℤ) :=
    Rat.ceil_le_iff.mpr (mul_le_of_le_one_left (last_position_nonneg hne) hhigh)
  omega

/-- A share between zero and one of the way through a list leads to a value of it. -/
theorem exists_liesAt (hlow : 0 ≤ share) (hhigh : share ≤ 1) :
    ∃ low high v, LiesAt xs (placeOf xs share) low high v ∧ quantile xs share = .ok v := by
  obtain ⟨low, high, hlowAt, hhighAt, hquantile⟩ := exists_quantile
    (show Graded.floor (placeOf xs share) = .ok (placeOf xs share).floor from rfl)
    (show Graded.ceiling (placeOf xs share) = .ok (placeOf xs share).ceil from rfl)
    (floor_placeOf_nonneg hne hlow) (floor_le_ceil _) (ceil_placeOf_lt hne hhigh)
  refine ⟨low, high, _, ⟨hlowAt, hhighAt, ?_⟩, hquantile⟩
  show low * (((1 : ℤ) : ℚ) - _) + high * _ = _
  rw [Int.cast_one]
  rfl

/-- The value at a greater share is not smaller. -/
theorem quantile_mono (hxs : xs.Pairwise (· ≤ ·)) {share' : ℚ} (hlow : 0 ≤ share)
    (hle : share ≤ share') (hhigh : share' ≤ 1) :
    ∃ v v', quantile xs share = .ok v ∧ quantile xs share' = .ok v' ∧ v ≤ v' := by
  obtain ⟨_, _, v, hlies, hv⟩ := exists_liesAt hne hlow (hle.trans hhigh)
  obtain ⟨_, _, v', hlies', hv'⟩ := exists_liesAt hne (hlow.trans hle) hhigh
  refine ⟨v, v', hv, hv', hlies.mono hlies' hxs ?_⟩
  exact mul_le_mul_of_nonneg_right hle (last_position_nonneg hne)

/-- Nothing of the way leads to the first value. -/
theorem quantile_zero : quantile xs 0 = .ok (xs.head hne) := by
  obtain ⟨low, high, v, hlies, hv⟩ := exists_liesAt hne (le_refl 0) zero_le_one
  have hplace : placeOf xs (0 : ℚ) = ((0 : ℤ) : ℚ) := by
    show (0 : ℚ) * _ = _
    rw [zero_mul, Int.cast_zero]
  have hlow := hlies.low_at
  rw [hplace, Rat.floor_intCast, Int.toNat_zero, ← List.head?_eq_getElem?,
    List.head?_eq_some_head hne] at hlow
  rw [hv, (hlies.eq_of_position hplace).1, Option.some.inj hlow]

/-- The whole of the way leads to the last value. -/
theorem quantile_one : quantile xs 1 = .ok (xs.getLast hne) := by
  obtain ⟨low, high, v, hlies, hv⟩ := exists_liesAt hne zero_le_one (le_refl 1)
  have hplace : placeOf xs (1 : ℚ) = ((xs.length - 1 : ℤ) : ℚ) := one_mul _
  have hlow := hlies.low_at
  have hlast : (xs.length - 1 : ℤ).toNat = xs.length - 1 := by omega
  rw [hplace, Rat.floor_intCast, hlast, ← List.getLast?_eq_getElem?,
    List.getLast?_eq_some_getLast hne] at hlow
  rw [hv, (hlies.eq_of_position hplace).1, Option.some.inj hlow]

end share

end JobSearch
