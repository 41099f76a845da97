import JobSearch.Proofs.Number.Product
import JobSearch.Proofs.Statistics.Quantiles
import JobSearch.Statistics.Summary

/-!
# Places in a list of doubles

The value a share of the way through a list of doubles is looked for at a product of doubles, which
is rounded. The shares of a summary are far enough below one for the place to stay inside the list
all the same, so the value is found (`exists_percentile_iff`). It is not if the list is so long that
its last position has no double.
-/

namespace JobSearch

open Number

variable {xs : List Float} {share : Float}

theorem percentile_eq_ok_iff {x : Float} :
    percentile xs share = .ok x ↔ quantile xs share = .ok x := by
  rw [percentile]
  cases quantile xs share <;> simp [Except.mapError]

/-- A value is found at a place that lies inside the list. -/
theorem exists_quantile_of_place {q : ℚ}
    (hplace : exactValue? (placeOf xs share) = some q) (hlow : 0 ≤ q)
    (hhigh : q ≤ (xs.length - 1 : ℤ)) : ∃ x, quantile xs share = .ok x := by
  have hfloor : 0 ≤ q.floor := Rat.le_floor_iff.mpr (by exact_mod_cast hlow)
  have hceil : q.ceil ≤ xs.length - 1 := Rat.ceil_le_iff.mpr (by exact_mod_cast hhigh)
  have hexact : exactPlace (placeOf xs share) = .ok q := by rw [exactPlace, hplace]
  have hlower : Graded.floor (placeOf xs share) = .ok q.floor := congrArg (Except.map _) hexact
  have hupper : Graded.ceiling (placeOf xs share) = .ok q.ceil := congrArg (Except.map _) hexact
  obtain ⟨low, high, -, -, hquantile⟩ := exists_quantile hlower hupper hfloor (floor_le_ceil q)
    (by omega)
  exact ⟨_, hquantile⟩

/-- No value is found at an infinite place. -/
theorem quantile_of_infinite (hne : xs ≠ [])
    (hplace : Reading.ofFloat (placeOf xs share) = .infinite false) :
    quantile xs share = .error .unbounded := by
  have hexact : exactPlace (placeOf xs share) = .error .unbounded := by
    rw [exactPlace, exactValue?, isNaN, hplace]
    rfl
  have hlower : Graded.floor (placeOf xs share) = .error .unbounded :=
    congrArg (Except.map _) hexact
  have hempty : xs.isEmpty = false := by simpa using hne
  rw [quantile, hempty]
  simp only [Bool.false_eq_true, if_false, hlower]

/-! ### Places -/

/-- The last position of a list as a double. -/
theorem placeOf_eq {n : Nat} (hn : xs.length = n + 1) (share : Float) :
    placeOf xs share = share * Float.ofNat n := by
  have hlast : (xs.length - 1 : ℤ) = Int.ofNat n := by
    rw [hn]
    simp
  rw [placeOf, hlast]
  rfl

/-- A share that lies below one by more than rounding adds leads to a place inside the list. -/
theorem place_le {n y q v : ℚ} (hn : 1 ≤ n) (hq : 0 ≤ q) (hq' : q ≤ 995 / 1000)
    (hy : y ≤ n + (n * 2 ^ (-52 : ℤ) + 2 ^ (-1074 : ℤ)))
    (hv : v ≤ q * y + (q * y * 2 ^ (-52 : ℤ) + 2 ^ (-1074 : ℤ))) : v ≤ n := by
  have hsmall : (2 : ℚ) ^ (-52 : ℤ) ≤ 1 / 1000 := by norm_num
  have hleast : (2 : ℚ) ^ (-1074 : ℤ) ≤ 1 / 1000 := (two_zpow_le (by norm_num)).trans hsmall
  have hpos := two_zpow_pos (-52)
  generalize (2 : ℚ) ^ (-52 : ℤ) = small at *
  generalize (2 : ℚ) ^ (-1074 : ℤ) = least at *
  have hy' : y ≤ n + (n * (1 / 1000) + 1 / 1000) := hy.trans (by gcongr)
  have hplace : q * y ≤ 995 / 1000 * (n + (n * (1 / 1000) + 1 / 1000)) := by
    calc q * y ≤ q * (n + (n * (1 / 1000) + 1 / 1000)) := by gcongr
      _ ≤ 995 / 1000 * (n + (n * (1 / 1000) + 1 / 1000)) := by gcongr
  have hround : q * y * small ≤ 995 / 1000 * (n + (n * (1 / 1000) + 1 / 1000)) * (1 / 1000) := by
    calc q * y * small ≤ 995 / 1000 * (n + (n * (1 / 1000) + 1 / 1000)) * small := by gcongr
      _ ≤ 995 / 1000 * (n + (n * (1 / 1000) + 1 / 1000)) * (1 / 1000) := by gcongr
  linarith

/-- Every share of a summary is far enough below one. -/
theorem exactValue?_share {p : Nat} (hp : p ∈ summaryShares) :
    ∃ q, exactValue? (Float.ofNat p / 100) = some q ∧ 0 < q ∧ q ≤ 995 / 1000 := by
  have hall : ∀ p ∈ summaryShares, (exactValue? (Float.ofNat p / 100)).any
      (fun q => decide (0 < q ∧ q ≤ 995 / 1000)) = true := by
    decide +kernel
  obtain ⟨q, hq, hbounds⟩ := (Option.any_eq_true _ _).mp (hall p hp)
  exact ⟨q, hq, of_decide_eq_true hbounds⟩

/-- The place of a share among several values. -/
theorem exactValue?_placeOf {n : Nat} (hn : 0 < n) {q : ℚ} (hshare : exactValue? share = some q)
    (hq : 0 < q) (hq' : q ≤ 995 / 1000) (hfit : nearestBits n 1 < infinityBits) :
    ∃ v, exactValue? (share * Float.ofNat n) = some v ∧ 0 ≤ v ∧ v ≤ n := by
  have hlast := exactValue?_ofNat hn hfit
  have hpos : 0 < rounded n 1 := by
    rw [rounded_pos_iff hn Nat.one_pos, Nat.cast_one, div_one]
    calc (2 : ℚ) ^ (-1075 : ℤ) < 2 ^ (0 : ℤ) := zpow_lt_zpow_right₀ (by norm_num) (by norm_num)
      _ ≤ n := by
        rw [zpow_zero]
        exact_mod_cast hn
  have hproduct : 0 < q * rounded n 1 := mul_pos hq hpos
  have hle : q * rounded n 1 ≤ rounded n 1 := by
    calc q * rounded n 1 ≤ 1 * rounded n 1 := by
          gcongr
          exact hq'.trans (by norm_num)
      _ = rounded n 1 := one_mul _
  generalize hp : q * rounded n 1 = p at *
  have hnum : 0 < p.num.natAbs := Int.natAbs_pos.mpr (Rat.num_pos.mpr hproduct).ne'
  have hquotient : (p.num.natAbs : ℚ) / p.den = p := by
    rw [natAbs_div_den, abs_of_pos hproduct]
  have hlt : p < 2 ^ (1024 : ℤ) - 2 ^ (970 : ℤ) :=
    hle.trans_lt ((le_abs_self _).trans_lt (abs_lt_of_exactValue? hlast))
  have hfit' : nearestBits p.num.natAbs p.den < infinityBits :=
    nearestBits_lt hnum p.den_pos (hquotient.trans_lt hlt)
  refine ⟨_, exactValue?_mul hshare hlast hq hpos hnum p.den_pos (hquotient.trans hp.symm) hfit',
    ?_, ?_⟩
  · rw [rounded]
    positivity
  · have hadd := rounded_le_add hn Nat.one_pos
    have hadd' := rounded_le_add hnum p.den_pos
    rw [Nat.cast_one, div_one] at hadd
    rw [hquotient] at hadd'
    exact place_le (by exact_mod_cast hn) hq.le hq' hadd (hp ▸ hadd')

/-- The value at a share of a summary is found, unless the last position of the list lies beyond the
largest double. -/
theorem exists_percentile_iff (hne : xs ≠ []) {p : Nat} (hp : p ∈ summaryShares) :
    (∃ x, percentile xs (Float.ofNat p / 100) = .ok x) ↔
      ∃ y, ofInt? (xs.length - 1) = some y := by
  obtain ⟨q, hshare, hq, hq'⟩ := exactValue?_share hp
  obtain ⟨n, hn⟩ : ∃ n, xs.length = n + 1 := ⟨xs.length - 1, by
    have := List.length_pos_of_ne_nil hne
    omega⟩
  have hlast : ofInt? (xs.length - 1) = ofRatio? false n 1 := by
    rw [hn, Nat.cast_add_one, add_sub_cancel_right]
    rfl
  have hplace := placeOf_eq hn (Float.ofNat p / 100)
  simp only [percentile_eq_ok_iff, hlast]
  rcases Nat.eq_zero_or_pos n with rfl | hpos
  · refine iff_of_true (exists_quantile_of_place ?_ le_rfl ?_) ⟨_, if_pos rfl⟩
    · rw [hplace]
      exact exactValue?_mul_zero hshare hq
    · rw [hn]
      simp
  · rw [ofRatio?_eq hpos Nat.one_pos]
    by_cases hfit : nearestBits n 1 < infinityBits
    · obtain ⟨v, hv, hlow, hhigh⟩ := exactValue?_placeOf hpos hshare hq hq' hfit
      rw [if_pos hfit]
      refine iff_of_true (exists_quantile_of_place (hplace ▸ hv) hlow ?_) ⟨_, rfl⟩
      rw [hn]
      simpa using hhigh
    · rw [if_neg hfit]
      have hinfinite : Reading.ofFloat (placeOf xs (Float.ofNat p / 100)) = .infinite false :=
        hplace ▸ reading_mul_infinite hshare hq (reading_ofNat hpos hfit)
      rw [quantile_of_infinite hne hinfinite]
      simp

end JobSearch
