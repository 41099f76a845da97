import JobSearch.Proofs.Number.Rounding
import JobSearch.Query.Postings

/-!
# The number of pages

The number of pages is the quotient of total and size as a double, rounded up. A double keeps 53
places, so the quotient is not exact; up to `2 ^ 53` postings it still does not fall to an integer
below it, and the number of pages is the exact one (`totalPages_eq`). It is so for pages of any size
up to the one at which the quotient falls to zero: from `2 ^ 1075` times the postings on, no page is
counted though there are postings (`totalPages_isLeast_iff`).

## Main definitions

* `pageCount` — the number of pages of a size that a number of postings fills.
-/

namespace JobSearch

open Number

/-- The number of pages of a size that a number of postings fills. -/
def pageCount (total size : Nat) : Nat := (total + size - 1) / size

section pageCount

variable {total size : Nat} (hsize : 0 < size)
include hsize

/-- A page is among them if there are postings beyond the pages before it. -/
theorem lt_pageCount_iff {k : Nat} : k < pageCount total size ↔ k * size < total := by
  rw [pageCount, Nat.lt_iff_add_one_le, Nat.le_div_iff_mul_le hsize, Nat.succ_mul]
  omega

theorem le_pageCount_mul : total ≤ pageCount total size * size :=
  Nat.not_lt.mp fun h => Nat.lt_irrefl _ ((lt_pageCount_iff hsize).mpr h)

/-- The offsets of all pages fit the storage if postings can be counted exactly. -/
theorem offset_lt {k : Nat} (hk : k < pageCount total size) (hmax : total ≤ twoTo 53) :
    k * size < twoTo 63 := by
  have hlt := (lt_pageCount_iff hsize).mp hk
  have h53 : twoTo 53 < twoTo 63 := by decide
  omega

end pageCount

section pageCount

variable {total size : Nat}

/-- The pages are the least number of pages that hold all postings. -/
theorem isLeast_pageCount (total : Nat) (hsize : 0 < size) :
    IsLeast {n : ℤ | (total : ℤ) ≤ n * size} (pageCount total size) := by
  refine ⟨?_, fun n hn => ?_⟩
  · rw [Set.mem_ofPred_eq]
    exact_mod_cast le_pageCount_mul hsize
  rw [Set.mem_ofPred_eq] at hn
  have hs : (0 : ℤ) < size := by exact_mod_cast hsize
  lift n to Nat using by
    by_contra hneg
    have := Int.mul_neg_of_neg_of_pos (not_le.mp hneg) hs
    omega
  by_contra hlt
  have hlt : n < pageCount total size := by exact_mod_cast not_le.mp hlt
  have := (lt_pageCount_iff hsize).mp hlt
  exact absurd hn (by exact_mod_cast not_le.mpr this)

theorem pageCount_zero (hsize : 0 < size) : pageCount 0 size = 0 :=
  Nat.eq_zero_of_not_pos fun h => by simpa using (lt_pageCount_iff hsize).mp h

/-- One page holds all postings if they are not more than its size. -/
theorem pageCount_eq_one (htotal : 0 < total) (h : total ≤ size) : pageCount total size = 1 := by
  have hsize : 0 < size := by omega
  have hfirst : 0 < pageCount total size := (lt_pageCount_iff hsize).mpr (by omega)
  have hlast : ¬1 < pageCount total size := fun hlt => by
    have := (lt_pageCount_iff hsize).mp hlt
    omega
  omega

end pageCount

/-! ### The quotient as a double -/

section quotient

variable {num den : Nat} (hnum : 0 < num) (hden : 0 < den)
include hnum hden

/-- The last place of a quotient of numbers of moderate size is the 53rd. -/
theorem lastPlace_of_lt (hfit : den < twoTo 63) :
    lastPlace num den = leadingPlace num den - 52 := by
  have hd : (0 : ℚ) < den := by exact_mod_cast hden
  have hn : (1 : ℚ) ≤ num := by exact_mod_cast hnum
  have hlow : (2 : ℚ) ^ (-63 : ℤ) ≤ num / den := by
    have hle : (den : ℚ) ≤ 2 ^ (63 : ℤ) := by
      rw [← Nat.cast_ofNat (R := ℤ), ← cast_twoTo]
      exact_mod_cast hfit.le
    rw [le_div_iff₀ hd, zpow_neg, inv_mul_le_iff₀ (two_zpow_pos _)]
    linarith
  have hlead := le_leadingPlace hnum hden hlow
  rw [lastPlace]
  omega

/-- A quotient of at most `2 ^ 53` that is no power of two lies more than half of its last place
above every integer below it. -/
theorem add_half_place_lt (hmax : num ≤ twoTo 53) (hfit : den < twoTo 63)
    (hne : (2 : ℚ) ^ leadingPlace num den < num / den) {j : Nat} (hj : j * den < num) :
    (j : ℚ) + 2 ^ (lastPlace num den - 1) < num / den := by
  have hd : (0 : ℚ) < den := by exact_mod_cast hden
  have hn : (num : ℚ) ≤ 2 ^ (53 : ℤ) := by
    rw [← Nat.cast_ofNat (R := ℤ), ← cast_twoTo]
    exact_mod_cast hmax
  have hplace : lastPlace num den - 1 = leadingPlace num den - 53 := by
    rw [lastPlace_of_lt hnum hden hfit]
    ring
  have hhalf : (2 : ℚ) ^ (lastPlace num den - 1) < 1 / den := by
    rw [hplace, zpow_sub₀ two_ne_zero, div_lt_div_iff₀ (two_zpow_pos _) hd, one_mul]
    rw [lt_div_iff₀ hd] at hne
    exact hne.trans_le hn
  calc (j : ℚ) + 2 ^ (lastPlace num den - 1) < j + 1 / den := by gcongr
    _ = (j * den + 1 : Nat) / den := by push_cast; field_simp
    _ ≤ num / den := by gcongr; exact hj

/-- Rounding a quotient of at most `2 ^ 53` does not move it past an integer. -/
theorem ceil_rounded (hmax : num ≤ twoTo 53) (hfit : den < twoTo 63) :
    (rounded num den).ceil = pageCount num den := by
  have hd : (0 : ℚ) < den := by exact_mod_cast hden
  have hlast := lastPlace_of_lt hnum hden hfit
  have hup : (num : ℚ) / den ≤ pageCount num den := by
    rw [div_le_iff₀ hd]
    exact_mod_cast le_pageCount_mul hden
  have hcount : 0 < pageCount num den := (lt_pageCount_iff hden).mpr (by omega)
  obtain ⟨j, hj⟩ := Nat.exists_eq_add_of_lt hcount
  have hlow : j * den < num := (lt_pageCount_iff hden).mp (by omega)
  suffices h : rounded num den ≤ pageCount num den ∧ (j : ℚ) < rounded num den by
    refine le_antisymm (Rat.ceil_le_iff.mpr (by simpa using h.1)) ?_
    have hlt : (j : ℤ) < (rounded num den).ceil := Rat.lt_ceil_iff.mpr (by simpa using h.2)
    omega
  rcases (leadingPlace_spec hnum hden).1.eq_or_lt with heq | hlt
  · rw [rounded_eq_of_two_zpow hden hlast heq.symm]
    refine ⟨hup, ?_⟩
    rw [lt_div_iff₀ hd]
    exact_mod_cast hlow
  · have hplace : lastPlace num den ≤ 0 := by
      have hle : (num : ℚ) / den ≤ 2 ^ (53 : ℤ) := by
        refine (div_le_self (Nat.cast_nonneg _) (by exact_mod_cast hden)).trans ?_
        rw [← Nat.cast_ofNat (R := ℤ), ← cast_twoTo]
        exact_mod_cast hmax
      have := lt_of_two_zpow_lt (hlt.trans_le hle)
      omega
    exact ⟨rounded_le hden hplace hup,
      lt_rounded hden hplace (add_half_place_lt hnum hden hmax hfit hlt hlow)⟩

/-- A quotient of at most one is rounded to at most one. -/
theorem rounded_le_one (hle : num ≤ den) : rounded num den ≤ 1 := by
  have hd : (0 : ℚ) < den := by exact_mod_cast hden
  have hone : (num : ℚ) / den ≤ (1 : Nat) := by
    rw [div_le_iff₀ hd, Nat.cast_one, one_mul]
    exact_mod_cast hle
  have hlead : leadingPlace num den < 1 :=
    leadingPlace_lt hnum hden (hone.trans_lt (by norm_num))
  have hplace : lastPlace num den ≤ 0 := by
    rw [lastPlace]
    omega
  simpa using rounded_le hden hplace hone

/-- A positive quotient of at most one is rounded up to one, unless nothing is left of it as a
double. -/
theorem ceil_rounded_of_le (hle : num ≤ den) :
    (rounded num den).ceil = if den < num * twoTo 1075 then 1 else 0 := by
  have hd : (0 : ℚ) < den := by exact_mod_cast hden
  have hpos : 0 < rounded num den ↔ den < num * twoTo 1075 := by
    rw [rounded_pos_iff hnum hden, lt_div_iff₀ hd, ← Nat.cast_lt (α := ℚ), Nat.cast_mul, cast_twoTo,
      zpow_neg, inv_mul_lt_iff₀ (two_zpow_pos _), mul_comm]
    rfl
  split
  · next h =>
    refine le_antisymm (Rat.ceil_le_iff.mpr (by simpa using rounded_le_one hnum hden hle)) ?_
    exact Int.add_one_le_of_lt (Rat.lt_ceil_iff.mpr (by exact_mod_cast hpos.mpr h))
  · next h =>
    have hzero : rounded num den = 0 :=
      le_antisymm (not_lt.mp fun hlt => h (hpos.mp hlt)) (by rw [rounded]; positivity)
    rw [hzero]
    rfl

end quotient

/-! ### The number of pages -/

/-- A number of postings up to a moderate power of two can be counted by a double. -/
theorem lt_two_zpow_of_le {total k : Nat} (hk : k < 1000) (h : total ≤ twoTo k) :
    (total : ℚ) < 2 ^ (1000 : ℤ) := by
  have hle : (total : ℚ) ≤ 2 ^ (k : ℤ) := by
    rw [← cast_twoTo]
    exact_mod_cast h
  exact hle.trans_lt (zpow_lt_zpow_right₀ (by norm_num) (by exact_mod_cast hk))

/-- The number of pages is told unless there are more postings than a double can count. -/
theorem totalPages_eq_ceil {total size : Nat} (htotal : 0 < total) (hsize : 0 < size)
    (hmax : (total : ℚ) < 2 ^ (1000 : ℤ)) :
    totalPages total size = .ok (rounded total size).ceil := by
  have hlt : (total : ℚ) / size < 2 ^ (1000 : ℤ) :=
    (div_le_self (Nat.cast_nonneg _) (by exact_mod_cast hsize)).trans_lt hmax
  obtain ⟨x, hx, hvalue⟩ := exists_ofRatio? htotal hsize false hlt
  have hquotient : quotient? total size = some x := by
    have hsign : (decide ((total : Int) < 0) != decide ((size : Int) < 0)) = false := by
      simp [Int.not_lt.mpr (Int.natCast_nonneg _)]
    rw [← hx, quotient?, hsign]
    rfl
  rw [totalPages, if_neg (by omega), hquotient, Option.bind_some, ceiling?, hvalue]
  rfl

theorem totalPages_zero {size : Nat} (hsize : 0 < size) : totalPages (0 : Nat) size = .ok 0 := by
  have hzero : exactValue? (zero false) = some 0 := by
    rw [exactValue?, zero, Reading.ofFloat_ofBits]
    decide +kernel
  have hquotient : quotient? (0 : Nat) size = some (zero false) := by
    simp [quotient?, ofRatio?, Int.not_lt.mpr (Int.natCast_nonneg size)]
  rw [totalPages, if_neg (by omega), hquotient, Option.bind_some, ceiling?, hzero]
  rfl

theorem exists_totalPages {total size : Nat} (hsize : 0 < size) (hmax : total ≤ twoTo 64) :
    ∃ pages, totalPages total size = .ok pages := by
  rcases Nat.eq_zero_or_pos total with rfl | htotal
  · exact ⟨0, totalPages_zero hsize⟩
  · exact ⟨_, totalPages_eq_ceil htotal hsize (lt_two_zpow_of_le (by decide) hmax)⟩

/-- Up to `2 ^ 53` postings the number of pages is exact. -/
theorem totalPages_eq {total size : Nat} (hsize : 0 < size) (hfit : size < twoTo 63)
    (hmax : total ≤ twoTo 53) : totalPages total size = .ok (pageCount total size) := by
  rcases Nat.eq_zero_or_pos total with rfl | htotal
  · rw [totalPages_zero hsize, pageCount_zero hsize]
    rfl
  · have hlt := lt_two_zpow_of_le (by decide) hmax
    rw [totalPages_eq_ceil htotal hsize hlt, ceil_rounded htotal hsize hmax hfit]

/-! ### Pages of any size -/

/-- Postings that fit one page are on one page, unless the page is so large that their share of it
is zero as a double. -/
theorem totalPages_of_le {total size : Nat} (htotal : 0 < total) (hmax : total ≤ twoTo 53)
    (h : total ≤ size) :
    totalPages total size = .ok (if size < total * twoTo 1075 then 1 else 0) := by
  have hlt := lt_two_zpow_of_le (by decide) hmax
  rw [totalPages_eq_ceil htotal (by omega) hlt, ceil_rounded_of_le htotal (by omega) h]

/-- Up to `2 ^ 53` postings, the number of pages is the least one that holds them all if and only if
there are none or the size of a page is below `2 ^ 1075` times their number. From that size on no
page is counted. -/
theorem totalPages_isLeast_iff {total size : Nat} (hsize : 0 < size) (hmax : total ≤ twoTo 53) :
    ∃ pages : ℤ, totalPages total size = .ok pages ∧
      (IsLeast {n : ℤ | (total : ℤ) ≤ n * size} pages ↔
        total = 0 ∨ size < total * twoTo 1075) ∧
      (total * twoTo 1075 ≤ size → pages = 0) := by
  rcases Nat.eq_zero_or_pos total with rfl | htotal
  · refine ⟨0, totalPages_zero hsize, iff_of_true ?_ (Or.inl rfl), fun _ => rfl⟩
    have hleast := isLeast_pageCount 0 hsize
    rwa [pageCount_zero hsize] at hleast
  have hne : total ≠ 0 := by omega
  rcases le_or_gt total size with hle | hlt
  · have hleast := isLeast_pageCount total hsize
    rw [pageCount_eq_one htotal hle] at hleast
    refine ⟨_, totalPages_of_le htotal hmax hle, ?_⟩
    split
    · next h => exact ⟨iff_of_true hleast (Or.inr h), fun hge => absurd h (not_lt.mpr hge)⟩
    · next h =>
      refine ⟨iff_of_false (fun hzero => ?_) (by simp [hne, h]), fun _ => rfl⟩
      exact absurd (hzero.unique hleast) (by decide)
  · -- A page that does not hold all postings is far from too large.
    have hfit : size < twoTo 63 := by
      have h53 : twoTo 53 < twoTo 63 := by decide
      omega
    have hsmall : size < total * twoTo 1075 := by
      have := Nat.le_mul_of_pos_right total (twoTo_pos 1075)
      omega
    exact ⟨_, totalPages_eq hsize hfit hmax,
      iff_of_true (isLeast_pageCount total hsize) (Or.inr hsmall), fun hge => by omega⟩

/-- Of one posting and pages of `2 ^ 1074`, the quotient is the least double. -/
theorem totalPages_isLeast_of_vast : 0 < twoTo 1074 ∧ 1 ≤ twoTo 53 ∧
    ∃ pages : ℤ, totalPages (1 : Nat) (twoTo 1074) = .ok pages ∧
      IsLeast {n : ℤ | ((1 : Nat) : ℤ) ≤ n * (twoTo 1074 : Nat)} pages := by
  have hsize : 0 < twoTo 1074 := twoTo_pos 1074
  have hmax : 1 ≤ twoTo 53 := twoTo_pos 53
  obtain ⟨pages, hpages, hleast, -⟩ := totalPages_isLeast_iff hsize hmax
  have hfit : twoTo 1074 < 1 * twoTo 1075 := by
    have hdouble : twoTo 1075 = twoTo 1074 * 2 := twoTo_succ 1074
    omega
  exact ⟨hsize, hmax, pages, hpages, hleast.mpr (Or.inr hfit)⟩

/-- One posting on a page of `2 ^ 1075`: no page is counted, while one is needed. -/
theorem page_lost_to_underflow : totalPages (1 : Nat) (twoTo 1075) = .ok 0 ∧
    IsLeast {n : ℤ | ((1 : Nat) : ℤ) ≤ n * (twoTo 1075 : Nat)} 1 := by
  have hle : 1 ≤ twoTo 1075 := twoTo_pos 1075
  have hleast := isLeast_pageCount 1 (twoTo_pos 1075)
  rw [pageCount_eq_one Nat.one_pos hle] at hleast
  have hpages := totalPages_of_le Nat.one_pos (twoTo_pos 53) hle
  rw [if_neg (by rw [one_mul]; exact lt_irrefl _)] at hpages
  exact ⟨hpages, hleast⟩

end JobSearch
