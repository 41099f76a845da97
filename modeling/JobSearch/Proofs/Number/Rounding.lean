import JobSearch.Proofs.Number.Bits

/-!
# The double nearest to a quotient

A quotient is rounded at its last place, to a multiple of a power of two. Rounding keeps the
multiples of that power on the same side (`le_nearest`, `nearest_le`) and goes up past the middle
(`lt_nearest`). The mantissa has at most 53 places, so if the result is not beyond the largest
double then the bits that are put together from it have its exact value
(`exists_ofRatio?`). Below half of the least place nothing is left of a quotient
(`rounded_pos_iff`).

All doubles lie below the middle of the largest one and the power of two above it
(`abs_lt_of_exactValue?`), and so does every number that has a nearest double (`nearestBits_lt`,
`exists_ofRat?`). Rounding adds less than one last place (`rounded_le_add`).

## Main definitions

* `rounded` — the exact value of the grid point nearest to a quotient.
* `nearestBits` — the bits of that grid point, without a sign.
-/

namespace JobSearch.Number

/-! ### Powers of two -/

theorem cast_twoTo (n : Nat) : ((twoTo n : Nat) : ℚ) = 2 ^ (n : ℤ) := by
  rw [twoTo, Nat.pow_eq, zpow_natCast]
  norm_cast

theorem cast_twoTo_toNat {e : ℤ} (he : 0 ≤ e) : ((twoTo e.toNat : Nat) : ℚ) = 2 ^ e := by
  rw [cast_twoTo, Int.toNat_of_nonneg he]

theorem two_zpow_pos (e : ℤ) : (0 : ℚ) < 2 ^ e := by positivity

theorem two_zpow_succ (e : ℤ) : (2 : ℚ) ^ (e + 1) = 2 * 2 ^ e := by
  rw [zpow_add_one₀ two_ne_zero, mul_comm]

theorem two_zpow_le {a b : ℤ} (h : a ≤ b) : (2 : ℚ) ^ a ≤ 2 ^ b :=
  zpow_le_zpow_right₀ (by norm_num) h

theorem lt_of_two_zpow_lt {a b : ℤ} (h : (2 : ℚ) ^ a < 2 ^ b) : a < b :=
  (zpow_lt_zpow_iff_right₀ (by norm_num)).mp h

theorem scaled_eq (m : Nat) (e : ℤ) : scaled m e = m * 2 ^ e := by
  rw [scaled]
  split
  · next he => rw [Nat.cast_mul, cast_twoTo_toNat he]
  · next he =>
    have hneg : 0 ≤ -e := by omega
    rw [Rat.mkRat_eq_div, Int.cast_natCast, cast_twoTo_toNat hneg, zpow_neg, div_inv_eq_mul]

/-! ### The first place of a quotient -/

section quotient

variable {num den : Nat} (hnum : 0 < num) (hden : 0 < den)

/-- A quotient lies above a power of two if a product of integers does. -/
theorem le_mul_twoTo_iff (hden : 0 < den) (num : Nat) (e : ℤ) :
    (if 0 ≤ e then den * twoTo e.toNat ≤ num else den ≤ num * twoTo (-e).toNat) ↔
      (2 : ℚ) ^ e ≤ num / den := by
  have hd : (0 : ℚ) < den := by exact_mod_cast hden
  rw [le_div_iff₀ hd]
  split
  · next he =>
    rw [← Nat.cast_le (α := ℚ), Nat.cast_mul, cast_twoTo_toNat he, mul_comm]
  · next he =>
    have hneg : 0 ≤ -e := by omega
    rw [← Nat.cast_le (α := ℚ), Nat.cast_mul, cast_twoTo_toNat hneg, zpow_neg,
      ← div_eq_mul_inv, le_div_iff₀ (two_zpow_pos e), mul_comm]

theorem leadingPlace_eq (hden : 0 < den) :
    leadingPlace num den =
      if (2 : ℚ) ^ ((num.log2 : ℤ) - den.log2) ≤ num / den then (num.log2 : ℤ) - den.log2
      else (num.log2 : ℤ) - den.log2 - 1 := by
  have h := le_mul_twoTo_iff hden num ((num.log2 : ℤ) - den.log2)
  rw [leadingPlace]
  simp only [← h]
  split <;> simp

include hnum hden

/-- A positive quotient lies between the power of two of its first place and the next one. -/
theorem leadingPlace_spec :
    (2 : ℚ) ^ leadingPlace num den ≤ num / den ∧
      (num : ℚ) / den < 2 ^ (leadingPlace num den + 1) := by
  have hd : (0 : ℚ) < den := by exact_mod_cast hden
  have hnlow : (2 : ℚ) ^ (num.log2 : ℤ) ≤ num := by
    rw [zpow_natCast]
    exact_mod_cast Nat.log2_self_le hnum.ne'
  have hnhigh : (num : ℚ) < 2 ^ ((num.log2 : ℤ) + 1) := by
    rw [← Nat.cast_add_one, zpow_natCast]
    exact_mod_cast Nat.lt_log2_self
  have hdlow : (2 : ℚ) ^ (den.log2 : ℤ) ≤ den := by
    rw [zpow_natCast]
    exact_mod_cast Nat.log2_self_le hden.ne'
  have hdhigh : (den : ℚ) < 2 ^ ((den.log2 : ℤ) + 1) := by
    rw [← Nat.cast_add_one, zpow_natCast]
    exact_mod_cast Nat.lt_log2_self
  have hlow : (2 : ℚ) ^ ((num.log2 : ℤ) - den.log2 - 1) ≤ num / den := by
    rw [le_div_iff₀ hd]
    calc (2 : ℚ) ^ ((num.log2 : ℤ) - den.log2 - 1) * den
        ≤ 2 ^ ((num.log2 : ℤ) - den.log2 - 1) * 2 ^ ((den.log2 : ℤ) + 1) := by gcongr
      _ = 2 ^ (num.log2 : ℤ) := by rw [← zpow_add₀ two_ne_zero]; congr 1; ring
      _ ≤ num := hnlow
  have hhigh : (num : ℚ) / den < 2 ^ ((num.log2 : ℤ) - den.log2 + 1) := by
    rw [div_lt_iff₀ hd]
    calc (num : ℚ) < 2 ^ ((num.log2 : ℤ) + 1) := hnhigh
      _ = 2 ^ ((num.log2 : ℤ) - den.log2 + 1) * 2 ^ (den.log2 : ℤ) := by
        rw [← zpow_add₀ two_ne_zero]; congr 1; ring
      _ ≤ 2 ^ ((num.log2 : ℤ) - den.log2 + 1) * den := by gcongr
  rw [leadingPlace_eq hden]
  split
  · next h => exact ⟨h, hhigh⟩
  · next h => exact ⟨hlow, by simpa using h⟩

/-- A quotient below a power of two has its first place below it. -/
theorem leadingPlace_lt {e : ℤ} (h : (num : ℚ) / den < 2 ^ e) : leadingPlace num den < e :=
  lt_of_two_zpow_lt ((leadingPlace_spec hnum hden).1.trans_lt h)

/-- A quotient from a power of two on has its first place there or above. -/
theorem le_leadingPlace {e : ℤ} (h : (2 : ℚ) ^ e ≤ num / den) : e ≤ leadingPlace num den :=
  Int.lt_add_one_iff.mp (lt_of_two_zpow_lt (h.trans_lt (leadingPlace_spec hnum hden).2))

end quotient

/-! ### Rounding to an integer -/

theorem le_roundDiv {num den k : Nat} (hden : 0 < den) (h : k * den ≤ num) :
    k ≤ roundDiv num den := by
  have hk : k ≤ num / den := (Nat.le_div_iff_mul_le hden).mpr h
  rw [roundDiv]
  split_ifs <;> omega

/-- A quotient before the middle of two integers is rounded down. -/
theorem roundDiv_le_of_lt {num den k : Nat} (hden : 0 < den) (h : 2 * num < (2 * k + 1) * den) :
    roundDiv num den ≤ k := by
  have hk : num / den < k + 1 := (Nat.div_lt_iff_lt_mul hden).mpr (by linarith)
  rcases (Nat.lt_succ_iff.mp hk).lt_or_eq with hlt | rfl
  · rw [roundDiv]
    split_ifs <;> omega
  · have hmod : 2 * (num % den) < den := by
      have := Nat.div_add_mod' num den
      linarith
    rw [roundDiv]
    rw [if_pos hmod]

/-- A quotient past the middle of two integers is rounded up. -/
theorem lt_roundDiv {num den k : Nat} (hden : 0 < den) (h : (2 * k + 1) * den < 2 * num) :
    k < roundDiv num den := by
  have hk : k ≤ num / den := (Nat.le_div_iff_mul_le hden).mpr (by linarith)
  rcases hk.lt_or_eq with hlt | rfl
  · rw [roundDiv]
    split_ifs <;> omega
  · have hmod : den < 2 * (num % den) := by
      have := Nat.div_add_mod' num den
      linarith
    rw [roundDiv]
    rw [if_neg (by omega), if_pos hmod]
    omega

/-- A quotient up to the middle of zero and one is rounded down, the tie to the even zero. -/
theorem roundDiv_eq_zero {num den : Nat} (hden : 0 < den) (h : 2 * num ≤ den) :
    roundDiv num den = 0 := by
  have hdiv : num / den = 0 := Nat.div_eq_of_lt (by omega)
  have hmod : num % den = num := Nat.mod_eq_of_lt (by omega)
  rw [roundDiv]
  simp only [hdiv, hmod]
  rcases h.lt_or_eq with hlt | heq
  · rw [if_pos hlt]
  · rw [if_neg (by omega), if_neg (by omega)]

/-- Rounding looks at the quotient only. -/
theorem roundDiv_congr {a b c d : Nat} (hb : 0 < b) (hd : 0 < d) (h : a * d = c * b) :
    roundDiv a b = roundDiv c d := by
  have hdiv : a / b = c / d := by
    rw [← Nat.mul_div_mul_right a b hd, h, mul_comm b d, Nat.mul_div_mul_right c d hb]
  have hmod : a % b * d = c % d * b := by
    rw [← Nat.mul_mod_mul_right, ← Nat.mul_mod_mul_right, h, mul_comm b d]
  have htwice : 2 * (a % b) * d = 2 * (c % d) * b := by rw [mul_assoc, mul_assoc, hmod]
  have hlow : 2 * (a % b) < b ↔ 2 * (c % d) < d := by
    rw [← Nat.mul_lt_mul_right hd, htwice, mul_comm b d, Nat.mul_lt_mul_right hb]
  have hhigh : b < 2 * (a % b) ↔ d < 2 * (c % d) := by
    rw [← Nat.mul_lt_mul_right hd, htwice, mul_comm b d, Nat.mul_lt_mul_right hb]
  rw [roundDiv, roundDiv]
  simp only [hdiv, hlow, hhigh]

/-! ### Rounding at the last place -/

section nearest

variable {num den : Nat} (hden : 0 < den)
include hden

/-- The mantissa is the quotient of two integers, rounded. -/
theorem nearest_eq (num : Nat) : ∃ a b : Nat, 0 < b ∧
    (a : ℚ) = num / den / 2 ^ lastPlace num den * b ∧
    nearest num den = (roundDiv a b, lastPlace num den) := by
  have hd : (den : ℚ) ≠ 0 := by exact_mod_cast hden.ne'
  have hp := (two_zpow_pos (lastPlace num den)).ne'
  rw [nearest]
  split
  · next he =>
    refine ⟨_, _, Nat.mul_pos hden (twoTo_pos _), ?_, rfl⟩
    rw [Nat.cast_mul, cast_twoTo_toNat he]
    field_simp
  · next he =>
    refine ⟨_, _, hden, ?_, rfl⟩
    rw [Nat.cast_mul, cast_twoTo_toNat (show 0 ≤ -lastPlace num den by omega), zpow_neg]
    field_simp

theorem le_nearest {k : Nat} (h : (k : ℚ) * 2 ^ lastPlace num den ≤ num / den) :
    k ≤ (nearest num den).1 := by
  obtain ⟨a, b, hb, ha, he⟩ := nearest_eq hden num
  have hbq : (0 : ℚ) < b := by exact_mod_cast hb
  rw [← le_div_iff₀ (two_zpow_pos _)] at h
  rw [he]
  refine le_roundDiv hb ?_
  rw [← Nat.cast_le (α := ℚ), Nat.cast_mul, ha]
  gcongr

/-- A quotient before the middle of two grid points is rounded down. -/
theorem nearest_le_of_lt {k : Nat}
    (h : (num : ℚ) / den < ((k : ℚ) + 1 / 2) * 2 ^ lastPlace num den) :
    (nearest num den).1 ≤ k := by
  obtain ⟨a, b, hb, ha, he⟩ := nearest_eq hden num
  have hbq : (0 : ℚ) < b := by exact_mod_cast hb
  rw [← div_lt_iff₀ (two_zpow_pos _)] at h
  rw [he]
  refine roundDiv_le_of_lt hb ?_
  rw [← Nat.cast_lt (α := ℚ), Nat.cast_mul, Nat.cast_mul, ha]
  push_cast
  calc (2 : ℚ) * (num / den / 2 ^ lastPlace num den * b) < 2 * ((k + 1 / 2) * b) := by gcongr
    _ = (2 * (k : ℚ) + 1) * b := by ring

theorem nearest_le {k : Nat} (h : (num : ℚ) / den ≤ k * 2 ^ lastPlace num den) :
    (nearest num den).1 ≤ k := by
  refine nearest_le_of_lt hden (h.trans_lt ?_)
  have hplace := two_zpow_pos (lastPlace num den)
  gcongr
  linarith

/-- A quotient past the middle of two grid points is rounded up. -/
theorem lt_nearest {k : Nat} (h : ((k : ℚ) + 1 / 2) * 2 ^ lastPlace num den < num / den) :
    k < (nearest num den).1 := by
  obtain ⟨a, b, hb, ha, he⟩ := nearest_eq hden num
  have hbq : (0 : ℚ) < b := by exact_mod_cast hb
  rw [← lt_div_iff₀ (two_zpow_pos _)] at h
  rw [he]
  refine lt_roundDiv hb ?_
  rw [← Nat.cast_lt (α := ℚ), Nat.cast_mul, Nat.cast_mul, ha]
  push_cast
  calc (2 * (k : ℚ) + 1) * b = 2 * ((k + 1 / 2) * b) := by ring
    _ < 2 * (num / den / 2 ^ lastPlace num den * b) := by gcongr

/-- A quotient up to the middle of zero and the first grid point is rounded down. -/
theorem nearest_eq_zero (h : (num : ℚ) / den ≤ 1 / 2 * 2 ^ lastPlace num den) :
    (nearest num den).1 = 0 := by
  obtain ⟨a, b, hb, ha, he⟩ := nearest_eq hden num
  rw [← div_le_iff₀ (two_zpow_pos _)] at h
  rw [he]
  refine roundDiv_eq_zero hb ?_
  rw [← Nat.cast_le (α := ℚ), Nat.cast_mul, ha]
  push_cast
  calc (2 : ℚ) * (num / den / 2 ^ lastPlace num den * b) ≤ 2 * (1 / 2 * b) := by gcongr
    _ = b := by ring

theorem nearest_snd : (nearest num den).2 = lastPlace num den := by
  obtain ⟨a, b, -, -, he⟩ := nearest_eq hden num
  rw [he]

end nearest

/-- A mantissa and an exponent are rounded by giving up the places below the last one. -/
theorem nearest_of_scaled {num den m k : Nat} {e : ℤ} (hnum : 0 < num) (hden : 0 < den)
    (hm : 0 < m) (h : (num : ℚ) / den = m * 2 ^ e)
    (hk : e + k = max ((m.log2 : ℤ) + e - 52) (-1074)) :
    nearest num den = (roundDiv m (twoTo k), e + k) := by
  have hlow : (2 : ℚ) ^ ((m.log2 : ℤ) + e) ≤ num / den := by
    rw [h, zpow_add₀ two_ne_zero, zpow_natCast]
    gcongr
    exact_mod_cast Nat.log2_self_le hm.ne'
  have hhigh : (num : ℚ) / den < 2 ^ ((m.log2 : ℤ) + e + 1) := by
    rw [h, add_right_comm, zpow_add₀ two_ne_zero, ← Nat.cast_add_one, zpow_natCast]
    gcongr
    exact_mod_cast Nat.lt_log2_self
  have hlead : leadingPlace num den = m.log2 + e :=
    le_antisymm (Int.lt_add_one_iff.mp (leadingPlace_lt hnum hden hhigh))
      (le_leadingPlace hnum hden hlow)
  have hlast : lastPlace num den = e + k := by rw [lastPlace, hlead, hk]
  obtain ⟨a, b, hb, ha, he⟩ := nearest_eq hden num
  have hbq : (0 : ℚ) < b := by exact_mod_cast hb
  rw [he, hlast, roundDiv_congr hb (twoTo_pos k)]
  rw [← Nat.cast_inj (R := ℚ), Nat.cast_mul, Nat.cast_mul, ha, h, hlast, cast_twoTo,
    zpow_add₀ two_ne_zero]
  have he := two_zpow_pos e
  have hk := two_zpow_pos k
  field_simp

/-! ### The bits of the result -/

/-- Sign, exponent and fraction are read off bits that are put together from them. -/
theorem Reading.ofBits_fields (negative : Bool) {field fraction : Nat} (hfield : field < 2047)
    (hfraction : fraction < twoTo 52) :
    Reading.ofBits (field * twoTo 52 + fraction + signBits negative) =
      if field = 0 then .finite negative fraction (-1074)
      else .finite negative (fraction + twoTo 52) ((field : ℤ) - 1075) := by
  have hsign : (field * twoTo 52 + fraction + signBits negative) / twoTo 63 % 2 =
      if negative then 1 else 0 := by
    simp only [signBits, twoTo, Nat.pow_eq] at hfraction ⊢
    split <;> omega
  have hexp : (field * twoTo 52 + fraction + signBits negative) / twoTo 52 % twoTo 11 = field := by
    simp only [signBits, twoTo, Nat.pow_eq] at hfraction ⊢
    split <;> omega
  have hlow : (field * twoTo 52 + fraction + signBits negative) % twoTo 52 = fraction := by
    simp only [signBits, twoTo, Nat.pow_eq] at hfraction ⊢
    split <;> omega
  have hneg : ((if negative then 1 else 0 : Nat) == 1) = negative := by cases negative <;> rfl
  rw [Reading.ofBits]
  simp only [hsign, hexp, hlow, hneg]
  rw [if_neg (by omega)]

/-- The bits of a mantissa and an exponent have their exact value, unless they no longer fit. -/
theorem value?_magnitudeBits (negative : Bool) {m : Nat} {e : ℤ} (he : -1074 ≤ e)
    (hm : m ≤ twoTo 53) (hnormal : m < twoTo 52 → e = -1074)
    (hfit : magnitudeBits m e < infinityBits) :
    (Reading.ofBits (magnitudeBits m e + signBits negative)).value? =
      some (if negative then -scaled m e else scaled m e) := by
  obtain ⟨k, rfl⟩ : ∃ k : Nat, e = (k : ℤ) - 1074 := ⟨(e + 1074).toNat, by omega⟩
  have hbits : magnitudeBits m ((k : ℤ) - 1074) = k * twoTo 52 + m := by simp [magnitudeBits]
  rw [hbits, infinityBits] at hfit
  rw [hbits]
  have h53 : twoTo 53 = 2 * twoTo 52 := rfl
  have hpos : 0 < twoTo 52 := twoTo_pos 52
  rcases lt_or_ge m (twoTo 52) with hlow | hlow
  · -- A subnormal number has the least exponent.
    obtain rfl : k = 0 := by
      have := hnormal hlow
      omega
    rw [Reading.ofBits_fields negative (by decide) hlow]
    rfl
  obtain ⟨r, rfl⟩ := Nat.exists_eq_add_of_le hlow
  rcases (show r ≤ twoTo 52 by omega).lt_or_eq with hr | rfl
  · have hsum : k * twoTo 52 + (twoTo 52 + r) = (k + 1) * twoTo 52 + r := by ring
    rw [hsum] at hfit ⊢
    have hfield : k + 1 < 2047 := by
      refine Nat.lt_of_mul_lt_mul_right (lt_of_le_of_lt ?_ hfit)
      exact Nat.le_add_right _ _
    rw [Reading.ofBits_fields negative hfield hr, if_neg (by omega), Reading.value?]
    have hexp : ((k + 1 : Nat) : ℤ) - 1075 = (k : ℤ) - 1074 := by omega
    rw [hexp, add_comm r]
  · -- The mantissa is the power of two just above 53 places.
    have hsum : k * twoTo 52 + (twoTo 52 + twoTo 52) = (k + 2) * twoTo 52 + 0 := by ring
    rw [hsum] at hfit ⊢
    have hfield : k + 2 < 2047 := by
      rw [Nat.add_zero] at hfit
      exact Nat.lt_of_mul_lt_mul_right hfit
    have hscaled : scaled (0 + twoTo 52) (((k + 2 : Nat) : ℤ) - 1075) =
        scaled (twoTo 52 + twoTo 52) ((k : ℤ) - 1074) := by
      have hexp : ((k + 2 : Nat) : ℤ) - 1075 = (k : ℤ) - 1074 + 1 := by omega
      rw [scaled_eq, scaled_eq, hexp, two_zpow_succ]
      push_cast
      ring
    rw [Reading.ofBits_fields negative hfield hpos, if_neg (by omega), Reading.value?, hscaled]

/-! ### The double nearest to a quotient -/

/-- The exact value of the grid point nearest to a quotient. -/
def rounded (num den : Nat) : ℚ := (nearest num den).1 * 2 ^ lastPlace num den

/-- The bits of the grid point nearest to a quotient, without a sign. -/
def nearestBits (num den : Nat) : Nat := magnitudeBits (nearest num den).1 (lastPlace num den)

section ofRatio

variable {num den : Nat} (hnum : 0 < num) (hden : 0 < den)
include hnum hden

/-- The mantissa of a quotient has at most 53 places. -/
theorem nearest_le_twoTo : (nearest num den).1 ≤ twoTo 53 := by
  refine nearest_le hden ((leadingPlace_spec hnum hden).2.le.trans ?_)
  rw [cast_twoTo, ← zpow_add₀ two_ne_zero]
  refine two_zpow_le ?_
  rw [lastPlace]
  omega

/-- The mantissa of a quotient has 53 places, unless the last place is the least one. -/
theorem twoTo_le_nearest (h : lastPlace num den ≠ -1074) : twoTo 52 ≤ (nearest num den).1 := by
  refine le_nearest hden (le_trans ?_ (leadingPlace_spec hnum hden).1)
  rw [cast_twoTo, ← zpow_add₀ two_ne_zero]
  refine two_zpow_le ?_
  rw [lastPlace] at h ⊢
  omega

omit hnum hden in
theorem two_zpow_lt_top : (2 : ℚ) ^ (1000 : ℤ) < 2 ^ (1024 : ℤ) - 2 ^ (970 : ℤ) := by
  have hhigh : (2 : ℚ) ^ (1000 : ℤ) < 2 ^ (1023 : ℤ) :=
    zpow_lt_zpow_right₀ (by norm_num) (by norm_num)
  have hlow : (2 : ℚ) ^ (970 : ℤ) < 2 ^ (1023 : ℤ) :=
    zpow_lt_zpow_right₀ (by norm_num) (by norm_num)
  rw [show (2 : ℚ) ^ (1024 : ℤ) = 2 * 2 ^ (1023 : ℤ) from two_zpow_succ 1023]
  generalize (2 : ℚ) ^ (1000 : ℤ) = a at *
  generalize (2 : ℚ) ^ (970 : ℤ) = b at *
  linarith

/-- A quotient that is nearer to the largest double than to the power of two above it has bits that
are those of a double. -/
theorem nearestBits_lt (hlt : (num : ℚ) / den < 2 ^ (1024 : ℤ) - 2 ^ (970 : ℤ)) :
    nearestBits num den < infinityBits := by
  have hm := nearest_le_twoTo hnum hden
  have hlead : leadingPlace num den < 1024 :=
    leadingPlace_lt hnum hden (hlt.trans (sub_lt_self _ (two_zpow_pos _)))
  rcases (Int.lt_add_one_iff.mp (show leadingPlace num den < 1023 + 1 from hlead)).lt_or_eq with
    hlow | hhigh
  · have hk : (lastPlace num den + 1074).toNat ≤ 2044 := by
      rw [lastPlace]
      omega
    simp only [nearestBits, magnitudeBits, infinityBits, twoTo, Nat.pow_eq] at hm ⊢
    omega
  · have hplace : lastPlace num den = 971 := by
      rw [lastPlace, hhigh]
      rfl
    have hmax : (nearest num den).1 ≤ twoTo 53 - 1 := by
      have htop : (2 : ℚ) ^ (1024 : ℤ) = 2 ^ (53 : ℤ) * 2 ^ (971 : ℤ) :=
        zpow_add₀ two_ne_zero 53 971
      have hlast : (2 : ℚ) ^ (971 : ℤ) = 2 * 2 ^ (970 : ℤ) := two_zpow_succ 970
      refine nearest_le_of_lt hden (hlt.trans_eq ?_)
      rw [hplace, Nat.cast_sub (twoTo_pos 53), cast_twoTo, htop, hlast]
      generalize (2 : ℚ) ^ (970 : ℤ) = last
      push_cast
      ring
    rw [nearestBits, hplace]
    simp only [magnitudeBits, infinityBits, twoTo, Nat.pow_eq] at hmax ⊢
    omega

/-- The bits of the nearest grid point have its value, unless they no longer fit. -/
theorem value?_nearestBits (negative : Bool) (hfit : nearestBits num den < infinityBits) :
    (Reading.ofBits (nearestBits num den + signBits negative)).value? =
      some (if negative then -rounded num den else rounded num den) := by
  have he : -1074 ≤ lastPlace num den := le_max_right _ _
  have hnormal : (nearest num den).1 < twoTo 52 → lastPlace num den = -1074 := by
    intro h
    by_contra hne
    exact absurd (twoTo_le_nearest hnum hden hne) (by omega)
  rw [nearestBits, value?_magnitudeBits negative he (nearest_le_twoTo hnum hden) hnormal hfit,
    scaled_eq]
  rfl

theorem ofRatio?_eq (negative : Bool) : ofRatio? negative num den =
    if nearestBits num den < infinityBits then
      some (Float.ofBits (UInt64.ofNat (nearestBits num den + signBits negative)))
    else none := by
  rw [ofRatio?, if_neg hnum.ne']
  simp only [nearest_snd hden]
  rfl

/-- The double nearest to a positive quotient has the value of the nearest grid point. -/
theorem exactValue?_of_fits (negative : Bool) (hfit : nearestBits num den < infinityBits) :
    ∃ x, ofRatio? negative num den = some x ∧
      exactValue? x = some (if negative then -rounded num den else rounded num den) := by
  have hword : (UInt64.ofNat (nearestBits num den + signBits negative)).toNat =
      nearestBits num den + signBits negative := by
    rw [UInt64.toNat_ofNat']
    refine Nat.mod_eq_of_lt ?_
    simp only [infinityBits, signBits, twoTo, Nat.pow_eq] at hfit ⊢
    split <;> omega
  refine ⟨_, by rw [ofRatio?_eq hnum hden, if_pos hfit], ?_⟩
  rw [exactValue?, Reading.ofFloat_ofBits, hword, value?_nearestBits hnum hden negative hfit]

/-- A quotient that is not too large has a nearest double, which has the value of the nearest
grid point. -/
theorem exists_ofRatio? (negative : Bool) (hlt : (num : ℚ) / den < 2 ^ (1000 : ℤ)) :
    ∃ x, ofRatio? negative num den = some x ∧
      exactValue? x = some (if negative then -rounded num den else rounded num den) :=
  exactValue?_of_fits hnum hden negative
    (nearestBits_lt hnum hden (hlt.trans two_zpow_lt_top))

end ofRatio

/-! ### The range of doubles -/

theorem exactValue?_zero (negative : Bool) : exactValue? (zero negative) = some 0 := by
  have hvalue := value?_magnitudeBits negative (le_refl (-1074)) (Nat.zero_le _) (fun _ => rfl)
    (show magnitudeBits 0 (-1074) < infinityBits by decide)
  have hword : (UInt64.ofNat (signBits negative)).toNat =
      magnitudeBits 0 (-1074) + signBits negative := by
    cases negative <;> decide
  rw [exactValue?, zero, Reading.ofFloat_ofBits, hword, hvalue, scaled_eq]
  cases negative <;> simp only [Nat.cast_zero, zero_mul, neg_zero, ite_self]

/-- What is found as the double nearest to a quotient has the value of the nearest grid point. -/
theorem exactValue?_of_ofRatio? {negative : Bool} {num den : Nat} (hden : 0 < den) {x : Float}
    (h : ofRatio? negative num den = some x) :
    exactValue? x = some (if negative then -rounded num den else rounded num den) := by
  rcases Nat.eq_zero_or_pos num with rfl | hnum
  · have hzero : rounded 0 den = 0 := by
      have hm : (nearest 0 den).1 ≤ 0 :=
        nearest_le hden (by rw [Nat.cast_zero, zero_div, zero_mul])
      rw [rounded, Nat.le_zero.mp hm, Nat.cast_zero, zero_mul]
    rw [ofRatio?, if_pos rfl] at h
    rw [← Option.some.inj h, hzero, exactValue?_zero]
    simp
  · have hfit : nearestBits num den < infinityBits := by
      by_contra hover
      rw [ofRatio?_eq hnum hden, if_neg hover] at h
      cases h
    obtain ⟨x', hx', hvalue⟩ := exactValue?_of_fits hnum hden negative hfit
    rw [hx'] at h
    rw [← Option.some.inj h, hvalue]

theorem scaled_nonneg (m : Nat) (e : ℤ) : 0 ≤ scaled m e := by
  rw [scaled_eq]
  positivity

/-- A double that has an exact value is finite. -/
theorem exists_finite_of_exactValue? {x : Float} {q : ℚ} (h : exactValue? x = some q) :
    ∃ negative m e, Reading.ofFloat x = .finite negative m e ∧
      q = if negative then -scaled m e else scaled m e := by
  rw [exactValue?] at h
  cases hx : Reading.ofFloat x with
  | finite negative m e =>
    rw [hx] at h
    exact ⟨negative, m, e, rfl, (Option.some.inj h).symm⟩
  | _ => rw [hx] at h; cases h

/-- No double lies beyond the largest one. -/
theorem abs_lt_of_exactValue? {x : Float} {q : ℚ} (h : exactValue? x = some q) :
    |q| < 2 ^ (1024 : ℤ) - 2 ^ (970 : ℤ) := by
  obtain ⟨negative, m, e, hx, hvalue⟩ := exists_finite_of_exactValue? h
  obtain ⟨hm, -, he, -⟩ := Reading.bounds_of_ofBits hx
  have hq : |q| = m * 2 ^ e := by
    rw [hvalue, ← scaled_eq]
    cases negative
    · exact abs_of_nonneg (scaled_nonneg m e)
    · exact (abs_neg _).trans (abs_of_nonneg (scaled_nonneg m e))
  have htop : (2 : ℚ) ^ (1024 : ℤ) = 2 ^ (53 : ℤ) * 2 ^ (971 : ℤ) := zpow_add₀ two_ne_zero 53 971
  have hm' : (m : ℚ) ≤ 2 ^ (53 : ℤ) - 1 := by
    have h53 : ((twoTo 53 : Nat) : ℚ) = 2 ^ (53 : ℤ) := cast_twoTo 53
    rw [← h53, le_sub_iff_add_le]
    exact_mod_cast hm
  have hlast : (2 : ℚ) ^ (970 : ℤ) < 2 ^ (971 : ℤ) :=
    zpow_lt_zpow_right₀ (by norm_num) (by norm_num)
  calc |q| = m * 2 ^ e := hq
    _ ≤ (2 ^ (53 : ℤ) - 1) * 2 ^ (971 : ℤ) :=
      mul_le_mul hm' (two_zpow_le he) (two_zpow_pos e).le (by norm_num)
    _ = 2 ^ (1024 : ℤ) - 2 ^ (971 : ℤ) := by rw [htop, sub_mul, one_mul]
    _ < 2 ^ (1024 : ℤ) - 2 ^ (970 : ℤ) := sub_lt_sub_left hlast _

theorem natAbs_div_den (q : ℚ) : (q.num.natAbs : ℚ) / q.den = |q| := by
  rw [Rat.abs_def, Rat.divInt_eq_div]
  simp

/-- Exact numbers below the middle of the largest double and the power of two above it have a
nearest double. -/
theorem exists_ofRat? {q : ℚ} (h : |q| < 2 ^ (1024 : ℤ) - 2 ^ (970 : ℤ)) :
    ∃ x, ofRat? q = some x := by
  rcases Nat.eq_zero_or_pos q.num.natAbs with hzero | hpos
  · exact ⟨_, by rw [ofRat?, ofRatio?, if_pos hzero]⟩
  · have hfit := nearestBits_lt hpos q.den_pos (by rwa [natAbs_div_den])
    obtain ⟨x, hx, -⟩ := exactValue?_of_fits hpos q.den_pos (decide (q.num < 0)) hfit
    exact ⟨x, hx⟩

/-- Integers below this middle have a nearest double. -/
theorem exists_ofInt? {n : ℤ} (h : n.natAbs < twoTo 1024 - twoTo 970) :
    ∃ x, ofInt? n = some x := by
  have hlt : |(n : ℚ)| < 2 ^ (1024 : ℤ) - 2 ^ (970 : ℤ) := by
    have hcast : ((n.natAbs : Nat) : ℚ) = |(n : ℚ)| := by
      rw [Nat.cast_natAbs, Int.cast_abs]
    rw [← hcast, lt_sub_iff_add_lt]
    have h1024 : ((twoTo 1024 : Nat) : ℚ) = 2 ^ (1024 : ℤ) := cast_twoTo 1024
    have h970 : ((twoTo 970 : Nat) : ℚ) = 2 ^ (970 : ℤ) := cast_twoTo 970
    rw [← h1024, ← h970]
    exact_mod_cast lt_tsub_iff_right.mp h
  exact exists_ofRat? hlt

theorem isNaN_of_exactValue? {x : Float} {q : ℚ} (h : exactValue? x = some q) :
    isNaN x = false := by
  obtain ⟨negative, m, e, hx, -⟩ := exists_finite_of_exactValue? h
  rw [isNaN, hx]
  rfl

/-! ### The error of rounding -/

/-- Rounding goes up by less than the last place. -/
theorem rounded_le_add {num den : Nat} (hnum : 0 < num) (hden : 0 < den) :
    rounded num den ≤ num / den + (num / den * 2 ^ (-52 : ℤ) + 2 ^ (-1074 : ℤ)) := by
  have hplace := two_zpow_pos (lastPlace num den)
  have hpos : (0 : ℚ) ≤ num / den / 2 ^ lastPlace num den := by positivity
  have hm : (nearest num den).1 ≤ ⌈(num : ℚ) / den / 2 ^ lastPlace num den⌉₊ := by
    refine nearest_le hden ?_
    rw [← div_le_iff₀ hplace]
    exact Nat.le_ceil _
  have hlast : (2 : ℚ) ^ lastPlace num den ≤ num / den * 2 ^ (-52 : ℤ) + 2 ^ (-1074 : ℤ) := by
    have hlead := (leadingPlace_spec hnum hden).1
    have hleast := two_zpow_pos (-1074)
    rcases max_choice (leadingPlace num den - 52) (-1074) with hmax | hmax
    · rw [lastPlace, hmax, sub_eq_add_neg, zpow_add₀ two_ne_zero]
      have : (2 : ℚ) ^ leadingPlace num den * 2 ^ (-52 : ℤ) ≤ num / den * 2 ^ (-52 : ℤ) := by gcongr
      linarith
    · rw [lastPlace, hmax]
      have : (0 : ℚ) ≤ num / den * 2 ^ (-52 : ℤ) := by positivity
      linarith
  calc rounded num den
      ≤ ⌈(num : ℚ) / den / 2 ^ lastPlace num den⌉₊ * 2 ^ lastPlace num den := by
        rw [rounded]
        gcongr
    _ ≤ (num / den / 2 ^ lastPlace num den + 1) * 2 ^ lastPlace num den := by
        gcongr
        exact (Nat.ceil_lt_add_one hpos).le
    _ = num / den + 2 ^ lastPlace num den := by
        field_simp
    _ ≤ _ := by gcongr

/-! ### Underflow -/

/-- A positive quotient is rounded to zero up to half of the least place, which is the tie. -/
theorem rounded_pos_iff {num den : Nat} (hnum : 0 < num) (hden : 0 < den) :
    0 < rounded num den ↔ (2 : ℚ) ^ (-1075 : ℤ) < num / den := by
  have hhalf : (1 : ℚ) / 2 * 2 ^ (-1074 : ℤ) = 2 ^ (-1075 : ℤ) := by
    rw [show (-1075 : ℤ) = -1074 - 1 from rfl, zpow_sub_one₀ two_ne_zero]
    ring
  constructor
  · intro h
    by_contra hle
    rw [not_lt] at hle
    have hlead : leadingPlace num den < -1074 :=
      leadingPlace_lt hnum hden (hle.trans_lt (zpow_lt_zpow_right₀ (by norm_num) (by norm_num)))
    have hlast : lastPlace num den = -1074 := by
      rw [lastPlace]
      omega
    have hzero : (nearest num den).1 = 0 := nearest_eq_zero hden (by rwa [hlast, hhalf])
    rw [rounded, hzero, Nat.cast_zero, zero_mul] at h
    exact lt_irrefl _ h
  · intro h
    have hpast : (((0 : Nat) : ℚ) + 1 / 2) * 2 ^ lastPlace num den < num / den := by
      rw [Nat.cast_zero, zero_add]
      rcases max_choice (leadingPlace num den - 52) (-1074) with hmax | hmax
      · calc (1 : ℚ) / 2 * 2 ^ lastPlace num den < 1 * 2 ^ lastPlace num den := by gcongr; norm_num
          _ ≤ 2 ^ leadingPlace num den := by
            rw [one_mul]
            refine two_zpow_le ?_
            rw [lastPlace]
            omega
          _ ≤ num / den := (leadingPlace_spec hnum hden).1
      · rwa [lastPlace, hmax, hhalf]
    have hm : 0 < (nearest num den).1 := lt_nearest hden hpast
    rw [rounded]
    have hplace := two_zpow_pos (lastPlace num den)
    positivity

/-! ### Rounding and integers -/

section integers

variable {num den : Nat} (hden : 0 < den)
include hden

/-- As long as integers are kept, rounding does not go up past one. -/
theorem rounded_le {j : Nat} (he : lastPlace num den ≤ 0) (h : (num : ℚ) / den ≤ j) :
    rounded num den ≤ j := by
  have hneg : 0 ≤ -lastPlace num den := by omega
  have hj : (j : ℚ) = (j * twoTo (-lastPlace num den).toNat : Nat) * 2 ^ lastPlace num den := by
    rw [Nat.cast_mul, cast_twoTo_toNat hneg, mul_assoc, ← zpow_add₀ two_ne_zero]
    simp
  have hm := nearest_le hden (hj ▸ h)
  rw [rounded, hj]
  gcongr

/-- As long as integers are kept, a quotient that lies more than half of its last place above
one is not rounded down to it. -/
theorem lt_rounded {j : Nat} (he : lastPlace num den ≤ 0)
    (h : (j : ℚ) + 2 ^ (lastPlace num den - 1) < num / den) : (j : ℚ) < rounded num den := by
  have hneg : 0 ≤ -lastPlace num den := by omega
  have hj : (j : ℚ) = (j * twoTo (-lastPlace num den).toNat : Nat) * 2 ^ lastPlace num den := by
    rw [Nat.cast_mul, cast_twoTo_toNat hneg, mul_assoc, ← zpow_add₀ two_ne_zero]
    simp
  have hhalf : (2 : ℚ) ^ (lastPlace num den - 1) = 1 / 2 * 2 ^ lastPlace num den := by
    rw [zpow_sub_one₀ two_ne_zero]
    ring
  have hm : j * twoTo (-lastPlace num den).toNat < (nearest num den).1 := by
    refine lt_nearest hden ?_
    rwa [add_mul, ← hj, ← hhalf]
  rw [rounded, hj]
  gcongr

/-- A grid point is not changed by rounding. -/
theorem rounded_eq_of_grid {k : Nat} (h : (num : ℚ) / den = k * 2 ^ lastPlace num den) :
    rounded num den = num / den := by
  have hm : (nearest num den).1 = k :=
    le_antisymm (nearest_le hden h.le) (le_nearest hden h.ge)
  rw [rounded, hm, h]

/-- A power of two is not changed by rounding. -/
theorem rounded_eq_of_two_zpow (hlast : lastPlace num den = leadingPlace num den - 52)
    (h : (num : ℚ) / den = 2 ^ leadingPlace num den) : rounded num den = num / den := by
  have hq : (num : ℚ) / den = (twoTo 52 : Nat) * 2 ^ lastPlace num den := by
    rw [h, hlast, cast_twoTo, ← zpow_add₀ two_ne_zero]
    congr 1
    push_cast
    ring
  exact rounded_eq_of_grid hden hq

end integers

/-- An integer of at most 53 places is not changed by rounding. -/
theorem rounded_natCast {n : Nat} (hn : 0 < n) (hlt : n < twoTo 53) : rounded n 1 = n := by
  have hlead : leadingPlace n 1 < 53 := by
    refine leadingPlace_lt hn Nat.one_pos ?_
    rw [Nat.cast_one, div_one, ← show ((twoTo 53 : Nat) : ℚ) = 2 ^ (53 : ℤ) from cast_twoTo 53]
    exact_mod_cast hlt
  have hneg : 0 ≤ -lastPlace n 1 := by
    rw [lastPlace]
    omega
  have hgrid : (n : ℚ) / (1 : Nat) =
      (n * twoTo (-lastPlace n 1).toNat : Nat) * 2 ^ lastPlace n 1 := by
    rw [Nat.cast_mul, cast_twoTo_toNat hneg, mul_assoc, ← zpow_add₀ two_ne_zero]
    simp
  rw [rounded_eq_of_grid Nat.one_pos hgrid, Nat.cast_one, div_one]

end JobSearch.Number
