import JobSearch.Number.Amount
import JobSearch.Proofs.Number.Decimal
import JobSearch.Proofs.Number.Rounding

/-!
# What amounts of money denote

An amount without its commas is decimal text. It denotes a whole double exactly, and any other one
up to the nearest hundredth, of two nearest ones the even one (`amountText_denotes`). Nothing is
assumed on the size: the digits are those of an exact integer, whatever its length, and a carry
through all nines has happened before they are written. The commas split the digits before the point
into groups of three from the right (`exists_grouped`), which follows the recursion of `grouped`: a
digit in front of full groups begins a new one.

## Main definitions

* `IsNearest` — an integer nearest to a number, the even one of two.
* `InThousands` — groups of digits as amounts have them.
-/

namespace JobSearch.Number

/-! ### Nearest integers -/

/-- No integer is nearer to the number, and of two that are equally near this is the even one. -/
structure IsNearest (q : ℚ) (n : ℤ) : Prop where
  le (k : ℤ) : |q - n| ≤ |q - k|
  even (k : ℤ) (hne : k ≠ n) (htie : |q - k| = |q - n|) : Even n

namespace IsNearest

variable {q distance : ℚ} {n : ℤ}

/-- An integer not farther away than a half is nearest, unless it is an odd one at just a half. -/
theorem of_le_half (hdistance : |q - n| = distance) (hle : distance ≤ 1 / 2)
    (heven : distance = 1 / 2 → Even n) : IsNearest q n := by
  subst hdistance
  have hone : ∀ k : ℤ, k ≠ n → 1 ≤ |q - k| + |q - n| := by
    intro k hk
    calc 1 ≤ |(n : ℚ) - k| := by exact_mod_cast Int.one_le_abs (sub_ne_zero.mpr hk.symm)
      _ = |(q - k) - (q - n)| := by ring_nf
      _ ≤ |q - k| + |q - n| := abs_sub _ _
  refine ⟨fun k => ?_, fun k hk htie => heven ?_⟩
  · rcases eq_or_ne k n with rfl | hk
    · exact le_rfl
    · linarith [hone k hk]
  · linarith [hone k hk]

theorem neg (h : IsNearest q n) : IsNearest (-q) (-n) := by
  have hdistance : ∀ k : ℤ, |-q - (-k : ℤ)| = |q - k| := by
    intro k
    rw [Int.cast_neg, ← neg_sub', abs_neg]
  refine ⟨fun k => ?_, fun k hk htie => (h.even (-k) ?_ ?_).neg⟩
  · rw [hdistance, ← neg_neg k, hdistance]
    exact h.le (-k)
  · rintro rfl
    exact hk (neg_neg k).symm
  · rw [← hdistance, neg_neg, htie, hdistance]

end IsNearest

/-! ### Rounding -/

section whole

variable {whole : Nat} {part : ℚ}

theorem isNearest_of_lt_half (hpos : 0 ≤ part) (hlt : part < 1 / 2) :
    IsNearest (whole + part) whole := by
  have hdistance : |(whole : ℚ) + part - (whole : ℤ)| = part := by
    rw [Int.cast_natCast, add_sub_cancel_left, abs_of_nonneg hpos]
  exact .of_le_half hdistance hlt.le fun h => absurd h hlt.ne

theorem isNearest_of_half_lt (hgt : 1 / 2 < part) (hlt : part < 1) :
    IsNearest (whole + part) (whole + 1 : Nat) := by
  have hdistance : |(whole : ℚ) + part - ((whole + 1 : Nat) : ℤ)| = 1 - part := by
    rw [Int.cast_natCast, Nat.cast_add_one, add_sub_add_left_eq_sub, abs_sub_comm,
      abs_of_pos (sub_pos.mpr hlt)]
  have hless : 1 - part < 1 / 2 := by linarith
  exact .of_le_half hdistance hless.le fun h => absurd h hless.ne

/-- In the middle of two integers the even one is nearest. -/
theorem isNearest_of_half : IsNearest (whole + 1 / 2) (whole + whole % 2 : Nat) := by
  have heven : Even ((whole + whole % 2 : Nat) : ℤ) := by
    rw [Int.even_coe_nat, Nat.even_iff]
    omega
  have hdistance : |(whole : ℚ) + 1 / 2 - ((whole + whole % 2 : Nat) : ℤ)| = 1 / 2 := by
    rw [Int.cast_natCast, Nat.cast_add, add_sub_add_left_eq_sub]
    rcases Nat.mod_two_eq_zero_or_one whole with h | h
    · rw [h]
      norm_num
    · rw [h]
      norm_num
  exact .of_le_half hdistance le_rfl fun _ => heven

end whole

/-- A quotient is rounded to the nearest integer. -/
theorem isNearest_roundDiv (num : Nat) {den : Nat} (hden : 0 < den) :
    IsNearest ((num : ℚ) / den) (roundDiv num den : ℤ) := by
  have hd : (0 : ℚ) < den := by exact_mod_cast hden
  have hquotient : (num : ℚ) / den = (num / den : Nat) + (num % den : Nat) / den := by
    rw [div_eq_iff hd.ne', add_mul, div_mul_cancel₀ _ hd.ne']
    exact_mod_cast (Nat.div_add_mod' num den).symm
  have hpos : (0 : ℚ) ≤ (num % den : Nat) / den := by positivity
  have hone : ((num % den : Nat) : ℚ) / den < 1 := by
    rw [div_lt_one hd]
    exact_mod_cast Nat.mod_lt num hden
  have hlow : 2 * (num % den) < den ↔ ((num % den : Nat) : ℚ) / den < 1 / 2 := by
    rw [div_lt_div_iff₀ hd two_pos, one_mul, mul_comm]
    norm_cast
  have hhigh : den < 2 * (num % den) ↔ 1 / 2 < ((num % den : Nat) : ℚ) / den := by
    rw [div_lt_div_iff₀ two_pos hd, one_mul, mul_comm]
    norm_cast
  rw [hquotient, roundDiv]
  simp only [hlow, hhigh]
  split_ifs with hlt hgt
  · exact isNearest_of_lt_half hpos hlt
  · exact isNearest_of_half_lt hgt hone
  · rw [le_antisymm (not_lt.mp hgt) (not_lt.mp hlt)]
    exact isNearest_of_half

/-! ### Groups of three -/

theorem intercalate_comma_cons (c : Char) (first : List Char) (rest : List (List Char)) :
    [','].intercalate ((c :: first) :: rest) = c :: [','].intercalate (first :: rest) := by
  cases rest <;> simp

/-- Commas split digits into groups of three from the right, the first of which has what is left. -/
theorem exists_grouped {ds : List Char} (hne : ds ≠ []) : ∃ first rest,
    ds = (first :: rest).flatten ∧ grouped ds = [','].intercalate (first :: rest) ∧
      first.length = (ds.length - 1) % 3 + 1 ∧ ∀ g ∈ rest, g.length = 3 := by
  induction ds with
  | nil => exact absurd rfl hne
  | cons c ds ih =>
    rcases eq_or_ne ds [] with rfl | hds
    · exact ⟨[c], [], by simp, by simp [grouped], by simp, by simp⟩
    · obtain ⟨first, rest, hflat, hgrouped, hfirst, hrest⟩ := ih hds
      have hpos := List.length_pos_iff.mpr hds
      rw [List.length_cons, Nat.add_sub_cancel, grouped]
      by_cases hfull : ds.length % 3 = 0
      · -- The first group is full, so the digit stands alone in front of it.
        refine ⟨[c], first :: rest, ?_, ?_, by simp [hfull], ?_⟩
        · rw [List.flatten_cons, ← hflat, List.singleton_append]
        · rw [if_pos ⟨hds, hfull⟩, hgrouped, List.intercalate_cons_cons]
          rfl
        · rw [List.forall_mem_cons]
          exact ⟨by omega, hrest⟩
      · refine ⟨c :: first, rest, ?_, ?_, ?_, hrest⟩
        · rw [hflat]
          rfl
        · rw [if_neg fun h => hfull h.2, hgrouped, intercalate_comma_cons]
        · rw [List.length_cons]
          omega

/-- Without the commas the digits are left. -/
theorem filter_grouped {ds : List Char} (h : ',' ∉ ds) :
    (grouped ds).filter (· ≠ ',') = ds := by
  induction ds with
  | nil => rfl
  | cons c ds ih =>
    rw [List.mem_cons, not_or] at h
    have hc : decide (c ≠ ',') = true := decide_eq_true (Ne.symm h.1)
    rw [grouped]
    split <;> simp only [List.filter_cons, hc, ih h.2] <;> rfl

/-- Digits in groups of three from the right: only the first group may have fewer, and it begins with
a zero only if there is no other digit. -/
structure InThousands (first : List Char) (rest : List (List Char)) : Prop where
  first_pos : 1 ≤ first.length
  first_le : first.length ≤ 3
  rest_eq : ∀ g ∈ rest, g.length = 3
  digit : ∀ g ∈ first :: rest, ∀ c ∈ g, c.isDigit = true
  zero : first.head? = some '0' → first = ['0'] ∧ rest = []

theorem digitChar_eq_zero : ∀ d < 10, digitChar d = '0' → d = 0 := by
  decide

theorem inThousands_digitsOf (n : Nat) : ∃ first rest,
    grouped ((digitsOf n).map digitChar) = [','].intercalate (first :: rest) ∧
      InThousands first rest := by
  have hne : (digitsOf n).map digitChar ≠ [] := by simpa using digitsOf_ne_nil n
  obtain ⟨first, rest, hflat, hgrouped, hfirst, hrest⟩ := exists_grouped hne
  have hpos : 1 ≤ first.length := by omega
  refine ⟨first, rest, hgrouped, hpos, by omega, hrest, fun g hg c hc => ?_, fun hzero => ?_⟩
  · have hin : c ∈ (digitsOf n).map digitChar := hflat ▸ List.mem_flatten_of_mem hg hc
    obtain ⟨d, hd, rfl⟩ := List.mem_map.mp hin
    exact isDigit_digitChar d (lt_of_mem_digitsOf hd)
  · have hhead : ((digitsOf n).map digitChar).head? = some '0' := by
      rw [hflat, List.flatten_cons,
        List.head?_append_of_ne_nil _ (List.length_pos_iff.mp hpos), hzero]
    rw [List.head?_map, Option.map_eq_some_iff] at hhead
    obtain ⟨d, hd, hchar⟩ := hhead
    obtain rfl := digitChar_eq_zero d (lt_of_mem_digitsOf (List.mem_of_mem_head? hd)) hchar
    rw [digitsOf_of_head?_eq_zero hd] at hflat
    obtain ⟨rfl, -⟩ | ⟨hone, hnone⟩ := List.append_eq_singleton_iff.mp hflat.symm
    · cases hpos
    · refine ⟨hone, List.eq_nil_iff_forall_not_mem.mpr fun g hg => ?_⟩
      have hthree := hrest g hg
      rw [List.flatten_eq_nil_iff.mp hnone g hg] at hthree
      cases hthree

/-! ### Whole numbers and hundredths -/

theorem whole?_eq_some_iff {m n : Nat} {e : ℤ} : whole? m e = some n ↔ scaled m e = n := by
  rw [whole?, scaled]
  split
  · rw [Option.some_inj, Nat.cast_inj]
  · have hpos := twoTo_pos (-e).toNat
    have hne : ((twoTo (-e).toNat : Nat) : ℚ) ≠ 0 := by exact_mod_cast hpos.ne'
    rw [Rat.mkRat_eq_div, Int.cast_natCast, div_eq_iff hne, ← Nat.cast_mul, Nat.cast_inj]
    generalize twoTo (-e).toNat = den at hpos
    constructor
    · intro h
      split at h
      · next hmod =>
        obtain rfl := Option.some.inj h
        exact (Nat.div_mul_cancel (Nat.dvd_of_mod_eq_zero hmod)).symm
      · cases h
    · rintro rfl
      rw [if_pos (Nat.mul_mod_left n den), Nat.mul_div_cancel n hpos]

/-- The hundredths of an amount are those nearest to it. -/
theorem isNearest_hundredths (m : Nat) (e : ℤ) :
    IsNearest (scaled m e * 100) (hundredths m e : ℤ) := by
  have hvalue : scaled m e * 100 =
      ((m * 100 * twoTo e.toNat : Nat) : ℚ) / (twoTo (-e).toNat : Nat) := by
    have he : (e.toNat : ℤ) - (-e).toNat = e := by omega
    rw [scaled_eq, Nat.cast_mul, Nat.cast_mul, cast_twoTo, cast_twoTo, mul_div_assoc,
      ← zpow_sub₀ two_ne_zero, he]
    push_cast
    ring
  rw [hvalue, hundredths]
  exact isNearest_roundDiv _ (twoTo_pos _)

/-! ### Amounts -/

/-- A sign, digits in groups of three, and digits behind a point. -/
def groupedDecimal (negative : Bool) (whole fraction : List Nat) : List Char :=
  signChars negative ++ (grouped (whole.map digitChar) ++ fractionChars fraction)

section finite

variable {m : Nat} {e : ℤ}

theorem amountChars_of_whole (negative : Bool) {n : Nat} (h : whole? m e = some n) :
    amountChars (.finite negative m e) =
      groupedDecimal (negative && decide (n ≠ 0)) (digitsOf n) [] := by
  rw [amountChars, h, groupedDecimal, fractionChars, if_pos rfl, List.append_nil, signChars]
  simp only [Bool.and_eq_true, decide_eq_true_eq]
  rfl

theorem amountChars_of_fraction (negative : Bool) (h : whole? m e = none) :
    amountChars (.finite negative m e) =
      groupedDecimal negative (digitsOf (hundredths m e / 100))
        [hundredths m e / 10 % 10, hundredths m e % 10] := by
  rw [amountChars, h]
  rfl

end finite

theorem filter_groupedDecimal (negative : Bool) {whole fraction : List Nat}
    (hwhole : ∀ d ∈ whole, d < 10) (hfraction : ∀ d ∈ fraction, d < 10) :
    (groupedDecimal negative whole fraction).filter (· ≠ ',') =
      decimalChars negative whole fraction := by
  have hsign : (signChars negative).filter (· ≠ ',') = signChars negative := by
    cases negative <;> rfl
  have hbehind : (fractionChars fraction).filter (· ≠ ',') = fractionChars fraction := by
    refine List.filter_eq_self.mpr fun c hc => decide_eq_true ?_
    rintro rfl
    rw [fractionChars] at hc
    split at hc
    · cases hc
    · exact notMem_map_digitChar hfraction rfl (List.mem_of_ne_of_mem (by decide) hc)
  rw [groupedDecimal, decimalChars, List.filter_append, List.filter_append, hsign, hbehind,
    filter_grouped (notMem_map_digitChar hwhole rfl)]

/-- Such text is a sign, groups of three from the right, and what follows the point. -/
theorem exists_groupedDecimal_eq (negative : Bool) (n : Nat) (fraction : List Nat) :
    ∃ sign first rest, groupedDecimal negative (digitsOf n) fraction =
        sign ++ ([','].intercalate (first :: rest) ++ fractionChars fraction) ∧
      (sign = [] ∨ sign = ['-']) ∧ InThousands first rest := by
  obtain ⟨first, rest, hgrouped, hthousands⟩ := inThousands_digitsOf n
  refine ⟨signChars negative, first, rest, by rw [groupedDecimal, hgrouped], ?_, hthousands⟩
  cases negative <;> simp [signChars]

/-- Without its commas such text denotes the number with these digits. -/
theorem exactDecimal?_groupedDecimal (negative : Bool) (n : Nat) (fraction : List Nat)
    (hfraction : ∀ d ∈ fraction, d < 10) :
    let value := (ofDigits (digitsOf n ++ fraction) : ℚ) / 10 ^ fraction.length
    exactDecimal? ((groupedDecimal negative (digitsOf n) fraction).filter (· ≠ ',')) =
      some (if negative then -value else value) := by
  have hwhole : ∀ d ∈ digitsOf n, d < 10 := fun d => lt_of_mem_digitsOf
  rw [filter_groupedDecimal negative hwhole hfraction]
  exact exactDecimal?_decimalChars negative (digitsOf_ne_nil n) hwhole hfraction

theorem exactDecimal?_whole (negative : Bool) (n : Nat) :
    exactDecimal? ((groupedDecimal negative (digitsOf n) []).filter (· ≠ ',')) =
      some (if negative then -(n : ℚ) else n) := by
  have h := exactDecimal?_groupedDecimal negative n [] (by simp)
  rwa [List.append_nil, ofDigits_digitsOf, List.length_nil, pow_zero, div_one] at h

theorem exactDecimal?_hundredths (negative : Bool) (n : Nat) :
    exactDecimal? ((groupedDecimal negative (digitsOf (n / 100)) [n / 10 % 10, n % 10]).filter
      (· ≠ ',')) = some ((if negative then -(n : ℚ) else n) / 100) := by
  have hdigits : ofDigits (digitsOf (n / 100) ++ [n / 10 % 10, n % 10]) = n := by
    rw [List.append_cons, ofDigits_concat, ofDigits_concat, ofDigits_digitsOf]
    omega
  have h := exactDecimal?_groupedDecimal negative (n / 100) [n / 10 % 10, n % 10]
    (by simp [Nat.mod_lt])
  rw [hdigits] at h
  rw [h]
  cases negative <;> simp [neg_div] <;> norm_num

section double

variable {x : Float} {q : ℚ}

/-- A whole double is written with its digits and no point. -/
theorem amountText_of_whole {z : ℤ} (hx : exactValue? x = some (z : ℚ)) : ∃ negative n,
    (amountText x).toList = groupedDecimal negative (digitsOf n) [] ∧
      (z : ℚ) = if negative then -(n : ℚ) else n := by
  obtain ⟨negative, m, e, hreading, hz⟩ := exists_finite_of_exactValue? hx
  have hscaled : scaled m e = (z.natAbs : ℚ) := by
    rw [Nat.cast_natAbs, Int.cast_abs, hz]
    cases negative <;> simp [abs_of_nonneg (scaled_nonneg m e)]
  refine ⟨negative && decide (z.natAbs ≠ 0), z.natAbs, ?_, ?_⟩
  · rw [amountText, hreading, String.toList_ofList,
      amountChars_of_whole negative (whole?_eq_some_iff.mpr hscaled)]
  · rw [hz, hscaled]
    rcases eq_or_ne z.natAbs 0 with hzero | hne
    · simp [hzero]
    · simp [hne]

/-- Any other double is written with the two digits of its nearest hundredths behind a point. -/
theorem amountText_of_fraction (hx : exactValue? x = some q) (hq : ∀ z : ℤ, q ≠ z) :
    ∃ negative n, (amountText x).toList =
        groupedDecimal negative (digitsOf (n / 100)) [n / 10 % 10, n % 10] ∧
      IsNearest (q * 100) (if negative then -n else n : ℤ) := by
  obtain ⟨negative, m, e, hreading, rfl⟩ := exists_finite_of_exactValue? hx
  have hfraction : whole? m e = none := by
    rw [Option.eq_none_iff_forall_not_mem]
    intro n hn
    have hn := whole?_eq_some_iff.mp hn
    refine hq (if negative then -(n : ℤ) else n) ?_
    rw [hn]
    cases negative <;> simp
  refine ⟨negative, hundredths m e, ?_, ?_⟩
  · rw [amountText, hreading, String.toList_ofList, amountChars_of_fraction negative hfraction]
  · have hnearest := isNearest_hundredths m e
    cases negative with
    | false => exact hnearest
    | true => exact neg_mul (scaled m e) 100 ▸ hnearest.neg

/-- An amount is a sign, digits in groups of three from the right with a comma between two groups,
and two digits behind a point unless the double is whole. Without the commas it denotes a whole
double exactly, and any other one up to the nearest hundredth, a tie going to the even one. So two
whole doubles that are different are never written alike. -/
theorem amountText_denotes (hx : exactValue? x = some q) :
    let s := (amountText x).toList
    let bare := s.filter (· ≠ ',')
    (∃ sign first rest fraction, s = sign ++ ([','].intercalate (first :: rest) ++ fraction) ∧
      (sign = [] ∨ sign = ['-']) ∧ InThousands first rest ∧
      ((∃ z : ℤ, q = z) → fraction = []) ∧
      ((∀ z : ℤ, q ≠ z) → ∃ c d, fraction = ['.', c, d] ∧ c.isDigit = true ∧ d.isDigit = true)) ∧
    ((∃ z : ℤ, q = z) → exactDecimal? bare = some q) ∧
    ((∀ z : ℤ, q ≠ z) →
      ∃ n : ℤ, exactDecimal? bare = some ((n : ℚ) / 100) ∧ IsNearest (q * 100) n) ∧
    ∀ (z w : ℤ) (y : Float), q = z → exactValue? y = some (w : ℚ) → z ≠ w →
      amountText x ≠ amountText y := by
  intro s bare
  have hwhole : ∀ (x : Float) (z : ℤ), exactValue? x = some (z : ℚ) →
      exactDecimal? ((amountText x).toList.filter (· ≠ ',')) = some (z : ℚ) := by
    intro x z hx
    obtain ⟨negative, n, htext, hz⟩ := amountText_of_whole hx
    rw [htext, exactDecimal?_whole, hz]
  refine ⟨?_, ?_, fun hq => ?_, fun z w y hz hw hne hsame => hne ?_⟩
  · by_cases hq : ∃ z : ℤ, q = z
    · obtain ⟨z, rfl⟩ := hq
      obtain ⟨negative, n, htext, -⟩ := amountText_of_whole hx
      obtain ⟨sign, first, rest, hlayout, hsign, hgroups⟩ :=
        exists_groupedDecimal_eq negative n []
      exact ⟨sign, first, rest, _, htext.trans hlayout, hsign, hgroups, fun _ => rfl,
        fun h => absurd rfl (h z)⟩
    · obtain ⟨negative, n, htext, -⟩ := amountText_of_fraction hx (not_exists.mp hq)
      obtain ⟨sign, first, rest, hlayout, hsign, hgroups⟩ :=
        exists_groupedDecimal_eq negative (n / 100) [n / 10 % 10, n % 10]
      exact ⟨sign, first, rest, _, htext.trans hlayout, hsign, hgroups, fun h => absurd h hq,
        fun _ => ⟨digitChar (n / 10 % 10), digitChar (n % 10), rfl,
          isDigit_digitChar _ (Nat.mod_lt _ (by decide)),
          isDigit_digitChar _ (Nat.mod_lt _ (by decide))⟩⟩
  · rintro ⟨z, rfl⟩
    exact hwhole x z hx
  · obtain ⟨negative, n, htext, hnearest⟩ := amountText_of_fraction hx hq
    refine ⟨_, ?_, hnearest⟩
    show exactDecimal? (List.filter _ (amountText x).toList) = _
    rw [htext, exactDecimal?_hundredths]
    cases negative <;> simp
  · subst hz
    have hsame := hsame ▸ hwhole x z hx
    rw [hwhole y w hw] at hsame
    exact (Int.cast_injective (Option.some.inj hsame)).symm

end double

/-- A whole double has three groups, an eighth is a tie that goes to the even hundredth, and a carry
through all nines leads to a new group. -/
theorem amountText_of_samples :
    (amountText 1234567 = "1,234,567" ∧ exactDecimal? "1234567".toList = some 1234567 ∧
      amountText 1234567 ≠ amountText 1234568) ∧
    (amountText 0.125 = "0.12" ∧ IsNearest (1 / 8 * 100) 12) ∧
    amountText (-999999.99609375) = "-1,000,000.00" ∧
      IsNearest (-(255999999 / 256) * 100) (-100000000) := by
  have hmillion : exactValue? 1234567 = some ((1234567 : ℤ) : ℚ) := by decide +kernel
  have hnext : exactValue? 1234568 = some ((1234568 : ℤ) : ℚ) := by decide +kernel
  have heighth : exactValue? 0.125 = some (1 / 8) := by decide +kernel
  have hnines : exactValue? (-999999.99609375) = some (-(255999999 / 256)) := by decide +kernel
  have hmillionText : amountText 1234567 = "1,234,567" := by decide +kernel
  have heighthText : amountText 0.125 = "0.12" := by decide +kernel
  have hninesText : amountText (-999999.99609375) = "-1,000,000.00" := by decide +kernel
  have hfraction : ∀ q : ℚ, q.den ≠ 1 → ∀ z : ℤ, q ≠ z := by
    rintro q hq z rfl
    exact hq (Rat.den_intCast z)
  have hhundredths : ∀ k n : ℤ, some ((k : ℚ) / 100) = some ((n : ℚ) / 100) → k = n := by
    intro k n h
    exact_mod_cast (div_left_inj' (by norm_num)).mp (Option.some.inj h)
  refine ⟨⟨hmillionText, ?_, ?_⟩, ⟨heighthText, ?_⟩, hninesText, ?_⟩
  · obtain ⟨-, hexact, -⟩ := amountText_denotes hmillion
    rw [hmillionText] at hexact
    exact hexact ⟨_, rfl⟩
  · obtain ⟨-, -, -, hdifferent⟩ := amountText_denotes hmillion
    exact hdifferent _ _ _ rfl hnext (by decide)
  · obtain ⟨-, -, hnearest, -⟩ := amountText_denotes heighth
    obtain ⟨n, hn, hnearest⟩ := hnearest (hfraction _ (by decide +kernel))
    rw [heighthText] at hn
    obtain rfl := hhundredths 12 n (Eq.trans (by decide +kernel) hn)
    exact hnearest
  · obtain ⟨-, -, hnearest, -⟩ := amountText_denotes hnines
    obtain ⟨n, hn, hnearest⟩ := hnearest (hfraction _ (by decide +kernel))
    rw [hninesText] at hn
    obtain rfl := hhundredths (-100000000) n (Eq.trans (by decide +kernel) hn)
    exact hnearest

end JobSearch.Number
