import JobSearch.Number.Numeral
import Mathlib.Data.List.Basic

/-!
# Decimal digits

The digits of a number are those of its tenth and its last digit (`digits_induction`). So they are
read back as the number (`ofDigits_digitsOf`), and the first of them is zero only if it is the only
one (`digitsOf_of_head?_eq_zero`).
-/

namespace JobSearch.Number

/-! ### Digits of numbers -/

theorem digitsOf_of_lt {d : Nat} (hd : d < 10) : digitsOf d = [d] := by
  rw [digitsOf, Nat.toDigits_of_lt_base hd, List.map_singleton]
  exact congrArg (· :: []) (Nat.toNat_digitChar_sub_48_of_lt_ten hd)

theorem digitsOf_ten_mul_add {n d : Nat} (hn : 0 < n) (hd : d < 10) :
    digitsOf (10 * n + d) = digitsOf n ++ [d] := by
  rw [← digitsOf_of_lt hd, digitsOf, ← Nat.toDigits_append_toDigits (by decide) hn hd,
    List.map_append]
  rfl

/-- Numbers are built from a digit by putting further ones behind it. -/
@[elab_as_elim]
theorem digits_induction {P : Nat → Prop} (digit : ∀ d < 10, P d)
    (more : ∀ n d, 0 < n → d < 10 → P n → P (10 * n + d)) (n : Nat) : P n := by
  induction n using Nat.strongRecOn with
  | ind n ih =>
    rcases Nat.lt_or_ge n 10 with hlt | hge
    · exact digit n hlt
    · have hn := more (n / 10) (n % 10) (by omega) (by omega) (ih (n / 10) (by omega))
      rwa [Nat.div_add_mod] at hn

theorem lt_of_mem_digitsOf {n d : Nat} : d ∈ digitsOf n → d < 10 := by
  induction n using digits_induction with
  | digit e he =>
    rw [digitsOf_of_lt he, List.mem_singleton]
    rintro rfl
    exact he
  | more n e hn he ih =>
    rw [digitsOf_ten_mul_add hn he, List.mem_append, List.mem_singleton]
    rintro (hd | rfl)
    · exact ih hd
    · exact he

theorem digitsOf_ne_nil (n : Nat) : digitsOf n ≠ [] := by
  induction n using digits_induction with
  | digit d hd => simp [digitsOf_of_lt hd]
  | more n d hn hd => simp [digitsOf_ten_mul_add hn hd]

theorem ofDigits_concat (ds : List Nat) (d : Nat) : ofDigits (ds ++ [d]) = 10 * ofDigits ds + d :=
  List.foldl_concat ..

/-- The digits of a number are read back as the number. -/
theorem ofDigits_digitsOf (n : Nat) : ofDigits (digitsOf n) = n := by
  induction n using digits_induction with
  | digit d hd => simp [digitsOf_of_lt hd, ofDigits]
  | more n d hn hd ih => rw [digitsOf_ten_mul_add hn hd, ofDigits_concat, ih]

/-- The first digit of a number is zero only if it is the only one. -/
theorem digitsOf_of_head?_eq_zero {n : Nat} : (digitsOf n).head? = some 0 → digitsOf n = [0] := by
  induction n using digits_induction with
  | digit d hd =>
    rw [digitsOf_of_lt hd]
    rintro ⟨⟩
    rfl
  | more n d hn hd ih =>
    rw [digitsOf_ten_mul_add hn hd, List.head?_append_of_ne_nil _ (digitsOf_ne_nil n)]
    intro hzero
    have hn' := ofDigits_digitsOf n
    rw [ih hzero] at hn'
    exact absurd hn' (Nat.ne_of_lt hn)

/-! ### Characters of digits -/

theorem plainDigitValue?_digitChar : ∀ d < 10, Text.plainDigitValue? (digitChar d) = some d := by
  decide

theorem isDigit_digitChar : ∀ d < 10, (digitChar d).isDigit = true := by
  decide

theorem notMem_map_digitChar {ds : List Nat} (h : ∀ d ∈ ds, d < 10) {c : Char}
    (hc : c.isDigit = false) : c ∉ ds.map digitChar := by
  intro hin
  obtain ⟨d, hd, rfl⟩ := List.mem_map.mp hin
  rw [isDigit_digitChar d (h d hd)] at hc
  cases hc

end JobSearch.Number
