import JobSearch.Proofs.Number.Digits
import Mathlib

/-!
# Decimal text

Text that consists of digits, with a minus sign in front or without and with a point between them or
without, denotes an exact number. A sign and digits that are put together with a point are read as
the number with these digits (`exactDecimal?_decimalChars`).

## Main definitions

* `exactDecimal?` — the exact number that decimal text denotes.
* `decimalChars` — a sign and digits with a point between them.
-/

namespace JobSearch.Number

/-! ### Reading -/

/-- The digits of text that has no other characters, at least one. -/
def digitsIn? (s : List Char) : Option (List Nat) :=
  if s = [] then none else s.mapM Text.plainDigitValue?

/-- The digits behind a point, none if there is no point. -/
def fractionIn? : List Char → Option (List Nat)
  | [] => some []
  | _ :: rest => digitsIn? rest

/-- The exact number that decimal text denotes: a sign or none, digits, and a point with digits
behind it or none. -/
def exactDecimal? (s : List Char) : Option ℚ := do
  let (negative, body) := readSign s
  let whole ← digitsIn? (body.takeWhile (· ≠ '.'))
  let fraction ← fractionIn? (body.dropWhile (· ≠ '.'))
  let value := (ofDigits (whole ++ fraction) : ℚ) / 10 ^ fraction.length
  return if negative then -value else value

/-! ### Writing -/

/-- The minus sign of a negative number. -/
def signChars (negative : Bool) : List Char := if negative then ['-'] else []

/-- Digits behind a point, if there are some. -/
def fractionChars (fraction : List Nat) : List Char :=
  if fraction = [] then [] else '.' :: fraction.map digitChar

/-- A sign and digits with a point between them. -/
def decimalChars (negative : Bool) (whole fraction : List Nat) : List Char :=
  signChars negative ++ (whole.map digitChar ++ fractionChars fraction)

theorem mapM_plainDigitValue? {ds : List Nat} (h : ∀ d ∈ ds, d < 10) :
    (ds.map digitChar).mapM Text.plainDigitValue? = some ds := by
  induction ds with
  | nil => rfl
  | cons d ds ih =>
    rw [List.forall_mem_cons] at h
    rw [List.map_cons, List.mapM_cons, plainDigitValue?_digitChar d h.1, ih h.2]
    rfl

theorem digitsIn?_map_digitChar {ds : List Nat} (hne : ds ≠ []) (h : ∀ d ∈ ds, d < 10) :
    digitsIn? (ds.map digitChar) = some ds := by
  rw [digitsIn?, if_neg (by simpa using hne), mapM_plainDigitValue? h]

theorem fractionIn?_fractionChars {fraction : List Nat} (h : ∀ d ∈ fraction, d < 10) :
    fractionIn? (fractionChars fraction) = some fraction := by
  rw [fractionChars]
  split
  · next hnone => rw [hnone, fractionIn?]
  · next hsome => exact digitsIn?_map_digitChar hsome h

theorem readSign_signChars (negative : Bool) {c : Char} (hc : c.isDigit = true) (s : List Char) :
    readSign (signChars negative ++ c :: s) = (negative, c :: s) := by
  cases negative with
  | true => rfl
  | false =>
    have hminus : c ≠ '-' := by rintro rfl; cases hc
    have hplus : c ≠ '+' := by rintro rfl; cases hc
    simp [signChars, readSign, hminus, hplus]

/-- Text before a point, and a point with what follows it. -/
theorem span_fractionChars {whole : List Nat} (h : ∀ d ∈ whole, d < 10) (fraction : List Nat) :
    (whole.map digitChar ++ fractionChars fraction).takeWhile (· ≠ '.') = whole.map digitChar ∧
      (whole.map digitChar ++ fractionChars fraction).dropWhile (· ≠ '.') =
        fractionChars fraction := by
  have hpoint : ∀ c ∈ whole.map digitChar, decide (c ≠ '.') = true := by
    refine fun c hc => decide_eq_true ?_
    rintro rfl
    exact notMem_map_digitChar h rfl hc
  rw [List.takeWhile_append_of_pos hpoint, List.dropWhile_append_of_pos hpoint]
  rw [fractionChars]
  split <;> simp

/-- Such text denotes the number with these digits. -/
theorem exactDecimal?_decimalChars (negative : Bool) {whole fraction : List Nat}
    (hne : whole ≠ []) (hwhole : ∀ d ∈ whole, d < 10) (hfraction : ∀ d ∈ fraction, d < 10) :
    let value := (ofDigits (whole ++ fraction) : ℚ) / 10 ^ fraction.length
    exactDecimal? (decimalChars negative whole fraction) =
      some (if negative then -value else value) := by
  intro value
  have hsign : readSign (decimalChars negative whole fraction) =
      (negative, whole.map digitChar ++ fractionChars fraction) := by
    obtain ⟨d, ds, rfl⟩ := List.exists_cons_of_ne_nil hne
    exact readSign_signChars negative (isDigit_digitChar d (hwhole d List.mem_cons_self)) _
  obtain ⟨htake, hdrop⟩ := span_fractionChars hwhole fraction
  rw [exactDecimal?, hsign]
  simp only [htake, hdrop, digitsIn?_map_digitChar hne hwhole, fractionIn?_fractionChars hfraction,
    Option.bind_eq_bind, Option.bind_some]
  rfl

example : exactDecimal? "-12.50".toList = some (-25 / 2) := by
  decide +kernel

end JobSearch.Number
