import JobSearch.Number.Shortest

/-!
# Amounts of money

An amount is written exactly if it is whole, else with two places, a half going to the even
hundredth. Commas separate the thousands of the whole part.

## Main definitions

* `grouped` — digits in groups of three from the right.
* `amountText` — a double as an amount.
-/

namespace JobSearch.Number

/-- Digits in groups of three from the right, a comma between two groups. -/
def grouped : List Char → List Char
  | [] => []
  | c :: rest => if rest ≠ [] ∧ rest.length % 3 = 0 then c :: ',' :: grouped rest
    else c :: grouped rest

/-- A natural number with its digits in groups of three. -/
def groupedText (n : Nat) : List Char := grouped ((digitsOf n).map digitChar)

/-- The whole number that `mantissa · 2 ^ exponent` is, if it is whole. -/
def whole? (mantissa : Nat) (exponent : Int) : Option Nat :=
  if 0 ≤ exponent then some (mantissa * twoTo exponent.toNat)
  else if mantissa % twoTo (-exponent).toNat = 0 then some (mantissa / twoTo (-exponent).toNat)
  else none

/-- A number of hundredths as units with two places. -/
def hundredthsText (n : Nat) : List Char :=
  groupedText (n / 100) ++ ['.', digitChar (n / 10 % 10), digitChar (n % 10)]

/-- The hundredths nearest to `mantissa · 2 ^ exponent`, a tie going to the even one. -/
def hundredths (mantissa : Nat) (exponent : Int) : Nat :=
  roundDiv (mantissa * 100 * twoTo exponent.toNat) (twoTo (-exponent).toNat)

/-- The characters of an amount. -/
def amountChars (r : Reading) : List Char :=
  match r with
  | .nan => "nan".toList
  | .infinite negative => (if negative then ['-'] else []) ++ "inf".toList
  | .finite negative mantissa exponent =>
    match whole? mantissa exponent with
    | some n => (if negative ∧ n ≠ 0 then ['-'] else []) ++ groupedText n
    | none => (if negative then ['-'] else []) ++ hundredthsText (hundredths mantissa exponent)

/-- A double as an amount. -/
def amountText (x : Float) : String := String.ofList (amountChars (Reading.ofFloat x))

end JobSearch.Number
