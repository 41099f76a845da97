import JobSearch.Number.Binary

/-!
# Arithmetic of sixty-four binary places

Stored text and stored doubles are turned into each other by way of numbers of 64 binary places:
every product and quotient is rounded to the nearest of them, a tie going to the even mantissa.
Their exponents have no bounds.

## Main definitions

* `extended` — the number of 64 places nearest to an exact one.
* `powerOfTen` — a power of ten formed by repeated squaring.
-/

namespace JobSearch.Number

/-- The number of 64 binary places nearest to a positive exact number; all others are taken for
zero. -/
def extended (q : Rat) : Rat :=
  if q.num ≤ 0 then 0
  else
    let place := leadingPlace q.num.natAbs q.den - 63
    if 0 ≤ place then
      scaled (roundDiv q.num.natAbs (q.den * twoTo place.toNat)) place
    else scaled (roundDiv (q.num.natAbs * twoTo (-place).toNat) q.den) place

/-- A product of 64 places. -/
def times (p q : Rat) : Rat := extended (p * q)

/-- A quotient of 64 places. -/
def divided (p q : Rat) : Rat := extended (p / q)

/-- The product of some factors with the repeated squares of a number that belong to the binary
digits of an exponent; `fuel` bounds the number of those digits. -/
def raised : (fuel : Nat) → (square product : Rat) → (exponent : Nat) → Rat
  | 0, _, product, _ => product
  | fuel + 1, square, product, exponent =>
    let product := if exponent % 2 = 1 then times product square else product
    if exponent / 2 = 0 then product
    else raised fuel (times square square) product (exponent / 2)

/-- A power of ten, formed by repeated squaring. -/
def powerOfTen (exponent : Nat) : Rat := raised (exponent + 1) 10 1 exponent

/-- The exact value of the double nearest to a decimal. -/
def doubleOf (digits : Nat) (exponent : Int) : Rat :=
  (exactValue? (ofDecimal false digits exponent)).getD 0

end JobSearch.Number
