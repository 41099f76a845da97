import JobSearch.Number.Power

/-!
# Doubles as exact numbers

A double is read from its bits as what it stands for: nothing, an infinity, or a signed
mantissa times a power of two. Everything the library does exactly with numbers (comparing
them, adding them, writing them) starts from this reading, and ends with the double nearest
to an exact quotient.

## Main definitions

* `Reading` and `Reading.ofFloat` — what the bits of a double stand for.
* `Point` — the exact place of a number on the line extended by two infinities.
* `nearest` — the binary grid point nearest to a quotient, ties to the even mantissa.
* `ofRatio?` — the double nearest to a quotient, if the quotient is not too large.
-/

namespace JobSearch.Number

/-- What a double stands for. -/
inductive Reading where
  /-- No number. -/
  | nan
  /-- An infinity. -/
  | infinite (negative : Bool)
  /-- The number `± mantissa · 2 ^ exponent`; zero has a sign too. -/
  | finite (negative : Bool) (mantissa : Nat) (exponent : Int)
  deriving DecidableEq

/-- The reading of 64 bits: one for the sign, eleven for the exponent, 52 for the fraction. -/
def Reading.ofBits (bits : Nat) : Reading :=
  let negative := bits / twoTo 63 % 2 == 1
  let field : Nat := bits / twoTo 52 % twoTo 11
  let fraction : Nat := bits % twoTo 52
  if field = 2047 then
    if fraction = 0 then .infinite negative else .nan
  else if field = 0 then
    .finite negative fraction (-1074)
  else
    .finite negative (fraction + twoTo 52) ((field : Int) - 1075)

/-- The reading of a double. -/
def Reading.ofFloat (x : Float) : Reading := .ofBits x.toBits.toNat

/-- The exact number `mantissa · 2 ^ exponent`. -/
def scaled (mantissa : Nat) (exponent : Int) : Rat :=
  if 0 ≤ exponent then ((mantissa * twoTo exponent.toNat : Nat) : Rat)
  else mkRat mantissa (twoTo (-exponent).toNat)

/-- A place on the line of exact numbers, extended by an infinity at each end. -/
inductive Point where
  | bottom
  | exactly (value : Rat)
  | top
  deriving DecidableEq

namespace Point

/-- The order of the extended line. -/
def le : Point → Point → Bool
  | bottom, _ => true
  | _, top => true
  | exactly p, exactly q => decide (p ≤ q)
  | _, _ => false

theorem le_refl (p : Point) : le p p = true := by
  cases p <;> simp [le]

theorem le_total (p q : Point) : (le p q || le q p) = true := by
  cases p <;> cases q <;> simp [le, Rat.le_total]

theorem le_trans (p q r : Point) (hpq : le p q = true) (hqr : le q r = true) : le p r = true := by
  cases p <;> cases q <;> cases r <;> simp_all [le]
  exact Rat.le_trans hpq hqr

end Point

/-- Where a reading lies on the extended line; a double that is no number lies nowhere. -/
def Reading.point? : Reading → Option Point
  | .nan => none
  | .infinite negative => some (if negative then .bottom else .top)
  | .finite negative mantissa exponent =>
    some (.exactly (if negative then -scaled mantissa exponent else scaled mantissa exponent))

/-- The exact value of a finite double. -/
def Reading.value? : Reading → Option Rat
  | .finite negative mantissa exponent =>
    some (if negative then -scaled mantissa exponent else scaled mantissa exponent)
  | _ => none

/-- The exact value of a finite double. -/
def exactValue? (x : Float) : Option Rat := (Reading.ofFloat x).value?

/-- The quotient rounded to an integer; a half goes to the even neighbour. -/
def roundDiv (num den : Nat) : Nat :=
  let q := num / den
  let r := num % den
  if 2 * r < den then q else if den < 2 * r then q + 1 else q + q % 2

/-- The exponent of the first binary place of a positive quotient. -/
def leadingPlace (num den : Nat) : Int :=
  let guess : Int := (num.log2 : Int) - (den.log2 : Int)
  if 0 ≤ guess then
    if den * twoTo guess.toNat ≤ num then guess else guess - 1
  else
    if den ≤ num * twoTo (-guess).toNat then guess else guess - 1

/-- The exponent of the last binary place that a double keeps of a positive quotient: the
53rd place from the first one, but none below `2 ^ -1074`. -/
def lastPlace (num den : Nat) : Int := max (leadingPlace num den - 52) (-1074)

/-- The mantissa and exponent nearest to a quotient among those that a double can hold, were
there no largest double; a tie goes to the even mantissa. -/
def nearest (num den : Nat) : Nat × Int :=
  let place := lastPlace num den
  if 0 ≤ place then (roundDiv num (den * twoTo place.toNat), place)
  else (roundDiv (num * twoTo (-place).toNat) den, place)

/-- The bits of `mantissa · 2 ^ exponent`, for a mantissa of at most 53 places (or the power
of two just above) and an exponent not below `-1074`; beyond the largest double they no
longer fit. -/
def magnitudeBits (mantissa : Nat) (exponent : Int) : Nat :=
  (exponent + 1074).toNat * twoTo 52 + mantissa

/-- The least bits that no finite double has. -/
def infinityBits : Nat := 2047 * twoTo 52

/-- The bit that makes a double negative. -/
def signBits (negative : Bool) : Nat := if negative then twoTo 63 else 0

/-- A zero of either sign. -/
def zero (negative : Bool) : Float := Float.ofBits (UInt64.ofNat (signBits negative))

/-- An infinity of either sign. -/
def infinity (negative : Bool) : Float :=
  Float.ofBits (UInt64.ofNat (infinityBits + signBits negative))

/-- The double that is no number. -/
def notANumber : Float := Float.ofBits (UInt64.ofNat (infinityBits + twoTo 51))

/-- The double nearest to `± num / den`, or nothing if that lies beyond the largest double. -/
def ofRatio? (negative : Bool) (num den : Nat) : Option Float :=
  if num = 0 then some (zero negative)
  else
    let (mantissa, exponent) := nearest num den
    let bits := magnitudeBits mantissa exponent
    if bits < infinityBits then
      some (Float.ofBits (UInt64.ofNat (bits + signBits negative)))
    else none

/-- The double nearest to an exact number, or nothing if that lies beyond the largest one. -/
def ofRat? (q : Rat) : Option Float := ofRatio? (q.num < 0) q.num.natAbs q.den

/-- The double nearest to an integer, or nothing if that lies beyond the largest one. -/
def ofInt? (n : Int) : Option Float := ofRatio? (n < 0) n.natAbs 1

/-- The double nearest to `digits · 10 ^ exponent`, an infinity beyond the largest one. The
exponent may be of any size: far from the range of doubles the power of ten is not formed. -/
def ofDecimal (negative : Bool) (digits : Nat) (exponent : Int) : Float :=
  let size : Int := digits.log2
  if digits = 0 then zero negative
  else if 400 < exponent then infinity negative
  else if exponent < -(400 + size) then zero negative
  else if 0 ≤ exponent then
    (ofRatio? negative (digits * tenTo exponent.toNat) 1).getD (infinity negative)
  else
    (ofRatio? negative digits (tenTo (-exponent).toNat)).getD (infinity negative)

/-- Whether a double is a finite number. -/
def isFinite (x : Float) : Bool := (Reading.ofFloat x).value?.isSome

/-- Whether a double is no number. -/
def isNaN (x : Float) : Bool := Reading.ofFloat x == .nan

end JobSearch.Number
