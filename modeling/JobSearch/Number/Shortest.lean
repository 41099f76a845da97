import JobSearch.Number.Binary

/-!
# The shortest decimal that reads back

A double is written with the fewest digits that no other double is nearer to. The digits are
found in exact integer arithmetic: for one digit, two digits and so on, the two neighbours of
the value on that decimal grid are tested against the interval of numbers that round to the
double. How the digits are laid out is a separate decision, made by a `Layout`.

## Main definitions

* `Decimal` — digits and the place of the point.
* `shortest` — the fewest digits that identify a positive double.
* `Layout` and `plainLayout` — when to write an exponent, and how.
* `floatText` — a double as text.
-/

namespace JobSearch.Number

/-- The number `0.d₁d₂… · 10 ^ point`. -/
structure Decimal where
  /-- The digits, each below ten. -/
  digits : List Nat
  /-- The place of the decimal point, counted from before the first digit. -/
  point : Int
  deriving DecidableEq

/-- The decimal digits of a natural number, most significant first; zero has one digit. -/
def digitsOf (n : Nat) : List Nat := (Nat.toDigits 10 n).map fun c => c.toNat - '0'.toNat

/-- The character of a digit. -/
def digitChar (d : Nat) : Char := Char.ofNat ('0'.toNat + d)

/-- Digits as text. -/
def digitText (ds : List Nat) : String := String.ofList (ds.map digitChar)

/-- The exponent `k` with `10 ^ (k - 1) ≤ num / den < 10 ^ k`, for a positive quotient. -/
def decimalExponent (num den : Nat) : Int :=
  if den ≤ num then (digitsOf (num / den)).length
  else 1 - ((digitsOf ((den - 1) / num)).length : Int)

/-- The rounding interval of the double `mantissa · 2 ^ exponent`, over a common denominator. -/
structure Interval where
  low : Nat
  value : Nat
  high : Nat
  den : Nat
  /-- Whether the ends round to the double too. -/
  closed : Bool

/-- The numbers nearest to a double: half a place to each side, but a quarter place below a
power of two; the ends belong to it if its mantissa is even. -/
def Interval.ofDouble (mantissa : Nat) (exponent : Int) : Interval :=
  let below := if mantissa = twoTo 52 ∧ -1074 < exponent then 1 else 2
  let up := twoTo (exponent - 2).toNat
  { low := (4 * mantissa - below) * up
    value := 4 * mantissa * up
    high := (4 * mantissa + 2) * up
    den := twoTo (2 - exponent).toNat
    closed := mantissa % 2 == 0 }

/-- Whether the quotient `num / den` lies in the interval scaled by `up`. -/
def Interval.has (i : Interval) (up num den : Nat) : Bool :=
  if i.closed then decide (i.low * up ≤ num * den) && decide (num * den ≤ i.high * up)
  else decide (i.low * up < num * den) && decide (num * den < i.high * up)

/-- The better of the two neighbours of the value on the grid of `10 ^ -places`, if one lies
in the interval: the nearer one, and of two equally near ones the even one. -/
def Interval.onGrid? (i : Interval) (places : Int) : Option Nat :=
  let up := tenTo places.toNat
  let den := i.den * tenTo (-places).toNat
  let lower := i.value * up / den
  let upper := lower + 1
  match i.has up lower den, i.has up upper den with
  | true, true =>
    let twice := 2 * (i.value * up)
    let middle := (lower + upper) * den
    some (if twice < middle then lower
      else if middle < twice then upper
      else if lower % 2 = 0 then lower else upper)
  | true, false => some lower
  | false, true => some upper
  | false, false => none

/-- A list without the zeros at its end. -/
def dropTrailingZeros (ds : List Nat) : List Nat := (ds.reverse.dropWhile (· == 0)).reverse

/-- The fewest digits that identify the positive double `mantissa · 2 ^ exponent`; seventeen
always do. -/
def shortest (mantissa : Nat) (exponent : Int) : Decimal :=
  let i := Interval.ofDouble mantissa exponent
  let k := decimalExponent i.value i.den
  let attempt (count : Nat) : Option Decimal :=
    (i.onGrid? ((count : Int) - k)).map fun c =>
      let ds := digitsOf c
      ⟨dropTrailingZeros ds, k + (ds.length : Int) - (count : Int)⟩
  (((List.range 17).map (· + 1)).findSome? attempt).getD ⟨[], 0⟩

/-- The decisions of a number format. -/
structure Layout where
  /-- The point must lie beyond this place for positional notation. -/
  lowest : Int
  /-- The point must not lie beyond this place for positional notation. -/
  highest : Int
  /-- The least number of digits of an exponent. -/
  exponentWidth : Nat
  /-- Whether a number before an exponent always has a point. -/
  pointed : Bool

/-- Numbers are written positionally from `0.0001` to below `10 ^ 16`, else with a signed
exponent of at least two digits. -/
def plainLayout : Layout := ⟨-4, 16, 2, false⟩

/-- Digits in positional notation, with at least one digit on each side of the point. -/
def Decimal.positional (d : Decimal) : String :=
  if d.point ≤ 0 then
    "0." ++ digitText (List.replicate (-d.point).toNat 0 ++ d.digits)
  else
    let whole := d.digits.take d.point.toNat
    let rest := d.digits.drop d.point.toNat
    digitText (whole ++ List.replicate (d.point.toNat - whole.length) 0) ++ "." ++
      digitText (if rest.isEmpty then [0] else rest)

/-- Digits with one digit before the point and an exponent. -/
def Decimal.scientific (width : Nat) (pointed : Bool) (d : Decimal) : String :=
  let exponent := d.point - 1
  let mantissa := match d.digits with
    | [] => "0"
    | [x] => digitText [x] ++ if pointed then ".0" else ""
    | x :: rest => digitText [x] ++ "." ++ digitText rest
  let magnitude := digitsOf exponent.natAbs
  mantissa ++ "e" ++ (if exponent < 0 then "-" else "+") ++
    digitText (List.replicate (width - magnitude.length) 0 ++ magnitude)

/-- Digits under a layout. -/
def Layout.write (l : Layout) (d : Decimal) : String :=
  if l.lowest < d.point ∧ d.point ≤ l.highest then d.positional
  else d.scientific l.exponentWidth l.pointed

/-- A double as text: the fewest digits that identify it, with a point or an exponent. -/
def floatText (x : Float) : String :=
  match Reading.ofFloat x with
  | .nan => "nan"
  | .infinite negative => if negative then "-inf" else "inf"
  | .finite negative mantissa exponent =>
    (if negative then "-" else "") ++
      if mantissa = 0 then "0.0" else plainLayout.write (shortest mantissa exponent)

end JobSearch.Number
