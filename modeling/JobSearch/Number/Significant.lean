import JobSearch.Number.Extended
import JobSearch.Number.Shortest

/-!
# Fifteen significant digits

A double in a column of text is written with at most fifteen digits. It is brought between one
and ten by powers of ten, half of the last digit is added, and the digits are read off, all of
it in numbers of 64 binary places.

## Main definitions

* `fifteenDigits` — the digits of a positive number and the place of its point.
* `storedText` — a double as text in a column.
-/

namespace JobSearch.Number

/-- The number of digits. -/
def significantDigits : Nat := 15

/-- A scale made larger by a factor as long as the value is not below it, with its exponent;
`fuel` bounds the number of steps. -/
def growScale (value factor : Rat) (step : Int) : (fuel : Nat) → Rat × Int → Rat × Int
  | 0, s => s
  | fuel + 1, (scale, exponent) =>
    if times factor scale ≤ value then
      growScale value factor step fuel (times scale factor, exponent + step)
    else (scale, exponent)

/-- A value made larger by a factor as long as it is below a bound, with its exponent; `fuel`
bounds the number of steps. -/
def growValue (bound factor : Rat) (step : Int) : (fuel : Nat) → Rat × Int → Rat × Int
  | 0, s => s
  | fuel + 1, (value, exponent) =>
    if value < bound then
      growValue bound factor step fuel (times value factor, exponent - step)
    else (value, exponent)

/-- A positive number between one and ten, and the exponent of ten that was taken out. -/
def normalized (value : Rat) : Rat × Int :=
  let (scale, exponent) := growScale value 10 1 20
    (growScale value (doubleOf 1 10) 10 20 (growScale value (doubleOf 1 100) 100 5 (1, 0)))
  growValue 1 10 1 20 (growValue (doubleOf 1 (-8)) (doubleOf 1 8) 8 50 (divided value scale, exponent))

/-- One tenth as a double. -/
def tenth : Rat := doubleOf 1 (-1)

/-- Half of the last digit of a number between one and ten. -/
def halfLastDigit : Rat :=
  (List.range (significantDigits - 1)).foldl (fun r _ => times r tenth) (mkRat 1 2)

/-- The digits of a number below ten, from the first one on. -/
def digitsFrom : (count : Nat) → Rat → List Nat
  | 0, _ => []
  | count + 1, value =>
    let digit := value.floor.toNat
    digit :: digitsFrom count (times (value - (digit : Rat)) 10)

/-- The first fifteen digits of a positive number, rounded, without zeros at their end. -/
def fifteenDigits (value : Rat) : Decimal :=
  let (first, exponent) := normalized value
  let raised := extended (first + halfLastDigit)
  let (first, exponent) :=
    if (10 : Rat) ≤ raised then (times raised tenth, exponent + 1) else (raised, exponent)
  ⟨dropTrailingZeros (digitsFrom significantDigits first), exponent + 1⟩

/-- Numbers are written positionally from `0.0001` to below `10 ^ 15`, else with a signed
exponent of at least two digits behind a number with a point. -/
def storedLayout : Layout := ⟨-4, 15, 2, true⟩

/-- A double as text in a column. A zero has no sign. -/
def storedText (x : Float) : String :=
  match Reading.ofFloat x with
  | .nan => ""
  | .infinite negative => if negative then "-Inf" else "Inf"
  | .finite negative mantissa exponent =>
    if mantissa = 0 then "0.0"
    else (if negative then "-" else "") ++
      storedLayout.write (fifteenDigits (scaled mantissa exponent))

end JobSearch.Number
