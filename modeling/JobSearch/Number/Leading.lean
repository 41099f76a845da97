import JobSearch.Number.Extended
import JobSearch.Text.DecimalDigit

/-!
# Numbers at the beginning of text

A column of numbers takes text for a number if all of it is a numeral, with blanks around it
allowed; a sum takes of any text the number at its beginning. Of a long numeral only the first
digits count, and the power of ten is applied in numbers of 64 binary places.

## Main definitions

* `Leading`, `Leading.read` — the number at the beginning of text.
* `Leading.value` — the double that it is.
-/

namespace JobSearch.Number

/-- The number at the beginning of text. -/
structure Leading where
  negative : Bool
  /-- The digits that count, as one number. -/
  significand : Nat
  /-- The power of ten by which the significand is to be multiplied. -/
  exponent : Int
  /-- The integer that all of the digits write, if there is neither a point nor an exponent. -/
  whole? : Option Nat
  /-- Whether all of the text is the numeral. -/
  isAll : Bool

/-- The significand that takes no further digit. -/
def significandLimit : Nat := 922337203685477579

/-- The exponent that takes no further digit. -/
def exponentLimit : Nat := 10000

/-- Blanks around a number in a column. -/
def isStorageBlank (c : Char) : Bool :=
  (decide (9 ≤ c.toNat) && decide (c.toNat ≤ 13)) || c == ' '

/-- Whether a character is one of the digits `0` to `9`. -/
def isPlainDigit (c : Char) : Bool := (Text.plainDigitValue? c).isSome

/-- The values of the digits in text. -/
def plainDigits (s : List Char) : List Nat := s.filterMap Text.plainDigitValue?

/-- A significand with further digits, as long as it takes them, and the number of digits that
were taken. -/
def takeDigits (significand : Nat) : List Nat → Nat × Nat
  | [] => (significand, 0)
  | d :: rest =>
    if significand < significandLimit then
      let (n, taken) := takeDigits (significand * 10 + d) rest
      (n, taken + 1)
    else (significand, 0)

/-- The exponent that digits write. -/
def exponentOf (ds : List Nat) : Nat :=
  ds.foldl (fun e d => if e < exponentLimit then e * 10 + d else exponentLimit) 0

/-- The exponent at the beginning of text, whether it is well formed, and what follows it;
nothing if there is none. -/
def leadingExponent? (s : List Char) : Option (Int × Bool × List Char) :=
  match s with
  | c :: rest =>
    if c = 'e' ∨ c = 'E' then
      let (negative, body) := match rest with
        | '-' :: body => (true, body)
        | '+' :: body => (false, body)
        | body => (false, body)
      let ds := plainDigits (body.takeWhile isPlainDigit)
      let e : Int := exponentOf ds
      some (if negative then -e else e, !ds.isEmpty, body.dropWhile isPlainDigit)
    else none
  | [] => none

/-- The number at the beginning of text; a zero if there is none. -/
def Leading.read (s : String) : Leading :=
  let text := s.toList.dropWhile isStorageBlank
  let (negative, body) := match text with
    | '-' :: rest => (true, rest)
    | '+' :: rest => (false, rest)
    | rest => (false, rest)
  let whole := plainDigits (body.takeWhile isPlainDigit)
  let afterWhole := body.dropWhile isPlainDigit
  let (hasPoint, fraction, afterFraction) := match afterWhole with
    | '.' :: rest =>
      (true, plainDigits (rest.takeWhile isPlainDigit), rest.dropWhile isPlainDigit)
    | rest => (false, [], rest)
  let (written, takenWhole) := takeDigits 0 whole
  let (significand, takenFraction) := takeDigits written fraction
  let (exponent, isSound, rest) := (leadingExponent? afterFraction).getD (0, true, afterFraction)
  { negative
    significand
    exponent := exponent + (whole.length - takenWhole : Nat) - (takenFraction : Int)
    whole? :=
      if hasPoint || (leadingExponent? afterFraction).isSome then none
      else some (whole.foldl (fun n d => n * 10 + d) 0)
    isAll := (rest.dropWhile isStorageBlank).isEmpty && isSound &&
      !(whole.isEmpty && fraction.isEmpty) }

/-- A significand with zeros appended for the steps of an exponent, as long as it stays small,
and the exponent that is left. -/
def appendZeros (significand : Nat) : (exponent : Nat) → Nat × Nat
  | 0 => (significand, 0)
  | e + 1 =>
    if significand < significandLimit + 1 then appendZeros (significand * 10) e
    else (significand, e + 1)

/-- A significand without zeros at its end for the steps of a negative exponent, and the
exponent that is left. -/
def removeZeros (significand : Nat) : (exponent : Nat) → Nat × Nat
  | 0 => (significand, 0)
  | e + 1 =>
    if significand % 10 = 0 then removeZeros (significand / 10) e else (significand, e + 1)

/-- The greatest power of ten that is applied in one step. -/
def greatestPower : Nat := 307

/-- The double nearest to an exact number that is not negative; an infinity if it is too
large. -/
def nearestDouble (q : Rat) : Float := (ofRat? q).getD (infinity false)

/-- The double of a significand times a power of ten. -/
def scaledUp (significand exponent : Nat) : Float :=
  let (s, e) := appendZeros significand exponent
  if e = 0 then nearestDouble s
  else if e ≤ greatestPower then nearestDouble (times s (powerOfTen e))
  else if e < 342 then
    nearestDouble (times s (powerOfTen (e - 308))) * ofDecimal false 1 308
  else infinity false

/-- The double of a significand divided by a power of ten. -/
def scaledDown (significand exponent : Nat) : Float :=
  let (s, e) := removeZeros significand exponent
  if e = 0 then nearestDouble s
  else if e ≤ greatestPower then nearestDouble (divided s (powerOfTen e))
  else if e < 342 then
    nearestDouble (divided s (powerOfTen (e - 308))) / ofDecimal false 1 308
  else zero false

/-- The magnitude of a number at the beginning of text. -/
def Leading.magnitude (l : Leading) : Float :=
  if l.significand = 0 then zero false
  else if 0 ≤ l.exponent then scaledUp l.significand l.exponent.toNat
  else scaledDown l.significand (-l.exponent).toNat

/-- The double that a number at the beginning of text is. -/
def Leading.value (l : Leading) : Float := if l.negative then -l.magnitude else l.magnitude

/-- The integer that text is, if all of it is one that fits 64 signed bits. -/
def Leading.integer? (l : Leading) : Option Int :=
  if l.isAll then
    l.whole?.bind fun n =>
      let n : Int := if l.negative then -(n : Int) else n
      if -(twoTo 63 : Int) ≤ n ∧ n < (twoTo 63 : Int) then some n else none
  else none

end JobSearch.Number
