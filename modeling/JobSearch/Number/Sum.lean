import JobSearch.Number.Binary

/-!
# Sums and means of doubles

A sum of doubles is kept in parts, the smallest one first: what rounding loses when a number is
added becomes a part of its own, so nothing is lost until the parts are rounded to one double at
the end. A sum fails if a number that is carried through the parts gets beyond the largest double,
even if later ones would bring it back, or if infinities of both signs meet.

The mean of a column is formed in another way, as SQLite does it before version 3.43: one number is
added after the other in doubles. Later versions add integers exactly and correct the sum of doubles
by what rounding has lost, which is not followed here.

## Main definitions

* `carry`, `overflowsFrom` — adding a number to the parts of a sum.
* `roundedSum` — the double nearest to the sum.
* `roundHalfAway` — a double rounded to an integer.
* `runningMean?` — the mean of doubles in a given order.
-/

namespace JobSearch.Number

/-! ### Sums in parts -/

/-- The rounded sum of two doubles, and what rounding has lost. -/
def twoSum (x y : Float) : Float × Float :=
  let (large, small) := if x.abs < y.abs then (y, x) else (x, y)
  let sum := large + small
  (sum, small - (sum - large))

/-- A number carried through the parts of a sum: what is lost on the way stays behind, and the
rest gets to the top. -/
def carry (x : Float) : List Float → List Float × Float
  | [] => ([], x)
  | part :: larger =>
    let (sum, lost) := twoSum x part
    let (parts, top) := carry sum larger
    (if lost == 0 then parts else lost :: parts, top)

/-- The parts of a sum with one more number. Behind a number that is not finite summing starts
anew. -/
def withAddend (parts : List Float) (x : Float) : List Float :=
  let (smaller, top) := carry x parts
  if !isFinite top then [] else if top == 0 then smaller else smaller ++ [top]

/-- Whether one of the finite numbers gets beyond the largest double when it is added to the
parts. -/
def overflowsFrom (parts : List Float) : List Float → Bool
  | [] => false
  | x :: rest =>
    (isFinite x && !isFinite (carry x parts).2) || overflowsFrom (withAddend parts x) rest

/-- A double and smaller parts of a sum, the largest one first, rounded to one double. The first
part that does not fit in decides; if it leads into the middle between two doubles, the part behind
it does. -/
def collapse (sum : Float) : List Float → Float
  | [] => sum
  | part :: smaller =>
    let higher := sum + part
    let lost := part - (higher - sum)
    if lost == 0 then collapse higher smaller
    else
      let farther := smaller.head?.any fun next =>
        (lost < 0 && next < 0) || (0 < lost && 0 < next)
      let moved := higher + lost * 2
      if farther && lost * 2 == moved - higher then moved else higher

/-- The parts of a sum rounded to one double. -/
def ofParts (parts : List Float) : Float :=
  match parts.reverse with
  | [] => 0
  | top :: smaller => collapse top smaller

/-- Why a sum cannot be formed. -/
inductive SumFault where
  /-- A number gets beyond the largest double when it is added. -/
  | overflow
  /-- Infinities of both signs meet. -/
  | opposedInfinities
  deriving DecidableEq

/-- The double nearest to the sum of a list; an infinity or no number if the list holds one. -/
def roundedSum (xs : List Float) : Except SumFault Float :=
  let readings := xs.map Reading.ofFloat
  if overflowsFrom [] xs then .error .overflow
  else if readings.contains (.infinite true) && readings.contains (.infinite false) then
    .error .opposedInfinities
  else if readings.contains .nan then .ok notANumber
  else if readings.contains (.infinite true) then .ok (infinity true)
  else if readings.contains (.infinite false) then .ok (infinity false)
  else .ok (ofParts (xs.foldl withAddend []))

/-! ### Means -/

/-- A double rounded to an integer, a half going away from zero; beyond `2 ^ 52` every double
is one already. -/
def roundHalfAway (x : Float) : Float :=
  if x < -4503599627370496 || x > 4503599627370496 then x
  else (x + if x < 0 then -0.5 else 0.5).toInt64.toFloat

/-- The mean of doubles that are added one after the other, as SQLite does it before version 3.43,
if there are any; none if it is no number, as when infinities of both signs meet. -/
def runningMean? (xs : List Float) : Option Float :=
  let mean := xs.foldl (· + ·) 0 / Float.ofNat xs.length
  if xs.isEmpty || isNaN mean then none else some mean

end JobSearch.Number
