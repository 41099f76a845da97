import JobSearch.Number.Binary

/-!
# Ascending order

Doubles in ascending order. A double that is no number has no place in the order, and no other
double is below it or above it. A list that holds one is arranged by insertion: its first run,
turned round if it falls, is kept, and every later value is put where halving the list leads.

## Main definitions

* `ascending` — the doubles of a list in ascending order.
* `arranged` — the arrangement by insertion.
-/

namespace JobSearch

/-- The doubles that fall strictly from a first one, the last of them first, in front of some
already found, and the rest. -/
def fallingRun (last : Float) (found : List Float) : List Float → List Float × List Float
  | [] => (last :: found, [])
  | x :: rest =>
    if x < last then fallingRun x (last :: found) rest else (last :: found, x :: rest)

/-- The doubles that never fall from a first one, and the rest. -/
def risingRun (last : Float) : List Float → List Float × List Float
  | [] => ([last], [])
  | x :: rest =>
    if x < last then ([last], x :: rest)
    else
      let (run, after) := risingRun x rest
      (last :: run, after)

/-- The first run of a list in rising order, and the rest. -/
def firstRun : List Float → List Float × List Float
  | [] => ([], [])
  | [x] => ([x], [])
  | x :: y :: rest => if y < x then fallingRun y [x] rest else risingRun x (y :: rest)

/-- Where a value is put in a list, between two positions: the half in front of the middle is
searched if the value is below the middle one, else the half behind it. -/
def insertionPlace (xs : List Float) (x : Float) (low high : Nat) : Nat :=
  if low < high then
    let middle := low + (high - low) / 2
    match xs[middle]? with
    | some y =>
      if x < y then insertionPlace xs x low middle else insertionPlace xs x (middle + 1) high
    | none => low
  else low
termination_by high - low

/-- A list with a value put in its place. -/
def inserted (xs : List Float) (x : Float) : List Float :=
  let place := insertionPlace xs x 0 xs.length
  xs.take place ++ x :: xs.drop place

/-- The arrangement of a list by insertion. -/
def arranged (xs : List Float) : List Float :=
  let (run, rest) := firstRun xs
  rest.foldl inserted run

/-- The doubles of a list in ascending order. -/
def ascending (xs : List Float) : List Float :=
  if xs.any Number.isNaN then arranged xs else xs.mergeSort fun x y => !(y < x)

end JobSearch
