import JobSearch.Fault
import JobSearch.Number.Sum
import JobSearch.Statistics.Ascending
import JobSearch.Statistics.Mode
import JobSearch.Statistics.Order

/-!
# Summaries of columns

The figures of a list of doubles, and of the numeric columns of a table of values. Sums are rounded
once, at the end, but whether a sum can be formed may depend on the order of the values. A column
without a number has no summary.

## Main definitions

* `Summary`, `summarize` — the figures of a list.
* `columnSummaries` — the figures of columns.
-/

namespace JobSearch

/-- The exact value of a double as a place. -/
def exactPlace (x : Float) : Except PlaceFault Rat :=
  match Number.exactValue? x with
  | some q => .ok q
  | none => .error (if Number.isNaN x then .nowhere else .unbounded)

/-- Doubles. -/
instance : Graded Float where
  ofInt n := Float.ofInt n
  floor x := (exactPlace x).map Rat.floor
  ceiling x := (exactPlace x).map Rat.ceil

/-- The shares that a summary shows, in percent. -/
def summaryShares : List Nat := [25, 50, 75, 90, 95, 99]

/-- The figures of a list of doubles. -/
structure Summary where
  count : Nat
  min : Float
  max : Float
  mean : Float
  median : Float
  mode : Float
  deviation : Float
  /-- The values at the shares of a summary, each with its share. -/
  percentiles : List (Nat × Float)

namespace Summary

/-- A summary as a document. -/
def toJson (s : Summary) : Json :=
  .object ([
    ("count", .int s.count), ("min", .real s.min), ("max", .real s.max), ("mean", .real s.mean),
    ("median", .real s.median), ("mode", .real s.mode), ("std_dev", .real s.deviation)] ++
    s.percentiles.map fun p => ("p" ++ Number.natText p.1, .real p.2))

end Summary

/-- A fault of order statistics as a fault of a figure. -/
def PlaceFault.toFault (figure : Figure) : PlaceFault → Fault
  | noValues => .noValues figure
  | nowhere => .notFinite
  | unbounded => .overflow
  | pastEnd => .pastEnd

/-- A fault of a sum as a fault. -/
def Number.SumFault.toFault : Number.SumFault → Fault
  | overflow => .overflow
  | opposedInfinities => .opposedInfinities

/-- The value a share of the way through a list of doubles. -/
def percentile (xs : List Float) (share : Float) : Except Fault Float :=
  (quantile xs share).mapError (PlaceFault.toFault .percentile)

/-- A double that is summed up. -/
structure Sample where
  value : Float
  /-- Whether it was read from text. -/
  fromText : Bool

/-- What samples are compared by when they are counted. -/
inductive SampleKey where
  /-- A place on the line. -/
  | at (p : Number.Point)
  /-- No number, which is like every other such sample. -/
  | nowhere
  /-- No number, which is like no other sample: it stands alone at its position. -/
  | alone (position : Nat)
  deriving DecidableEq

/-- The key of the sample at a position. Two samples that are no number are alike only if
neither was read from text. -/
def Sample.key (position : Nat) (s : Sample) : SampleKey :=
  match (Number.Reading.ofFloat s.value).point? with
  | some p => .at p
  | none => if s.fromText then .alone position else .nowhere

/-- The most frequent double. -/
def mode (samples : List Sample) : Except Fault Float :=
  match mode? (·.2) (samples.mapIdx fun i s => (s.value, s.key i)) with
  | some (x, _) => .ok x
  | none => .error (.noValues .mode)

/-- The sum of doubles divided by a number of them. -/
def meanOf (xs : List Float) (count : Nat) : Except Fault Float :=
  ((Number.roundedSum xs).mapError Number.SumFault.toFault).map (· / Float.ofNat count)

/-- The square of a double; a finite one must have a finite square. The power is formed as
such, since a product may differ from it in the last place. -/
def square (x : Float) : Except Fault Float :=
  if Number.isFinite x && !Number.isFinite (x * x) then .error .overflow else .ok (x.pow 2)

/-- The figures of some samples. -/
def summarize (samples : List Sample) : Except Fault Summary :=
  let xs := samples.map Sample.value
  match xs.head?, (ascending xs).head?, (ascending xs).getLast? with
  | some _, some low, some high => do
    let ordered := ascending xs
    let mean ← meanOf xs xs.length
    let squares ← xs.mapM fun x => square (x - mean)
    let variance ← meanOf squares xs.length
    let median ← percentile ordered (50 / 100)
    let most ← mode samples
    let percentiles ← summaryShares.mapM fun p => do
      return (p, ← percentile ordered (Float.ofNat p / 100))
    return ⟨xs.length, low, high, mean, median, most, variance.sqrt, percentiles⟩
  | _, _, _ => .error (.noValues .summary)

/-! ### Values given as documents -/

/-- A value as a double; text may be written in the digits of any script. -/
def Json.toReal : Json → Except Fault Float
  | .int n =>
    match Number.ofInt? n with
    | some x => .ok x
    | none => .error .overflow
  | .real x => .ok x
  | .bool b => .ok (if b then 1 else 0)
  | .text s =>
    match Number.readReal? s with
    | some x => .ok x
    | none => .error (.notReal s)
  | _ => .error .wrongKind

/-- A value as a sample. -/
def Json.toSample (v : Json) : Except Fault Sample :=
  v.toReal.map fun x => ⟨x, match v with
    | .text _ => true
    | _ => false⟩

/-- A number of percent as a share. -/
def Json.toShare : Json → Except Fault Float
  | .bool b => .ok ((if b then 1 else 0) / 100)
  | .int n =>
    match Number.ofRatio? (n < 0) n.natAbs 100 with
    | some x => .ok x
    | none => .error .overflow
  | .real x => .ok (x / 100)
  | _ => .error .wrongKind

/-! ### Columns -/

/-- The double of a number, if the value is a finite number. -/
def Json.numeric? : Json → Except Fault (Option Float)
  | .int n =>
    match Number.ofInt? n with
    | some x => .ok (some x)
    | none => .error .overflow
  | .real x => .ok (if Number.isFinite x then some x else none)
  | _ => .ok none

/-- A table row by column. -/
abbrev Record := List (String × Json)

/-- The numbers in a column. -/
def numbersIn (rows : List Record) (column : String) : Except Fault (List Sample) :=
  (rows.mapM fun r => ((Ordered.find? column r).getD Json.null).numeric?).map fun found =>
    (found.filterMap id).map fun x => ⟨x, false⟩

/-- The summary of one column, if it has a number. -/
def columnSummary (rows : List Record) (column : String) : Except Fault (Option Summary) := do
  match ← numbersIn rows column with
  | [] => return none
  | xs => return some (← summarize xs)

/-- The summaries of columns, by default of those of the first row. -/
def columnSummaries (rows : List Record) (columns : Option (List String)) :
    Except Fault (List (String × Summary)) :=
  match rows with
  | [] => .ok []
  | first :: _ => do
    let found ← (columns.getD (first.map (·.1))).mapM fun c => do
      return (← columnSummary rows c).map fun s => (c, s)
    return Ordered.ofList (found.filterMap id)

end JobSearch
