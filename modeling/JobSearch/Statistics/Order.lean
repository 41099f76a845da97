/-!
# Order statistics

The value a given share of the way through an ascending list. Between two positions the value
is interpolated with the weights that the fractional part of the place gives. The rule is
stated for any numbers that have positions, so that it can be read over doubles as it runs and
over exact numbers.

## Main definitions

* `Graded` — numbers in which places between positions can be computed.
* `valueAt` — the value at a position; negative positions count from the end.
* `quantile` — the value a share of the way through a list.
-/

namespace JobSearch

/-- Why there is no value at a place. -/
inductive PlaceFault where
  /-- The list is empty. -/
  | noValues
  /-- The place is no number. -/
  | nowhere
  /-- The place is infinite. -/
  | unbounded
  /-- The place lies behind the end of the list. -/
  | pastEnd
  deriving DecidableEq

/-- Numbers in which places between positions can be computed. -/
class Graded (α : Type) extends Add α, Sub α, Mul α where
  /-- A position as a number. -/
  ofInt : Int → α
  /-- The greatest position that is not above a number, if there is one. -/
  floor : α → Except PlaceFault Int
  /-- The least position that is not below a number, if there is one. -/
  ceiling : α → Except PlaceFault Int

/-- The value at a position; negative positions count from the end. -/
def valueAt {α : Type} (xs : List α) (position : Int) : Except PlaceFault α :=
  let i := if position < 0 then position + xs.length else position
  if i < 0 then .error .pastEnd
  else match xs[i.toNat]? with
    | some x => .ok x
    | none => .error .pastEnd

section

variable {α : Type} [Graded α]

/-- The place a share of the way through a list. -/
def placeOf (xs : List α) (share : α) : α := share * Graded.ofInt (xs.length - 1 : Int)

/-- Two values weighted by where a place lies between their positions. -/
def between (low high weight : α) : α := low * (Graded.ofInt 1 - weight) + high * weight

/-- The value a share of the way through a list. -/
def quantile (xs : List α) (share : α) : Except PlaceFault α :=
  if xs.isEmpty then .error .noValues
  else
    let place := placeOf xs share
    match Graded.floor place, Graded.ceiling place with
    | .ok lower, .ok upper =>
      match valueAt xs lower, valueAt xs upper with
      | .ok low, .ok high => .ok (between low high (place - Graded.ofInt lower))
      | .error f, _ => .error f
      | _, .error f => .error f
    | .error f, _ => .error f
    | _, .error f => .error f

end

/-- Exact numbers. -/
instance : Graded Rat where
  ofInt n := n
  floor q := .ok q.floor
  ceiling q := .ok q.ceil

end JobSearch
