import JobSearch.Number.Leading
import JobSearch.Number.Numeral
import JobSearch.Number.Significant
import JobSearch.Relation.Cell

/-!
# Columns

A column prefers numbers of one kind, or text, and turns what it is given into that if nothing
is lost. Text that is no numeral stays text in a column of numbers.

## Main definitions

* `ColumnKind` — what a column prefers.
* `Cell.stored` — a cell as a column stores it.
* `Cell.comparedWith` — a cell as it is compared with a column.
* `Cell.addend?` — what a cell contributes to a sum.
-/

namespace JobSearch

/-- What a column prefers. -/
inductive ColumnKind where
  /-- Numbers are stored as doubles. -/
  | real
  /-- Whole numbers are stored as integers. -/
  | integer
  /-- Numbers are stored as text. -/
  | text
  /-- Everything is stored as it is. -/
  | untyped
  deriving DecidableEq

/-- Whether a column prefers numbers. -/
def ColumnKind.isNumeric : ColumnKind → Bool
  | real => true
  | integer => true
  | text => false
  | untyped => false

namespace Cell

/-- The double that an integer becomes in a column of doubles. -/
def doubleOfInt (n : Int) : Float := (Number.ofInt? n).getD (Number.infinity (n < 0))

/-- A double as a column of whole numbers stores it: as an integer if it is one strictly
between the ends of 64 signed bits. -/
def wholeReal (x : Float) : Cell :=
  match Number.exactValue? x with
  | some q => if q.den = 1 ∧ q.num.natAbs < Number.twoTo 63 then .int q.num else .real x
  | none => .real x

/-- Text as a column of whole numbers stores it: as a number if all of it is a numeral. -/
def numericText (s : String) : Cell :=
  let leading := Number.Leading.read s
  match leading.integer? with
  | some n => .int n
  | none => if leading.isAll then wholeReal leading.value else .text s

/-- An integer as a double, all else as it is. -/
def realFromInt : Cell → Cell
  | .int n => .real (doubleOfInt n)
  | c => c

/-- A cell as a column stores it. A double that is no number is stored as nothing, and zero has
no sign in a column of numbers. -/
def stored (kind : ColumnKind) (c : Cell) : Cell :=
  if c.isNull then .null
  else
    match kind, c with
    | .real, .real x => realFromInt (wholeReal x)
    | .real, .text s => realFromInt (numericText s)
    | .real, c => realFromInt c
    | .integer, .real x => wholeReal x
    | .integer, .text s => numericText s
    | .text, .int n => .text (Number.intText n)
    | .text, .real x => .text (Number.storedText x)
    | _, c => c

/-- A cell as it is compared with a column: as a number if the column prefers numbers and it is
one, as text if the column prefers text. -/
def comparedWith (kind : ColumnKind) (c : Cell) : Cell :=
  match kind, c with
  | .text, c => c.stored .text
  | .untyped, c => c
  | _, .text s => numericText s
  | _, .folded _ s =>
    match numericText s with
    | .text _ => c
    | n => n
  | _, c => c

/-- What a cell contributes to a sum: a number itself, of text the number at its beginning, and
nothing if it holds nothing. -/
def addend? (c : Cell) : Option Float :=
  if c.isNull then none
  else
    match c with
    | .null => none
    | .int n => some (doubleOfInt n)
    | .real x => some x
    | c =>
      let leading := Number.Leading.read c.toJson.label
      match leading.integer? with
      | some n => some (doubleOfInt n)
      | none => some leading.value

end Cell

end JobSearch
