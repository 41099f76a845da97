import JobSearch.Query.Source
import JobSearch.Distinct

/-!
# Conditions

The conditions of a statement, each with the values it is bound to. A condition has a text, in
which a question mark stands for each value, the list of its values in the order of those
marks, and a truth value on each row.

A condition may ask whether a posting is among the carriers of several labels; what such a
question looks at is a parameter of the type, so that the rows of the inner statement are
found once and the condition is then read off them.

## Main definitions

* `Carriers` — the inner statement that finds who carries all of some labels.
* `Condition` — conditions, with `text`, `params` and `truth`.
* `Condition.resolve` — a condition with the answers of its inner statements.
-/

namespace JobSearch.Query

/-- The owners that carry every one of some labels: of the rows whose label is among them,
grouped by owner, the groups with as many distinct labels as were asked for. -/
structure Carriers where
  owner : Column
  source : Source
  label : Column
  /-- The labels that were asked for. -/
  wanted : List Cell
  deriving DecidableEq

/-- As many question marks as there are values. -/
def marks (count : Nat) : String := ", ".intercalate (List.replicate count "?")

namespace Carriers

/-- The inner statement as text. -/
def text (c : Carriers) : String :=
  "SELECT " ++ c.owner.text ++ " " ++ " ".intercalate c.source.parts ++
    " WHERE " ++ c.label.text ++ " IN (" ++ marks c.wanted.length ++ ")" ++
    " GROUP BY " ++ c.owner.text ++
    " HAVING COUNT(DISTINCT " ++ c.label.text ++ ") = ?"

/-- The values of the inner statement: the labels, then their number. -/
def params (c : Carriers) : List Cell := c.wanted ++ [.int c.wanted.length]

/-- The number of distinct cells that hold something. -/
def countDistinct (cells : List Cell) : Nat :=
  (distinct ((cells.map Cell.key).filter (· ≠ .nothing))).length

/-- The owners that the inner statement finds. -/
def find (db : Database) (c : Carriers) : Except String (List Cell) :=
  match c.source.rows db with
  | .error table => .error table
  | .ok rows =>
    let kept := rows.filter fun r => ((r.cell c.label).oneOf c.wanted).holds
    let groups := groupsBy (fun r => (r.cell c.owner).key) kept
    let full := groups.filter fun g =>
      ((Cell.int (countDistinct (g.map (·.cell c.label)))).equals (.int c.wanted.length)).holds
    .ok (full.filterMap fun g => g.head?.map (·.cell c.owner))

end Carriers

/-- A condition on a row; `σ` is what a question about carriers looks at. -/
inductive Condition (σ : Type) where
  | equals (column : Column) (value : Cell)
  | atLeast (column : Column) (value : Cell)
  | atMost (column : Column) (value : Cell)
  /-- The column holds something. -/
  | present (column : Column)
  | oneOf (column : Column) (values : List Cell)
  | like (column : Column) (pattern : String)
  /-- The column in lower case matches a pattern. -/
  | likeLowered (column : Column) (pattern : String)
  /-- The column holds one of the owners that an inner statement finds. -/
  | among (column : Column) (carriers : σ)
  | and (first second : Condition σ)
  | or (first second : Condition σ)
  /-- A condition in parentheses. -/
  | grouped (inner : Condition σ)

namespace Condition

variable {σ τ : Type}

/-- All of several conditions, if there is one. -/
def all? : List (Condition σ) → Option (Condition σ)
  | [] => none
  | c :: rest => match all? rest with
    | none => some c
    | some more => some (.and c more)

/-- One of several conditions, if there is one. -/
def any? : List (Condition σ) → Option (Condition σ)
  | [] => none
  | c :: rest => match any? rest with
    | none => some c
    | some more => some (.or c more)

/-- The text of a pattern match. -/
def likeText (subject : String) : String := subject ++ " LIKE ? ESCAPE '\\'"

/-- A condition as text. -/
def text : Condition Carriers → String
  | equals c _ => c.text ++ " = ?"
  | atLeast c _ => c.text ++ " >= ?"
  | atMost c _ => c.text ++ " <= ?"
  | present c => c.text ++ " IS NOT NULL"
  | oneOf c vs => c.text ++ " IN (" ++ marks vs.length ++ ")"
  | like c _ => likeText c.text
  | likeLowered c _ => likeText ("LOWER(" ++ c.text ++ ")")
  | among c s => c.text ++ " IN (" ++ s.text ++ ")"
  | and a b => a.text ++ " AND " ++ b.text
  | or a b => a.text ++ " OR " ++ b.text
  | grouped a => "(" ++ a.text ++ ")"

/-- The values of a condition, in the order of its question marks. -/
def params : Condition Carriers → List Cell
  | equals _ v => [v]
  | atLeast _ v => [v]
  | atMost _ v => [v]
  | present _ => []
  | oneOf _ vs => vs
  | like _ p => [.text p]
  | likeLowered _ p => [.text p]
  | among _ s => s.params
  | and a b => a.params ++ b.params
  | or a b => a.params ++ b.params
  | grouped a => a.params

/-- A condition with each question about carriers replaced, from left to right; the first one
that fails decides. -/
def resolve {ε : Type} (find : σ → Except ε τ) : Condition σ → Except ε (Condition τ)
  | equals c v => .ok (.equals c v)
  | atLeast c v => .ok (.atLeast c v)
  | atMost c v => .ok (.atMost c v)
  | present c => .ok (.present c)
  | oneOf c vs => .ok (.oneOf c vs)
  | like c p => .ok (.like c p)
  | likeLowered c p => .ok (.likeLowered c p)
  | among c s => match find s with
    | .ok t => .ok (.among c t)
    | .error e => .error e
  | and a b => match a.resolve find with
    | .error e => .error e
    | .ok a => match b.resolve find with
      | .error e => .error e
      | .ok b => .ok (.and a b)
  | or a b => match a.resolve find with
    | .error e => .error e
    | .ok a => match b.resolve find with
      | .error e => .error e
      | .ok b => .ok (.or a b)
  | grouped a => match a.resolve find with
    | .error e => .error e
    | .ok a => .ok (.grouped a)

/-- The truth of a condition on a row, given the owners found by its inner statements. -/
def truth (r : Joined) : Condition (List Cell) → Truth
  | equals c v => (r.cell c).equals v
  | atLeast c v => (r.cell c).atLeast v
  | atMost c v => (r.cell c).atMost v
  | present c => .ofBool !(r.cell c).isNull
  | oneOf c vs => (r.cell c).oneOf vs
  | like c p => (r.cell c).like p
  | likeLowered c p => (r.cell c).lowerAscii.like p
  | among c owners => (r.cell c).oneOf owners
  | and a b => (a.truth r).and (b.truth r)
  | or a b => (a.truth r).or (b.truth r)
  | grouped a => a.truth r

/-- The qualifiers of the columns that a condition looks at, those of its inner statements
apart. -/
def qualifiers : Condition σ → List String
  | equals c _ => [c.qualifier]
  | atLeast c _ => [c.qualifier]
  | atMost c _ => [c.qualifier]
  | present c => [c.qualifier]
  | oneOf c _ => [c.qualifier]
  | like c _ => [c.qualifier]
  | likeLowered c _ => [c.qualifier]
  | among c _ => [c.qualifier]
  | and a b => a.qualifiers ++ b.qualifiers
  | or a b => a.qualifiers ++ b.qualifiers
  | grouped a => a.qualifiers

end Condition

end JobSearch.Query
