import JobSearch.Dataset.Image.Fault
import JobSearch.Query.Condition
import JobSearch.Number.Numeral
import JobSearch.Number.Sum
import JobSearch.Relation.Column

/-!
# Statements

A statement says which columns to show, where the rows come from, which of them to keep, how
to group and order them, and which part of the result to give. It has a text, the values that
its question marks are bound to, and a result over a database.

A result can fail in two ways: a table is missing, or a value is an integer that does not fit
the storage. The tables of the statement itself are looked up first, then those of its inner
statements, then the values are bound. The limits of the engine (the depth of conditions, the number
of values, the length of patterns) are left out of `run`; they stand in `JobSearch.Query.Limits` and
apply to a store that is asked within limits.

## Main definitions

* `Statement` — with `text` and `params`.
* `Result` — named columns and rows.
* `Statement.run` — the result over a database.
-/

namespace JobSearch.Query

/-- A test on a number. -/
inductive RangeTest where
  | equals (n : Int)
  | between (low high : Int)
  | below (n : Int)
  deriving DecidableEq

/-- A name for the numbers that pass a test. -/
structure Bucket where
  test : RangeTest
  label : String
  deriving DecidableEq

/-- What a column of the result shows of a row or a group of rows. -/
inductive Expression where
  | column (c : Column)
  /-- The text of a column, or another text if it holds nothing. -/
  | orElse (c : Column) (fallback : String)
  /-- The label of the first bucket whose test the number passes, else the last label. -/
  | bucket (c : Column) (buckets : List Bucket) (otherwise : String)
  | countRows
  | countDistinct (c : Column)
  /-- The mean of the numbers of a column, rounded to an integer; they are added in the order of
  another column. -/
  | roundedMean (c place : Column)
  deriving DecidableEq

/-- A named column of the result. -/
structure Output where
  expression : Expression
  name : String
  deriving DecidableEq

/-- Ascending, descending, or ascending without saying so. -/
inductive Direction where
  | ascending
  | descending
  | unspoken
  deriving DecidableEq

/-- A direction as text. -/
def Direction.text : Direction → String
  | ascending => " ASC"
  | descending => " DESC"
  | unspoken => ""

/-- What a result is ordered by. -/
inductive SortKey where
  | column (c : Column)
  /-- A column of the result. -/
  | output (name : String)
  /-- The place of a column of the result in a list of labels; any other value comes last. -/
  | ranked (name : String) (labels : List String)
  deriving DecidableEq

/-- One criterion of an order. -/
structure SortTerm where
  key : SortKey
  direction : Direction
  deriving DecidableEq

/-- How rows become lines of the result. -/
inductive Grouping where
  /-- Each row is a line. -/
  | each
  /-- All rows are one line. -/
  | whole
  /-- The rows that show the same value are one line. -/
  | keyed (e : Expression)
  deriving DecidableEq

/-- The part of the result that is given. -/
inductive Window where
  | all
  /-- The first lines; a negative number sets no limit. -/
  | first (limit : Int)
  /-- A number of lines behind an offset. -/
  | slice (limit offset : Int)
  deriving DecidableEq

/-- A statement. -/
structure Statement where
  outputs : List Output
  source : Source
  condition : Option (Condition Carriers)
  grouping : Grouping
  order : List SortTerm
  window : Window

/-! ### The text of a statement -/

/-- A test as text. -/
def RangeTest.text : RangeTest → String
  | equals n => " = " ++ Number.intText n
  | between low high => " BETWEEN " ++ Number.intText low ++ " AND " ++ Number.intText high
  | below n => " < " ++ Number.intText n

/-- Text as a constant of a statement. -/
def constant (s : String) : String := "'" ++ s ++ "'"

/-- A choice among cases, one a line, indented like the columns of a result. -/
def caseText (subject : String) (cases : List String) (otherwise : String) : String :=
  "CASE" ++ subject ++ String.join (cases.map fun c => "\n        WHEN " ++ c) ++
    "\n        ELSE " ++ otherwise ++ "\n    END"

/-- An expression as text. -/
def Expression.text : Expression → String
  | column c => c.text
  | orElse c fallback => "COALESCE(" ++ c.text ++ ", " ++ constant fallback ++ ")"
  | bucket c buckets otherwise =>
    caseText "" (buckets.map fun b => c.text ++ b.test.text ++ " THEN " ++ constant b.label)
      (constant otherwise)
  | countRows => "COUNT(*)"
  | countDistinct c => "COUNT(DISTINCT " ++ c.text ++ ")"
  | roundedMean c _ => "ROUND(AVG(" ++ c.text ++ "))"

/-- A column of the result as text. -/
def Output.text (o : Output) : String := o.expression.text ++ " AS " ++ o.name

/-- A sort key as text. -/
def SortKey.text : SortKey → String
  | column c => c.text
  | output name => name
  | ranked name labels =>
    caseText (" " ++ name)
      (labels.mapIdx fun i l => constant l ++ " THEN " ++ Number.natText (i + 1))
      (Number.natText (labels.length + 1))

/-- A criterion as text. -/
def SortTerm.text (t : SortTerm) : String := t.key.text ++ t.direction.text

/-- The columns of the result as text; more than two stand on a line each. -/
def outputsText (os : List Output) : String :=
  (if os.length ≤ 2 then ", " else ",\n    ").intercalate (os.map Output.text)

namespace Statement

/-- The parts of a statement, one line or more each. -/
def parts (s : Statement) : List String :=
  ["SELECT " ++ outputsText s.outputs] ++ s.source.parts ++
    (match s.condition with
      | none => []
      | some c => ["WHERE " ++ c.text]) ++
    (match s.grouping with
      | .keyed e => ["GROUP BY " ++ e.text]
      | _ => []) ++
    (match s.order with
      | [] => []
      | terms => ["ORDER BY " ++ ", ".intercalate (terms.map SortTerm.text)]) ++
    (match s.window with
      | .all => []
      | .first _ => ["LIMIT ?"]
      | .slice _ _ => ["LIMIT ? OFFSET ?"])

/-- A statement as text. -/
def text (s : Statement) : String := "\n".intercalate s.parts

/-- The values of a statement, in the order of its question marks. -/
def params (s : Statement) : List Cell :=
  (match s.condition with
    | none => []
    | some c => c.params) ++
  (match s.window with
    | .all => []
    | .first limit => [.int limit]
    | .slice limit offset => [.int limit, .int offset])

end Statement

/-! ### The result of a statement -/

/-- Named columns and rows of values. -/
structure Result (α : Type) where
  columns : List String
  rows : List (List α)

namespace Result

variable {α : Type}

/-- The rows by column name: a row that is too short has no value for the last columns, and of
two columns of one name the later one counts. -/
def records (r : Result α) : List (List (String × α)) :=
  r.rows.map fun row => Ordered.ofList (r.columns.zip row)

/-- The first value of the first row, or a default if there is no row; nothing if the first
row has no value. -/
def scalar? (r : Result α) (default : α) : Option α :=
  match r.rows with
  | [] => some default
  | row :: _ => row.head?

end Result

/-- Whether a number passes a test. -/
def RangeTest.truth (t : RangeTest) (c : Cell) : Truth :=
  match t with
  | equals n => c.equals (.int n)
  | between low high => (c.atLeast (.int low)).and (c.atMost (.int high))
  | below n => Cell.compare (fun a b => !b.le a) c (.int n)

/-- The label of the first bucket whose test a number passes. -/
def bucketLabel (buckets : List Bucket) (otherwise : String) (c : Cell) : String :=
  match buckets.find? fun b => (b.test.truth c).holds with
  | some b => b.label
  | none => otherwise

/-- Rows in the order of a column. -/
def inOrderOf (c : Column) (rows : List Joined) : List Joined :=
  rows.mergeSort fun r s => (r.cell c).le (s.cell c)

/-- The value of an expression on a group of rows; a column is read off the first row. -/
def Expression.value (rows : List Joined) : Expression → Cell
  | column c => (rows.head?.map (·.cell c)).getD .null
  | orElse c fallback =>
    let cell := (rows.head?.map (·.cell c)).getD .null
    if cell.isNull then .text fallback else cell.plain
  | bucket c buckets otherwise =>
    .text (bucketLabel buckets otherwise ((rows.head?.map (·.cell c)).getD .null))
  | countRows => .int rows.length
  | countDistinct c => .int (Carriers.countDistinct (rows.map (·.cell c)))
  | roundedMean c place =>
    match Number.runningMean? ((inOrderOf place rows).filterMap fun r => (r.cell c).addend?) with
    | some x => .real (Number.roundHalfAway x)
    | none => .null

/-- Rows as groups. -/
def Grouping.groups (g : Grouping) (rows : List Joined) : List (List Joined) :=
  match g with
  | each => rows.map fun r => [r]
  | whole => [rows]
  | keyed e => groupsBy (fun r => (e.value [r]).key) rows

/-- The value of a column of the result on a group of rows. -/
def outputValue (outputs : List Output) (name : String) (rows : List Joined) : Cell :=
  match outputs.find? fun o => o.name == name with
  | some o => o.expression.value rows
  | none => .null

/-- The value by which a group of rows is ordered. -/
def SortKey.value (outputs : List Output) (rows : List Joined) : SortKey → Cell
  | column c => (Expression.column c).value rows
  | output name => outputValue outputs name rows
  | ranked name labels =>
    .int ((labels.map Cell.text).findIdx fun l => l == outputValue outputs name rows)

/-- Whether values may stand in this order under some criteria. -/
def inOrder : List Direction → List Cell → List Cell → Bool
  | d :: ds, a :: as, b :: bs =>
    let (before, after) := match d with
      | .descending => (b.le a, a.le b)
      | _ => (a.le b, b.le a)
    before && (!after || inOrder ds as bs)
  | _, _, _ => true

/-- The part of a list that a window shows. -/
def Window.cut {α : Type} (w : Window) (xs : List α) : List α :=
  match w with
  | all => xs
  | first limit => if limit < 0 then xs else xs.take limit.toNat
  | slice limit offset =>
    let rest := xs.drop offset.toNat
    if limit < 0 then rest else rest.take limit.toNat

/-- Why a statement has no result. -/
inductive RunFault where
  | missingTable (name : String)
  | missingColumn (column : Column)
  /-- A value does not fit the storage. -/
  | overflow
  /-- An image cannot be asked, or not about one of its tables. -/
  | unreadable (why : ImageFault)
  /-- A column of the result would show text whose bytes are none. -/
  | undecodable (name : String) (bytes : List UInt8)
  deriving DecidableEq

namespace Statement

/-- The groups of rows of a statement in order, all of them. -/
def lines (s : Statement) (rows : List Joined) : List (List Joined) :=
  let keyed := (s.grouping.groups rows).map fun g =>
    (s.order.map fun t => t.key.value s.outputs g, g)
  (keyed.mergeSort fun a b => inOrder (s.order.map (·.direction)) a.1 b.1).map (·.2)

/-- The rows of a statement's source that its condition keeps, or the table that is missing. -/
def kept (db : Database) (s : Statement) : Except String (List Joined) :=
  match s.source.rows db with
  | .error table => .error table
  | .ok rows =>
    match s.condition with
    | none => .ok rows
    | some c =>
      match c.resolve (Carriers.find db) with
      | .error table => .error table
      | .ok c => .ok (rows.filter fun r => (c.truth r).holds)

/-- The result of a statement over a database. -/
def run (db : Database) (s : Statement) : Except RunFault (Result Cell) :=
  match s.kept db with
  | .error table => .error (.missingTable table)
  | .ok rows =>
    if s.params.all Cell.fits then
      .ok
        { columns := s.outputs.map (·.name)
          rows := (s.window.cut (s.lines rows)).map fun g =>
            s.outputs.map fun o => o.expression.value g }
    else .error .overflow

end Statement

end JobSearch.Query
