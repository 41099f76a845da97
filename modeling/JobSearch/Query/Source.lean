import JobSearch.Relation.Table

/-!
# Where rows come from

A statement reads one table and joins others to it. Each table of the statement has a short
name of its own, its qualifier, by which columns refer to it.

## Main definitions

* `Column`, `Join`, `Source` — what a statement reads, and its text.
* `Joined` — one row of a source.
* `Source.rows` — the rows of a source over a database.
-/

namespace JobSearch.Query

/-- A column of a table of the statement. -/
structure Column where
  qualifier : String
  name : String
  deriving DecidableEq

/-- A column as text. -/
def Column.text (c : Column) : String := c.qualifier ++ "." ++ c.name

/-- What happens to a row that has no partner in the joined table. -/
inductive JoinKind where
  /-- It is left out. -/
  | inner
  /-- It stays, and the columns of the joined table hold nothing. -/
  | left
  deriving DecidableEq

/-- A table joined to those before it. -/
structure Join where
  kind : JoinKind
  table : String
  qualifier : String
  /-- The two columns that must be equal, in the order in which they are written. -/
  first : Column
  second : Column
  deriving DecidableEq

/-- A join as text. -/
def Join.text (j : Join) : String :=
  (match j.kind with
    | .inner => "JOIN "
    | .left => "LEFT JOIN ") ++
  j.table ++ " " ++ j.qualifier ++ " ON " ++ j.first.text ++ " = " ++ j.second.text

/-- The tables that a statement reads. -/
structure Source where
  table : String
  qualifier : String
  joins : List Join
  deriving DecidableEq

namespace Source

/-- The first table as text. -/
def head (s : Source) : String := "FROM " ++ s.table ++ " " ++ s.qualifier

/-- The parts of a source, one for each table. -/
def parts (s : Source) : List String := s.head :: s.joins.map Join.text

/-- The names of the tables, in the order in which they are looked up. -/
def tables (s : Source) : List String := s.table :: s.joins.map Join.table

/-- The qualifiers that a source introduces. -/
def qualifiers (s : Source) : List String := s.qualifier :: s.joins.map Join.qualifier

end Source

/-- One row of a source: for each qualifier a row of its table, the last joined first. -/
abbrev Joined := List (String × Row)

/-- The cell of a column. -/
def Joined.cell (r : Joined) (c : Column) : Cell :=
  match Ordered.find? c.qualifier r with
  | some row => row.cell c.name
  | none => .null

/-- The ways to go on from a row with a row of the joined table. -/
def Join.partners (j : Join) (rows : List Row) (r : Joined) : List Joined :=
  (rows.map fun row => (j.qualifier, row) :: r).filter fun extended =>
    ((Joined.cell extended j.first).equals (Joined.cell extended j.second)).holds

/-- A row joined with the rows of a table. -/
def Join.extend (j : Join) (rows : List Row) (r : Joined) : List Joined :=
  match j.kind, j.partners rows r with
  | .left, [] => [(j.qualifier, []) :: r]
  | _, found => found

/-- The rows of a table, or the name of the table that is missing. -/
def rowsOf (db : Database) (table : String) : Except String (List Row) :=
  match db.table? table with
  | some t => .ok t.rows
  | none => .error table

/-- Rows joined with further tables, or the first table that is missing. -/
def joinAll (db : Database) : List Join → List Joined → Except String (List Joined)
  | [], rows => .ok rows
  | j :: rest, rows =>
    match rowsOf db j.table with
    | .ok found => joinAll db rest (rows.flatMap (j.extend found))
    | .error table => .error table

/-- The rows of a source, or the first table that is missing. -/
def Source.rows (db : Database) (s : Source) : Except String (List Joined) :=
  match rowsOf db s.table with
  | .ok found => joinAll db s.joins (found.map fun row => [(s.qualifier, row)])
  | .error table => .error table

end JobSearch.Query
