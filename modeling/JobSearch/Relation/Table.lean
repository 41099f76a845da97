import JobSearch.Relation.Cell

/-!
# Tables

A database is a list of named tables. A row gives a cell for each of its columns; a column it
does not have holds nothing.

## Main definitions

* `Row`, `Table`, `Database` — stored data.
* `Database.table?` — a table by its name.
* `Database.without`, `Database.only` — a database after some tables were dropped, and some tables
  of a database.
* `Database.columnsOf` — the declared columns of a table.
-/

namespace JobSearch

/-- The cells of one row by column name. -/
abbrev Row := List (String × Cell)

/-- The cell of a column; nothing if the row has no such column. -/
def Row.cell (r : Row) (column : String) : Cell := (Ordered.find? column r).getD .null

/-- The column of the number of a row in storage order. -/
def rowNumber : String := "rowid"

/-- A stored table. -/
structure Table where
  name : String
  /-- The declared columns. -/
  columns : List String
  /-- The rows in storage order; besides the declared columns each has its row number. -/
  rows : List Row

/-- Stored tables. -/
structure Database where
  tables : List Table

namespace Database

/-- The rows of a table, if there is a table of that name. -/
def table? (db : Database) (name : String) : Option Table :=
  db.tables.find? fun t => t.name == name

/-- Whether a table goes by a name, without regard to the case of `A` to `Z`. -/
def goesBy (name : String) (t : Table) : Bool :=
  Text.lowerAscii t.name == Text.lowerAscii name

/-- The database after some tables were dropped. -/
def without (db : Database) (names : List String) : Database :=
  ⟨db.tables.filter fun t => !names.any fun name => goesBy name t⟩

/-- The tables of some names alone. -/
def only (db : Database) (names : List String) : Database :=
  ⟨db.tables.filter fun t => names.contains t.name⟩

/-- The declared columns of a table, none if there is no such table. -/
def columnsOf (db : Database) (name : String) : List String :=
  match db.tables.find? (goesBy name) with
  | some t => t.columns
  | none => []

end Database

end JobSearch
