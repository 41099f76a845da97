import JobSearch.Dataset.Image.Contents
import JobSearch.Fault
import JobSearch.Query.Postings
import JobSearch.Query.Resolution

/-!
# Stores

An open dataset answers statements. Its tables are given, or read from an image, whose tables
may be of another make: columns may be missing, compare in ways of their own or hold what other
columns would not. An image may also begin like a database and yet be unreadable, which shows
only when it is asked something. A store is asked through an engine with limits, or without limits,
which leaves it to the caller to keep them.

## Main definitions

* `Store`, `Store.run` — the answer to a statement.
* `Engine.excess?` — why an engine refuses a statement.
* `Store.hasColumn` — whether a table has a column.
* `Store.hasConversion` — whether converted salaries can be shown.
-/

namespace JobSearch

open Query

/-! ### Asking an image -/

namespace ImageContents

variable (contents : ImageContents)

/-- The table or view of a name. -/
def table? (name : String) : Option StoredTable := contents.tables.find? fun t => t.name == name

/-- What the columns of the tables prefer. -/
def kinds : ColumnKinds := fun table column =>
  (contents.table? table).bind fun t => Ordered.find? column t.kinds

/-- The tables with the rows that are sound. -/
def database : Database :=
  ⟨contents.tables.map fun t => ⟨t.name, t.columns, (t.rows.getD []).map withNumbers⟩⟩

/-- Whether the rows of a table cannot be told. -/
def isUnsound (table : String) : Bool := (contents.table? table).any (·.rows.isNone)

/-- A value of a result that is stored as text and is none, with the name of its column. -/
def undecodable? (r : Result Cell) : Option (String × List UInt8) :=
  r.rows.findSome? fun row => (r.columns.zip row).findSome? fun
    | (name, .bytes b true) => some (name, b)
    | _ => none

/-- Why a table cannot be asked, if it cannot. -/
def tableFault? (table : String) : Option RunFault :=
  match contents.table? table with
  | none => some (.missingTable table)
  | some t => t.absent.map fun reason => .unreadable (.badView reason)

/-- The result of a statement over an image. -/
def run (s : Statement) : Except RunFault (Result Cell) :=
  match s.tables.findSome? contents.tableFault? with
  | some f => .error f
  | none =>
    match s.unresolved? contents.kinds with
    | some column => .error (.missingColumn column)
    | none =>
      match (s.agreeing contents.kinds).run contents.database with
      | .error f => .error f
      | .ok r =>
        if s.tables.any contents.isUnsound then .error (.unreadable .malformed)
        else
          match undecodable? r with
          | some (name, bytes) => .error (.undecodable name bytes)
          | none => .ok r

end ImageContents

/-! ### Stores -/

/-- An open dataset. -/
inductive Store where
  | readable (db : Database)
  | image (contents : ImageContents)
  | unreadable (why : ImageFault)
  /-- A store that is asked through an engine with limits. -/
  | limited (engine : Engine) (store : Store)

/-- A fault of a statement that was asked in some words with some values. -/
def Fault.ofRun (text : String) (params : List Cell) : RunFault → Fault
  | .missingTable table => .missingTable table text params
  | .missingColumn column => .missingColumn column.text text params
  | .overflow => .overflow
  | .unreadable why => .unreadableImage why text params
  | .undecodable name bytes => .undecodable name bytes text params

/-- Whether a fault lies in the tables of a statement, which are looked up before they are
joined. -/
def Fault.liesInTables : Fault → Bool
  | missingTable .. => true
  | unreadableImage .. => true
  | _ => false

/-- Why an engine refuses a statement with a number of values, given the answer without limits. What
shows in the written statement comes first, the tables are looked up before they are joined, and
rows are looked for in the tables that the statement names. -/
def Query.Engine.excess? (e : Engine) (db : Database) (s : Statement) (values : Nat) :
    Except Fault (Result Cell) → Option Excess
  | .error f =>
    e.excessWritten? s values <|> if f.liesInTables then none else e.excessJoined? s
  | .ok _ =>
    e.excessWritten? s values <|> e.excessJoined? s <|> e.excessCompared? (db.only s.tables) s

/-- The tables that list the other tables. -/
def listTables : List String :=
  ["sqlite_master", "sqlite_schema", "sqlite_temp_master", "sqlite_temp_schema"]

/-- The columns of a table that lists the other tables. -/
def listColumns : List String := ["type", "name", "tbl_name", "rootpage", "sql"]

namespace Store

/-- The tables of a store with the rows that are sound. -/
def database : Store → Database
  | unreadable _ => ⟨[]⟩
  | readable db => db
  | image contents => contents.database
  | limited _ store => store.database

/-- The answer to a statement that was asked in some words with some values. -/
def runAs (store : Store) (text : String) (params : List Cell) (s : Statement) :
    Except Fault (Result Cell) :=
  match store with
  | unreadable why => .error (.unreadableImage why text params)
  | readable db => (s.run db).mapError (.ofRun text params)
  | image contents => (contents.run s).mapError (.ofRun text params)
  | limited engine store =>
    let answer := store.runAs text params s
    match engine.excess? store.database s params.length answer with
    | some why => .error (.beyondLimits why text params)
    | none => answer

/-- The answer to a statement. -/
def run (store : Store) (s : Statement) : Except Fault (Result Cell) :=
  store.runAs s.text s.params s

/-- The columns of a table, without regard to the case of `A` to `Z` in its name and to what
stands behind a zero character. -/
def columnsOf (store : Store) (table : String) : Except Fault (List String) :=
  let name := Text.lowerAscii (String.ofList (table.toList.takeWhile (·.toNat ≠ 0)))
  match store with
  | limited _ store => store.columnsOf table
  | unreadable why => .error (.unreadableSchema why)
  | readable db => .ok (if listTables.contains name then listColumns else db.columnsOf name)
  | image contents =>
    if listTables.contains name then .ok listColumns
    else
      match contents.table? name with
      | none => .ok []
      | some t =>
        match t.absent with
        | some reason => .error (.unreadableSchema (.badView reason))
        | none => .ok t.columns

/-- Whether a table has a column of exactly this name. -/
def hasColumn (store : Store) (table column : String) : Except Fault Bool :=
  (store.columnsOf table).map (·.contains column)

/-- Whether the dataset has both columns of converted salaries. -/
def hasConversion (store : Store) : Except Fault Bool := do
  if ← store.hasColumn postingTable "min_salary_mdl" then
    store.hasColumn postingTable "max_salary_mdl"
  else return false

/-- The number of jobs. -/
def jobCount (store : Store) : Except Fault Int := do
  let r ← store.runAs ("SELECT COUNT(*) FROM " ++ postingTable) [] (Statement.count .trivial)
  match r.scalar? (.int 0) with
  | some (.int n) => return n
  | _ => return 0

end Store

end JobSearch
