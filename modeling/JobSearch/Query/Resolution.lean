import JobSearch.Query.Statement

/-!
# What a statement refers to

Before a statement is run its tables and columns are looked up: first all tables, then the
columns in a fixed order. A value is compared with a column as the column would store it, and
two columns of which one is of numbers are compared as numbers.

## Main definitions

* `Statement.tables`, `Statement.references` — what a statement refers to.
* `Statement.unresolved?` — the first column that does not exist.
* `Statement.agreeing` — a statement whose values and columns are of one kind where compared.
-/

namespace JobSearch.Query

/-- What is known of columns: what the column of a table prefers, if there is one. -/
abbrev ColumnKinds := String → String → Option ColumnKind

/-! ### Tables and columns -/

/-- The table that a qualifier stands for. -/
def Source.tableOf? (s : Source) (qualifier : String) : Option String :=
  if s.qualifier = qualifier then some s.table
  else (s.joins.find? fun j => j.qualifier = qualifier).map (·.table)

/-- The columns by which the tables of a source are joined. -/
def Source.joinColumns (s : Source) : List Column := s.joins.flatMap fun j => [j.first, j.second]

/-- The columns that an expression shows. -/
def Expression.columns : Expression → List Column
  | column c => [c]
  | orElse c _ => [c]
  | bucket c _ _ => [c]
  | countRows => []
  | countDistinct c => [c]
  | roundedMean c _ => [c]

/-- A column and the source in which its qualifier is looked up. -/
abbrev Reference := Source × Column

/-- The references of an inner statement in the order in which they are looked up. -/
def Carriers.references (c : Carriers) : List Reference :=
  ([c.owner, c.label] ++ c.source.joinColumns).map (c.source, ·)

namespace Condition

/-- The references of a condition in the order in which they are looked up. -/
def references (source : Source) : Condition Carriers → List Reference
  | equals c _ => [(source, c)]
  | atLeast c _ => [(source, c)]
  | atMost c _ => [(source, c)]
  | present c => [(source, c)]
  | oneOf c _ => [(source, c)]
  | like c _ => [(source, c)]
  | likeLowered c _ => [(source, c)]
  | among c s => s.references ++ [(source, c)]
  | and a b => a.references source ++ b.references source
  | or a b => a.references source ++ b.references source
  | grouped a => a.references source

/-- The tables of the inner statements of a condition. -/
def tables : Condition Carriers → List String
  | among _ s => s.source.tables
  | and a b => a.tables ++ b.tables
  | or a b => a.tables ++ b.tables
  | grouped a => a.tables
  | _ => []

end Condition

namespace Statement

/-- The tables of a statement in the order in which they are looked up. -/
def tables (s : Statement) : List String :=
  s.source.tables ++ (s.condition.toList.flatMap Condition.tables)

/-- The references of a statement in the order in which they are looked up. -/
def references (s : Statement) : List Reference :=
  (s.outputs.flatMap (·.expression.columns)).map (s.source, ·) ++
    s.condition.toList.flatMap (Condition.references s.source) ++
    s.source.joinColumns.map (s.source, ·) ++
    s.order.flatMap (fun t => match t.key with
      | .column c => [(s.source, c)]
      | _ => [])

end Statement

/-- What a column prefers, if there is such a column. -/
def kindIn (kinds : ColumnKinds) (r : Reference) : Option ColumnKind :=
  (r.1.tableOf? r.2.qualifier).bind fun table => kinds table r.2.name

/-- The first column of a statement that does not exist. -/
def Statement.unresolved? (kinds : ColumnKinds) (s : Statement) : Option Column :=
  (s.references.find? fun r => (kindIn kinds r).isNone).map (·.2)

/-! ### Comparisons across kinds -/

/-- A value as it is compared with a column. -/
def comparable (kind : Option ColumnKind) (v : Cell) : Cell :=
  match kind with
  | some kind => v.comparedWith kind
  | none => v

/-- The column that holds the numbers that the text of a column is. -/
def Column.asNumber (c : Column) : Column := { c with name := c.name ++ " as a number" }

/-- A row that also has the text of its columns as numbers. -/
def withNumbers (row : Row) : Row :=
  row ++ row.map fun (name, cell) =>
    ((Column.asNumber ⟨"", name⟩).name, cell.comparedWith .integer)

/-- Two columns as they are compared, each with what it prefers. -/
def agree (a b : Column × Option ColumnKind) : Column × Column :=
  match a.2.map (·.isNumeric), b.2.map (·.isNumeric) with
  | some true, some false => (a.1, b.1.asNumber)
  | some false, some true => (a.1.asNumber, b.1)
  | _, _ => (a.1, b.1)

/-- A source whose columns are of one kind where they are joined. -/
def Source.agreeing (kinds : ColumnKinds) (s : Source) : Source :=
  { s with joins := s.joins.map fun j =>
      let (first, second) := agree (j.first, kindIn kinds (s, j.first))
        (j.second, kindIn kinds (s, j.second))
      { j with first, second } }

/-- A condition whose values and columns are of one kind where they are compared. -/
def Condition.agreeing (kinds : ColumnKinds) (source : Source) :
    Condition Carriers → Condition Carriers
  | equals c v => equals c (comparable (kindIn kinds (source, c)) v)
  | atLeast c v => atLeast c (comparable (kindIn kinds (source, c)) v)
  | atMost c v => atMost c (comparable (kindIn kinds (source, c)) v)
  | present c => present c
  | oneOf c vs => oneOf c (vs.map (comparable (kindIn kinds (source, c))))
  | like c p => like c p
  | likeLowered c p => likeLowered c p
  | among c s =>
    let (c, owner) := agree (c, kindIn kinds (source, c)) (s.owner, kindIn kinds (s.source, s.owner))
    let wanted := s.wanted.map (comparable (kindIn kinds (s.source, s.label)))
    among c { s with owner, wanted, source := s.source.agreeing kinds }
  | and a b => and (a.agreeing kinds source) (b.agreeing kinds source)
  | or a b => or (a.agreeing kinds source) (b.agreeing kinds source)
  | grouped a => grouped (a.agreeing kinds source)

/-- A statement whose values and columns are of one kind where they are compared. -/
def Statement.agreeing (kinds : ColumnKinds) (s : Statement) : Statement :=
  { s with
    source := s.source.agreeing kinds
    condition := s.condition.map (Condition.agreeing kinds s.source) }

end JobSearch.Query
