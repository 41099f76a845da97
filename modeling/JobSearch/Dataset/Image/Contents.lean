import JobSearch.Dataset.Image.Pages
import JobSearch.Dataset.Image.Record
import JobSearch.Dataset.Image.View
import JobSearch.Distinct

/-!
# The contents of an image

The first tree of an image lists its tables with their declarations and the pages on which they
begin. All declarations must make sense before anything can be asked; the rows of a table need
only be sound when the table is asked for.

## Main definitions

* `StoredTable` — a table of an image.
* `Contents.read` — the tables of an image.
-/

namespace JobSearch

/-- A table or a view of an image. Its name is in lower case, as statements have it. -/
structure StoredTable where
  name : String
  /-- The columns as declared, those that are computed left out. -/
  columns : List String
  /-- All columns as declared. -/
  shown : List String
  /-- The columns that statements can name, in lower case, with what they prefer. -/
  kinds : List (String × ColumnKind)
  /-- What a view shows that does not exist. -/
  absent : Option DeclarationFault
  /-- The rows, if they are sound. -/
  rows : Option (List Row)

/-- The tables and views of an image. -/
structure ImageContents where
  tables : List StoredTable

namespace Image

/-! ### The list of tables -/

/-- What a declaration declares. -/
inductive Definition where
  | table (t : TableDeclaration) (root : Nat)
  | view (v : ViewDeclaration)
  /-- Something that is not asked by itself. -/
  | other (kind name owner : String)

/-- The kind, the name and the table that the list of tables must give for a definition. -/
def Definition.entry : Definition → String × String × String
  | table t _ => ("table", t.name, t.name)
  | view v => ("view", v.name, v.name)
  | other kind name owner => (kind, name, owner)

/-- Whether a name is that of a table or a view, and of which. -/
def takenBy (known : List Definition) (name : String) : Option Bool :=
  known.findSome? fun
    | .table t _ => if Text.lowerAscii t.name = Text.lowerAscii name then some false else none
    | .view v => if Text.lowerAscii v.name = Text.lowerAscii name then some true else none
    | .other .. => none

/-- Whether an index has the name of one that a table needs for its keys. -/
def Definition.owns (index : String) : Definition → Bool
  | table t _ => (List.range t.indexes).any fun i =>
    Text.lowerAscii index =
      "sqlite_autoindex_" ++ Text.lowerAscii t.name ++ "_" ++ Number.natText (i + 1)
  | _ => false

/-- The columns of a table by its name. -/
def columnsOf? (known : List Definition) (name : String) : Option (List DeclaredColumn) :=
  known.findSome? fun
    | .table t _ => if Text.lowerAscii t.name = Text.lowerAscii name then some t.columns else none
    | _ => none

namespace Reading

/-- An index behind the word that says so. -/
def index (known : List Definition) : Reading Definition := do
  let indexName ← declaredName
  needs (·.isWord "on")
  let tableName ← name
  needs (·.isSign "(")
  let es ← terms (← get).length
  needs (·.isSign ")")
  let condition ← if ← takes (·.isWord "where") then some <$> expression else pure none
  if !(← ends) then refuse
  match columnsOf? known tableName with
  | none => throw (.noTable tableName)
  | some columns =>
    let _ ← knownColumns columns (es ++ condition.toList)
    return .other "index" indexName tableName

/-- A definition that begins on a page, given those before it. -/
def definition (known : List Definition) (root : Nat) : Reading (Option Definition) := do
  needs (·.isWord "create")
  let isBrief ← takes fun t => t.isWord "temp" || t.isWord "temporary"
  let found ← if ← takes (·.isWord "table") then
      pure (some (Definition.table (← table (takenBy known)) root))
    else if ← takes (·.isWord "view") then
      pure (some (.view (← view (takenBy known))))
    else if ← takes (·.isWord "trigger") then return none
    else if isBrief then refuse
    else if ← takes (·.isWord "virtual") then return none
    else
      let _ ← takes (·.isWord "unique")
      needs (·.isWord "index")
      pure (some (← index known))
  if ← ends then return found else refuse

end Reading

/-- An integer that can be the number of a page. -/
def pageNumber? (c : Cell) : Option Nat :=
  match c with
  | .int n => if 0 ≤ n ∧ n < (Number.twoTo 32 : Int) then some n.toNat else none
  | _ => none

/-- The definition in a row of the list of tables, given those before it. -/
def definitionOf (pages : Nat) (known : List Definition) (row : List Cell) :
    Except ImageFault (Option Definition) :=
  let cell (i : Nat) : Cell := (row[i]?).getD .null
  let name := ((cell 1).asText?).getD "?"
  let words := ((cell 4).asText?).getD ""
  if (cell 3).isNull then .error (.badDeclaration name none)
  else if (Text.lowerAscii words).toList.take 2 = ['c', 'r'] then
    match pageNumber? (cell 3) with
    | none => .error (.badDeclaration name (some .rootOutside))
    | some root =>
      if pages < root then .error (.badDeclaration name (some .rootOutside))
      else
        match (Reading.definition known root).run' (tokensOf (String.ofList (words.toList.takeWhile (·.toNat ≠ 0)))) with
        | .error f => .error (.badDeclaration name (some f))
        | .ok none => .ok none
        | .ok (some d) =>
          let same (i : Nat) (s : String) : Bool :=
            (cell i).asText?.map Text.lowerAscii == some (Text.lowerAscii s)
          if same 0 d.entry.1 && same 1 d.entry.2.1 && same 2 d.entry.2.2 then .ok (some d)
          else .error (.badDeclaration name none)
  else if (cell 1).isNull ∨ words ≠ "" then .error (.badDeclaration name none)
  else if known.any (·.owns name) then .ok none
  else .error (.badDeclaration name (some .orphan))

/-- The definitions in the rows of the list of tables; the first fault decides. -/
def definitionsOf (pages : Nat) (rows : List (List Cell)) :
    Except ImageFault (List Definition) :=
  rows.foldlM (fun known row =>
    (definitionOf pages known row).map fun d => known ++ d.toList) []

/-! ### Tables -/

/-- The columns of which a row keeps a cell, in the order of the cells: the columns of a key
come first if the rows are in its order. -/
def keptColumns (t : TableDeclaration) : List DeclaredColumn :=
  let kept := t.columns.filter (·.isKept)
  if t.isNumbered then kept
  else
    let inKey := (distinct ((t.key.getD []).map Text.lowerAscii)).filterMap fun name =>
      kept.find? (·.goesBy name)
    inKey ++ kept.filter fun c => !inKey.any (·.goesBy c.name)

/-- The way in which text compares that is stored in an encoding. -/
def Encoding.collation? : Encoding → Option Collation
  | bytes => none
  | littleUnits => some (.paired true)
  | bigUnits => some (.paired false)

/-- A cell as a statement reads it from a column. -/
def presented (encoding : Encoding) (c : DeclaredColumn) (cell : Cell) : Cell :=
  (if c.kind = .real then cell.realFromInt else cell).collated
    (c.collation.or encoding.collation?)

/-- The columns that statements can name. -/
def kindsOf (t : TableDeclaration) : List (String × ColumnKind) :=
  t.columns.map (fun c => (Text.lowerAscii c.name, c.kind)) ++
    if t.isNumbered then [(rowNumber, .integer)] else []

/-- A row with its computed columns, of which some may be computed from others; `fuel` bounds
the length of such a chain. -/
def compute (encoding : Encoding) (t : TableDeclaration) : (fuel : Nat) → Row → Row
  | 0, row => row
  | fuel + 1, row =>
    compute encoding t fuel (row.map fun (name, cell) =>
      match t.columns.find? (fun c => !c.isKept && c.goesBy name) with
      | some c =>
        match c.rule with
        | some e => (name, presented encoding c ((e.value (kindsOf t) row).stored c.kind))
        | none => (name, cell)
      | none => (name, cell))

/-- The cells of a row by column; a column behind the last stored one holds its default. -/
def rowOf (encoding : Encoding) (t : TableDeclaration) (number : Int) (cells : List Cell) : Row :=
  let kept := (keptColumns t).zipIdx
  let cellOf (c : DeclaredColumn) : Cell :=
    if t.numberColumn.any c.goesBy then .int number
    else
      match kept.find? fun p => p.1.goesBy c.name with
      | some (_, i) => presented encoding c ((cells[i]?).getD c.default)
      | none => .null
  let row := t.columns.map fun c => (Text.lowerAscii c.name, cellOf c)
  compute encoding t (t.columns.filter fun c => !c.isKept).length row ++
    (if t.isNumbered then [(rowNumber, .int number)] else [])

/-- The table of a declaration. -/
def storedTable (l : Layout) (bytes : ByteArray) (t : TableDeclaration) (root : Nat) :
    StoredTable :=
  let kind := if t.isNumbered then TreeKind.numbered else .keyed
  let rows := do
    let entries ← l.entries? bytes kind root
    entries.mapM fun e => do
      return rowOf l.encoding t e.number (← readRecord? l.encoding e.payload)
  { name := Text.lowerAscii t.name
    columns := (t.columns.filter (·.rule.isNone)).map (·.name)
    shown := t.columns.map (·.name)
    kinds := kindsOf t
    absent := none
    rows }

/-! ### Views -/

/-- The columns of a view with their names, over a table. -/
def viewColumns (v : ViewDeclaration) (base : StoredTable) : List (String × Expression) :=
  let found := v.items.flatMap fun
    | .all _ => base.shown.map fun name => (name, Expression.column name)
    | .named e name => [(name, e)]
  match v.columns with
  | none => found
  | some names => names.zip (found.map (·.2))

/-- The first table whose columns a view shows all of and that it does not show itself. -/
def absentTable (v : ViewDeclaration) : Option DeclarationFault :=
  let known := v.base.map fun b => Text.lowerAscii (b.called.getD b.table)
  v.items.findSome? fun
    | .all (some table) =>
      if known = some (Text.lowerAscii table) then none else some (.notShown table)
    | .all none => if known.isNone then some .noTables else none
    | .named _ _ => none

/-- The first column that a view names and its table does not have. -/
def absentColumn (v : ViewDeclaration) (base : StoredTable) : Option DeclarationFault :=
  let named := v.items.flatMap fun
    | .all _ => []
    | .named e _ => e.names
  let absent := (named ++ v.condition.toList.flatMap (·.names)).find? fun name =>
    (Ordered.find? (Text.lowerAscii name) base.kinds).isNone
  absent.map .noColumn

/-- The view of a declaration over a table. -/
def viewOf (v : ViewDeclaration) (base : StoredTable) : StoredTable :=
  let columns := viewColumns v base
  { name := Text.lowerAscii v.name
    columns := columns.map (·.1)
    shown := columns.map (·.1)
    kinds := columns.map fun (name, e) =>
      (Text.lowerAscii name, (e.kind? base.kinds).getD .untyped)
    absent := (base.absent.or (absentTable v)).or (absentColumn v base)
    rows := base.rows.map fun rows =>
      (rows.filter fun row =>
        v.condition.all fun e => (truthOf (e.value base.kinds row)).holds).map fun row =>
          columns.map (fun (name, e) => (Text.lowerAscii name, e.value base.kinds row)) ++
            [(rowNumber, row.cell rowNumber)] }

/-- What a view of no table is over: one row without columns. -/
def singleRow : StoredTable := ⟨"", [], [], [], none, some [[]]⟩

/-- The view of a declaration over some tables. -/
def viewTable (v : ViewDeclaration) (tables : List StoredTable) : StoredTable :=
  match v.base with
  | none => viewOf v singleRow
  | some b =>
    match tables.find? fun t => t.name = Text.lowerAscii b.table with
    | some base => viewOf v base
    | none => ⟨Text.lowerAscii v.name, [], [], [], some (.noTable b.table), some []⟩

/-- The tables and views of definitions. -/
def tablesOf (l : Layout) (bytes : ByteArray) (ds : List Definition) : List StoredTable :=
  let tables := ds.filterMap fun
    | .table t root => some (storedTable l bytes t root)
    | _ => none
  let views := ds.filterMap fun
    | .view v => some v
    | _ => none
  views.foldl (fun found v => found ++ [viewTable v found]) tables

end Image

open Image

/-- The contents of an image, or why it cannot be asked anything; what is missing of the last
page is zero. -/
def ImageContents.read (bytes : ByteArray) : Except ImageFault ImageContents := do
  let l ← Layout.read bytes
  let bytes := bytes ++ ⟨Array.replicate (l.pages * l.pageSize - bytes.size) 0⟩
  let entries ← match l.entries? bytes .numbered 1 with
    | some entries => .ok entries
    | none => .error .malformed
  let rows ← match entries.mapM fun e => readRecord? l.encoding e.payload with
    | some rows => .ok rows
    | none => .error .malformed
  return ⟨tablesOf l bytes (← definitionsOf l.pages rows)⟩

end JobSearch
