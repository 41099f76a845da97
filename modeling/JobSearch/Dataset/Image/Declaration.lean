import JobSearch.Dataset.Image.Expression

/-!
# Declarations of tables

An image keeps the words by which each of its tables was declared. They give the names of the
columns, how each stores numbers and compares text, what a row holds that was stored before a
column was added, and which column, if any, is the number of the row. A table can also keep its
rows in the order of a key instead of numbering them.

## Main definitions

* `DeclaredColumn`, `TableDeclaration` — a declared table.
* `Reading.table` — a declared table in words.
-/

namespace JobSearch.Image

/-- A declared column. -/
structure DeclaredColumn where
  name : String
  type : String
  collation : Option Collation
  /-- What a row holds that ends before the column. -/
  default : Cell
  /-- The rule by which the column is computed. -/
  rule : Option Expression
  /-- Whether rows keep a cell for the column. -/
  isKept : Bool

/-- How a column stores numbers. -/
def DeclaredColumn.kind (c : DeclaredColumn) : ColumnKind := kindOfType (Text.lowerAscii c.type)

/-- Whether a column is of a type. -/
def DeclaredColumn.isOf (type : String) (c : DeclaredColumn) : Bool :=
  Text.lowerAscii c.type == type

/-- Whether a column goes by a name, without regard to the case of `A` to `Z`. -/
def DeclaredColumn.goesBy (name : String) (c : DeclaredColumn) : Bool :=
  Text.lowerAscii c.name == Text.lowerAscii name

/-- A declared table. -/
structure TableDeclaration where
  name : String
  columns : List DeclaredColumn
  /-- The columns of the key, if one is declared. -/
  key : Option (List String)
  /-- The column that is the number of the row. -/
  numberColumn : Option String
  /-- Whether the numbers of rows are counted up. -/
  isCounted : Bool
  /-- Whether the rows are numbered. -/
  isNumbered : Bool
  /-- The number of indexes that the table needs for its keys. -/
  indexes : Nat

namespace TableDeclaration

/-- A table without columns. -/
def begun (name : String) : TableDeclaration := ⟨name, [], none, none, false, true, 0⟩

/-- The types of a table with strict types; columns of the last one store everything as it
is. -/
def strictTypes : List String := ["int", "integer", "real", "text", "blob", "any"]

/-- The table with strict types. -/
def strict (t : TableDeclaration) : Reading TableDeclaration := do
  let columns ← t.columns.mapM fun c => do
    if c.type.isEmpty then throw (.noType t.name c.name)
    else if !strictTypes.any c.isOf then throw (.unknownType t.name c.name c.type)
    else return if c.isOf "any" then { c with type := "" } else c
  return { t with columns }

/-- The table with its last column changed. -/
def mapLast (f : DeclaredColumn → DeclaredColumn) (t : TableDeclaration) : TableDeclaration :=
  { t with columns := t.columns.dropLast ++ t.columns.getLast?.toList.map f }

/-- The type that makes a key the number of the row. -/
def numberType : String := "integer"

/-- Whether a key is the number of the row: it is one column of integers, and not declared to
descend. -/
def isNumber (names : List String) (descends : Bool) (t : TableDeclaration) : Bool :=
  match names with
  | [name] => t.columns.any (fun c => c.goesBy name && c.isOf numberType) && !descends
  | _ => false

/-- The table with a key; any other key than the number of the row needs an index. -/
def withKey (names : List String) (descends isCounted : Bool) (t : TableDeclaration) :
    Reading TableDeclaration := do
  if t.key.isSome then throw (.severalKeys t.name)
  if t.isNumber names descends then
    return { t with key := some names, numberColumn := names.head?, isCounted }
  if isCounted then throw .uncounted
  return { t with key := some names, indexes := t.indexes + 1 }

/-- The table with columns of which no two rows agree. -/
def withUnique (t : TableDeclaration) : TableDeclaration := { t with indexes := t.indexes + 1 }

end TableDeclaration

namespace Reading

/-! ### Columns -/

/-- The ways to settle a conflict. -/
def settlements : List String := ["rollback", "abort", "fail", "ignore", "replace"]

/-- How a conflict is settled, if it is said. -/
def conflict : Reading Unit := do
  if ← takes (·.isWord "on") then
    needs (·.isWord "conflict")
    needs fun t => settlements.any t.isWord

/-- A direction, if it is said; the answer says whether it is the descending one. -/
def descends : Reading Bool := do
  if ← takes (·.isWord "desc") then return true
  let _ ← takes (·.isWord "asc")
  return false

/-- What rows are ordered by: expressions between commas, each with what is said about its order;
`fuel` bounds their number. -/
def terms : (fuel : Nat) → Reading (List Expression)
  | 0 => refuse
  | fuel + 1 => do
    let e ← expression
    if ← takes (·.isWord "collate") then let _ ← name
    let _ ← descends
    if ← takes (·.isSign ",") then return e :: (← terms fuel) else return [e]

/-- What happens to rows whose partner is changed. -/
def consequence : Reading Unit := do
  if ← takes (·.isWord "set") then needs fun t => t.isWord "null" || t.isWord "default"
  else if ← takes (·.isWord "no") then needs (·.isWord "action")
  else needs fun t => t.isWord "cascade" || t.isWord "restrict"

/-- The additions to a reference; `fuel` bounds their number. -/
def referenceEnd : (fuel : Nat) → Reading Unit
  | 0 => return
  | fuel + 1 => do
    if ← takes (·.isWord "on") then
      needs fun t => t.isWord "delete" || t.isWord "update" || t.isWord "insert"
      consequence
      referenceEnd fuel
    else if ← takes (·.isWord "match") then
      let _ ← name
      referenceEnd fuel

/-- When a reference is checked, behind the word that begins it. -/
def deferral : Reading Unit := do
  if ← takes (·.isWord "initially") then
    needs fun t => t.isWord "deferred" || t.isWord "immediate"

/-- What a column refers to. -/
def reference : Reading Unit := do
  let _ ← name
  if ← takes (·.isSign "(") then
    let _ ← terms (← get).length
    needs (·.isSign ")")
  referenceEnd (← get).length

/-- The way in which text compares that goes by a name. -/
def collationOf (name : String) : Option Collation :=
  match Text.lowerAscii name with
  | "nocase" => some .caseless
  | "rtrim" => some .unpadded
  | _ => none

/-- The rule by which a column is computed, behind the word that begins it. -/
def computed (t : TableDeclaration) : Reading TableDeclaration := do
  needs (·.isSign "(")
  let e ← expression
  needs (·.isSign ")")
  let isKept ← takes (·.isWord "stored")
  let isVirtual ← takes fun t => !isKept && t.isWord "virtual"
  if ← sees fun t => !isKept && !isVirtual && t.name?.isSome then
    let _ ← name
    if ← sees fun t => t.name?.isSome then refuse
    throw (.unknownRule ((t.columns.getLast?.map (·.name)).getD ""))
  return t.mapLast fun c => { c with rule := some e, isKept }

/-- The words that begin an addition to a column. -/
def columnRuleWords : List String :=
  ["constraint", "default", "null", "not", "deferrable", "primary", "unique", "check",
    "references", "collate", "generated", "as"]

/-- Whether a token can stand behind an addition to a column. -/
def endsColumnRule (t : Token) : Bool :=
  t.isSign "," || t.isSign ")" || columnRuleWords.any t.isWord

/-- One addition to the last column; the answer says whether there was one. -/
def columnRule (t : TableDeclaration) : Reading (TableDeclaration × Bool) := do
  if ← takes (·.isWord "constraint") then
    let _ ← name
    return (t, true)
  else if ← takes (·.isWord "default") then
    let e ← if ← takes (·.isSign "(") then
        let e ← expression
        needs (·.isSign ")")
        if !e.names.isEmpty then
          throw (.unsteady ((t.columns.getLast?.map (·.name)).getD ""))
        pure e
      else default
    return (t.mapLast fun c => { c with default := (e.value [] []).stored c.kind }, true)
  else if ← takes (·.isWord "null") then
    conflict
    return (t, true)
  else if ← takes (·.isWord "not") then
    if ← takes (·.isWord "deferrable") then deferral
    else
      needs (·.isWord "null")
      conflict
    return (t, true)
  else if ← takes (·.isWord "deferrable") then
    deferral
    return (t, true)
  else if ← takes (·.isWord "primary") then
    needs (·.isWord "key")
    let isDescending ← descends
    conflict
    let isCounted ← takes (·.isWord "autoincrement")
    if !(← sees endsColumnRule) then refuse
    return (← t.withKey (t.columns.getLast?.toList.map (·.name)) isDescending isCounted, true)
  else if ← takes (·.isWord "unique") then
    conflict
    return (t.withUnique, true)
  else if ← takes (·.isWord "check") then
    needs (·.isSign "(")
    let _ ← group
    return (t, true)
  else if ← takes (·.isWord "references") then
    reference
    return (t, true)
  else if ← takes (·.isWord "collate") then
    let collation := collationOf (← name)
    return (t.mapLast fun c => { c with collation }, true)
  else if ← takes (·.isWord "generated") then
    needsWords ["always", "as"]
    return (← computed t, true)
  else if ← takes (·.isWord "as") then return (← computed t, true)
  else return (t, false)

/-- The additions to the last column; `fuel` bounds their number. -/
def columnRules : (fuel : Nat) → TableDeclaration → Reading TableDeclaration
  | 0, t => return t
  | fuel + 1, t => do
    let (t, isOne) ← columnRule t
    if isOne then columnRules fuel t else return t

/-- The words of a type; `fuel` bounds their number. -/
def typeWords : (fuel : Nat) → Reading (List String)
  | 0 => return []
  | fuel + 1 => do
    if ← sees (fun t => t.name?.isSome) then
      let t ← next
      return t.written :: (← typeWords fuel)
    else return []

/-- A number that may have a sign. -/
def size : Reading Unit := do
  let _ ← takes fun t => t.isSign "+" || t.isSign "-"
  needs fun t => match t.kind with
    | .number _ => true
    | _ => false

/-- A type, without the words that announce a rule. -/
def type : Reading String := do
  let words ← typeWords (← get).length
  let words :=
    if (words.reverse.take 2).map Text.lowerAscii = ["always", "generated"] then
      words.take (words.length - 2)
    else words
  let text := " ".intercalate words
  if ← takes fun t => !words.isEmpty && t.isSign "(" then
    size
    if ← takes (·.isSign ",") then size
    needs (·.isSign ")")
    return text ++ "()"
  else return text

/-- A column and what is said about it. -/
def column (t : TableDeclaration) : Reading TableDeclaration := do
  let columnName ← name
  let type ← type
  if t.columns.any (·.goesBy columnName) then throw (.repeatedColumn columnName)
  let c : DeclaredColumn := ⟨columnName, type, none, .null, none, true⟩
  columnRules (← get).length { t with columns := t.columns ++ [c] }

/-! ### Rules about the table -/

/-- The words that begin a rule about the table. -/
def ruleWords : List String := ["constraint", "primary", "unique", "check", "foreign"]

/-- The columns among some expressions, which must exist. -/
def knownColumns (columns : List DeclaredColumn) (es : List Expression) : Reading (List String) :=
  (es.flatMap (·.names)).mapM fun s =>
    if columns.any (·.goesBy s) then return s else throw (.noColumn s)

/-- The end of a rule about keys, behind which there must be another rule or the end of the
list. -/
def ruleEnd : Reading Unit := do
  conflict
  if !(← sees fun t => t.isSign "," || t.isSign ")" || ruleWords.any t.isWord) then refuse

/-- A rule about the table. -/
def tableRule (t : TableDeclaration) : Reading TableDeclaration := do
  if ← takes (·.isWord "constraint") then
    let _ ← name
    return t
  else if ← takes (·.isWord "primary") then
    needs (·.isWord "key")
    needs (·.isSign "(")
    let es ← terms (← get).length
    let isCounted ← takes (·.isWord "autoincrement")
    needs (·.isSign ")")
    ruleEnd
    t.withKey (← knownColumns t.columns es) false isCounted
  else if ← takes (·.isWord "foreign") then
    needs (·.isWord "key")
    needs (·.isSign "(")
    let _ ← terms (← get).length
    needs (·.isSign ")")
    needs (·.isWord "references")
    reference
    let _ ← takes (·.isWord "not")
    if ← takes (·.isWord "deferrable") then deferral
    return t
  else if ← takes (·.isWord "unique") then
    needs (·.isSign "(")
    let es ← terms (← get).length
    needs (·.isSign ")")
    ruleEnd
    let _ ← knownColumns t.columns es
    return t.withUnique
  else
    needs (·.isWord "check")
    needs (·.isSign "(")
    let _ ← group
    conflict
    return t

/-- Rules about the table, with or without commas, up to the closing parenthesis; `fuel` bounds
their number. -/
def tableRules : (fuel : Nat) → TableDeclaration → Reading TableDeclaration
  | 0, _ => refuse
  | fuel + 1, t => do
    let t ← tableRule t
    if ← takes (·.isSign ")") then return t
    else
      let _ ← takes (·.isSign ",")
      tableRules fuel t

/-- Columns between commas, then rules about the table, up to the closing parenthesis; `fuel`
bounds their number. -/
def columns : (fuel : Nat) → TableDeclaration → Reading TableDeclaration
  | 0, _ => refuse
  | fuel + 1, t => do
    let t ← column t
    if ← takes (·.isSign ")") then return t
    else
      needs (·.isSign ",")
      if ← sees (fun t => ruleWords.any t.isWord) then tableRules fuel t else columns fuel t

/-! ### The whole declaration -/

/-- Whether the declaration ends. -/
def ends : Reading Bool := return (← get).head?.all (·.isSign ";")

/-- What is said behind the list of columns; `fuel` bounds the number of words. -/
def options : (fuel : Nat) → TableDeclaration → Reading TableDeclaration
  | 0, t => return t
  | fuel + 1, t => do
    if ← ends then return t
    let _ ← takes (·.isSign ",")
    let isWithout ← takes (·.isWord "without")
    let written := ((← get).head?.map (·.written)).getD ""
    let option ← name
    if (← get).head?.any fun t => !t.isSign ";" && !t.isSign "," then refuse
    let t ← match isWithout, Text.lowerAscii option with
      | true, "rowid" => pure { t with isNumbered := false }
      | false, "strict" => t.strict
      | _, _ => throw (.unknownOption written)
    options fuel t

/-- The name of what is declared, perhaps behind that of its database. -/
def declaredName : Reading String := do
  if ← takes (·.isWord "if") then needsWords ["not", "exists"]
  let first ← name
  if ← takes (·.isSign ".") then name else return first

/-- A table behind the word that says so; `isTaken` tells the names that are in use, and whether
by a view. -/
def table (isTaken : String → Option Bool) : Reading TableDeclaration := do
  let tableName ← declaredName
  match isTaken tableName with
  | some isView => throw (.repeatedTable tableName isView)
  | none => pure ()
  needs (·.isSign "(")
  let t ← columns (← get).length (.begun tableName)
  let t ← options (← get).length t
  let _ ← knownColumns t.columns (t.columns.filterMap (·.rule))
  if !t.isNumbered && t.isCounted then throw .unnumbered
  if !t.isNumbered && t.key.isNone then throw (.noKey tableName)
  return { t with numberColumn := if t.isNumbered then t.numberColumn else none }

end Reading

end JobSearch.Image
