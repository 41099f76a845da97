import JobSearch.Dataset.Image.Declaration

/-!
# Declarations of views

A view shows the rows of a table that satisfy a condition, with all of its columns or with some
expressions over them. A view of no table shows one row. What a view could say beyond that (several
tables, groups, an order, a bound) is not read.

## Main definitions

* `ViewDeclaration` — a declared view; `ViewBase` — the table that it shows.
* `Reading.view` — a declared view in words.
-/

namespace JobSearch.Image

/-- What a view shows. -/
inductive ViewItem where
  /-- All columns, or those of the table with this name. -/
  | all (table : Option String)
  | named (e : Expression) (name : String)

/-- The table that a view shows. -/
structure ViewBase where
  table : String
  /-- The name by which the view knows the table, if not its own. -/
  called : Option String

/-- A declared view. -/
structure ViewDeclaration where
  name : String
  /-- The names of the columns, if they are given first. -/
  columns : Option (List String)
  items : List ViewItem
  /-- The table that is shown, if there is one. -/
  base : Option ViewBase
  condition : Option Expression

namespace Reading

/-- The name of an expression that was given none. -/
def nameOf (e : Expression) (words : List Token) : String :=
  match e with
  | .column name => name
  | _ => String.join (words.map (·.written))

/-- All columns, perhaps of a table by its name, if the next tokens stand for that. -/
def allColumns : Reading (Option ViewItem) := do
  match ← get with
  | a :: b :: c :: rest =>
    match a.name? with
    | some table =>
      if b.isSign "." && c.isSign "*" then
        set rest
        return some (.all (some table))
      else return none
    | none => if ← takes (·.isSign "*") then return some (.all none) else return none
  | _ => if ← takes (·.isSign "*") then return some (.all none) else return none

/-- What a view shows; `fuel` bounds the number of columns. -/
def viewItems : (fuel : Nat) → Reading (List ViewItem)
  | 0 => refuse
  | fuel + 1 => do
    let item ← match ← allColumns with
      | some item => pure item
      | none =>
        let before ← get
        let e ← expression
        let words := before.take (before.length - (← get).length)
        if ← takes (·.isWord "as") then pure (.named e (← name))
        else if ← sees (fun t => t.name?.isSome) then pure (.named e (← name))
        else pure (.named e (nameOf e words))
    if ← takes (·.isSign ",") then return item :: (← viewItems fuel)
    else return [item]

/-- The table that a view shows, behind the word that announces it. -/
def viewBase : Reading ViewBase := do
  let table ← declaredName
  if ← takes (·.isWord "as") then return ⟨table, some (← name)⟩
  else if ← sees (fun t => t.name?.isSome) then return ⟨table, some (← name)⟩
  else return ⟨table, none⟩

/-- The names of some columns up to a closing parenthesis; `fuel` bounds their number. -/
def columnNames : (fuel : Nat) → Reading (List String)
  | 0 => refuse
  | fuel + 1 => do
    let first ← name
    if ← takes (·.isSign ",") then return first :: (← columnNames fuel)
    else
      needs (·.isSign ")")
      return [first]

/-- A view behind the word that says so. -/
def view (isTaken : String → Option Bool) : Reading ViewDeclaration := do
  let viewName ← declaredName
  match isTaken viewName with
  | some isView => throw (.repeatedTable viewName isView)
  | none => pure ()
  let columns ← if ← takes (·.isSign "(") then some <$> columnNames (← get).length
    else pure none
  needsWords ["as", "select"]
  let _ ← takes (·.isWord "all")
  let items ← viewItems (← get).length
  let base ← if ← takes (·.isWord "from") then some <$> viewBase else pure none
  let condition ← if ← takes (·.isWord "where") then some <$> expression else pure none
  return ⟨viewName, columns, items, base, condition⟩

end Reading

end JobSearch.Image
