import JobSearch.Catalog.Display
import JobSearch.Distinct
import JobSearch.Fault

/-!
# Criteria

What postings are filtered by: for some fields the labels that were selected, and bounds on
salary and experience. Each update gives new criteria. A field without a selected label is not
listed, a selected label is never empty, and no label is selected twice in a field.

## Main definitions

* `Criteria` — selections and bounds.
* `Criteria.withLabel`, `withoutLabel`, `withLabels`, `withoutField`, `withBound` — updates.
* `Criteria.agrees` — equality up to the order of the fields.
-/

namespace JobSearch

/-- The labels selected in each field, the fields in the order in which they were first used. -/
abbrev Selections := List (String × List String)

/-- The bounds that are set. -/
abbrev Bounds := Bound → Option Float

/-- What postings are filtered by. -/
structure Criteria where
  selections : Selections
  bounds : Bounds

/-- Whether a value names no label. -/
def Json.isNoLabel : Json → Bool
  | .null => true
  | .text s => s.isEmpty
  | _ => false

/-- The labels that some items name, each once. -/
def labelsOfItems (items : List Json) : List String :=
  distinct ((items.filter fun v => !v.isNoLabel).map Json.label)

/-- The labels that a value names: text names itself, null names none, a list or an object
names those of its items. -/
def labelsOf : Json → Except Fault (List String)
  | .null => .ok []
  | .text s => .ok (labelsOfItems [.text s])
  | .list items => .ok (labelsOfItems items)
  | .object members => .ok (labelsOfItems (members.map fun m => .text m.1))
  | _ => .error .wrongKind

/-- Each character in lower case and, if it belongs to the upper case, behind an underscore. -/
def underscored (key : String) : String :=
  String.join (key.toList.map fun c =>
    if Text.isUpper c then "_" ++ Text.lower (String.ofList [c]) else String.ofList [c])

/-- The bound that a key names, in either spelling: `salary_min` or `salaryMin`. -/
def Bound.ofKey? (key : String) : Option Bound :=
  Bound.all.find? fun b => b.key == underscored key

/-- The bounds with the given values. -/
def Bounds.of (salaryMin salaryMax experienceMin experienceMax : Option Float) : Bounds
  | .salaryMin => salaryMin
  | .salaryMax => salaryMax
  | .experienceMin => experienceMin
  | .experienceMax => experienceMax

/-- The value given for a bound. -/
def Bound.read (b : Bound) (v : Json) : Checked (Option Float) :=
  .ofExcept [b.key] (v.readOptional Json.readReal)

namespace Criteria

/-- No selection and no bound. -/
def empty : Criteria := ⟨[], fun _ => none⟩

/-! ### Looking at criteria -/

/-- The fields with a selected label. -/
def activeFields (c : Criteria) : List String := c.selections.map (·.1)

/-- The labels selected in a field. -/
def labelsFor (c : Criteria) (field : String) : List String :=
  (Ordered.find? field c.selections).getD []

/-- The bounds that are set, with their values. -/
def setBounds (c : Criteria) : List (Bound × Float) :=
  Bound.all.filterMap fun b => (c.bounds b).map fun x => (b, x)

/-- Whether nothing is filtered by. -/
def isEmpty (c : Criteria) : Bool := c.selections.isEmpty && c.setBounds.isEmpty

/-- The number of selected labels. -/
def labelCount (c : Criteria) : Nat := (c.selections.flatMap fun p => p.2).length

/-- Whether two criteria are equal; the order of the fields does not matter. -/
def agrees (c d : Criteria) : Bool :=
  c.selections.length == d.selections.length &&
    (c.selections.all fun p => Ordered.find? p.1 d.selections == some p.2) &&
    Bound.all.all fun b =>
      match c.bounds b, d.bounds b with
      | none, none => true
      | some x, some y => x == y
      | _, _ => false

/-! ### Updating criteria -/

/-- The criteria with other labels selected in a field. -/
def select (c : Criteria) (field : String) (labels : List String) : Criteria :=
  match labels with
  | [] => { c with selections := Ordered.erase field c.selections }
  | _ => { c with selections := Ordered.insert field labels c.selections }

/-- The criteria with the labels of a value selected in a field. -/
def withLabels (c : Criteria) (field : String) (v : Json) : Except Fault Criteria :=
  (labelsOf v).map (c.select field)

/-- The criteria with one more label selected in a field. -/
def withLabel (c : Criteria) (field : String) (v : Json) : Criteria :=
  c.select field (labelsOfItems ((c.labelsFor field).map .text ++ [v]))

/-- The criteria with one label less selected in a field. -/
def withoutLabel (c : Criteria) (field : String) (v : Json) : Criteria :=
  c.select field ((c.labelsFor field).filter fun l =>
    match v with
    | .text s => l ≠ s
    | _ => true)

/-- The criteria without a selection in a field. -/
def withoutField (c : Criteria) (field : String) : Criteria :=
  { c with selections := Ordered.erase field c.selections }

/-- The criteria with another value of a bound. -/
def setBound (c : Criteria) (b : Bound) (x : Option Float) : Criteria :=
  { c with bounds := fun b' => if b' = b then x else c.bounds b' }

/-- The criteria with the value given for the bound of a key. -/
def withBound (c : Criteria) (key : String) (v : Json) : Except Fault Criteria :=
  match Bound.ofKey? key with
  | some b => ((b.read v).map (c.setBound b)).toExcept
  | none => .error (.unknownBound key)

/-- No criteria. -/
def cleared (_ : Criteria) : Criteria := empty

/-- Criteria never change, so no part of them can be assigned to. -/
def assign (_ : Criteria) (key : String) (_ : Json) : Except Fault Criteria :=
  .error (.violations [⟨[key], .frozen⟩])

end Criteria

end JobSearch
