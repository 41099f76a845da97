import JobSearch.Filter.Criteria

/-!
# Reading criteria

Criteria are read from the parts of a record, or from one flat mapping whose keys are fields
and bounds. Selections may be given as a mapping or as a list of pairs; a key that occurs
again keeps its first place and takes the last value.

## Main definitions

* `Criteria.read` — criteria from selections and bounds.
* `Criteria.ofMapping` — criteria from a flat mapping.
-/

namespace JobSearch

/-- A key as a cell by which it is compared; lists and objects are no keys. -/
def Json.keyCell? : Json → Option Cell
  | .null => some .null
  | .bool b => some (.int (if b then 1 else 0))
  | .int n => some (.int n)
  | .real x => some (.real x)
  | .text s => some (.text s)
  | .list _ => none
  | .object _ => none

/-- A key that is no text as a place. -/
def Json.keyPlace : Json → String
  | .bool b => if b then "1" else "0"
  | v => v.shown

namespace Selections

/-- An entry of a mapping: its key, the cell by which keys are compared, and its value. -/
structure Entry where
  key : Json
  cell : Cell
  value : Json

/-- Entries with one more written. -/
def insertEntry (e : Entry) : List Entry → List Entry
  | [] => [e]
  | d :: rest => if d.cell.same e.cell then { d with value := e.value } :: rest
    else d :: insertEntry e rest

/-- The words for an item that is no pair. -/
def unpaired (position size : Nat) : String :=
  "dictionary update sequence element #" ++ Number.natText position ++ " has length " ++
    Number.natText size ++ "; 2 is required"

/-- The pair that an item of a list of entries is. -/
def pairOf (position : Nat) (item : Json) : Except Fault Entry :=
  match item.elements? with
  | none => .error .wrongKind
  | some [key, value] =>
    match key.keyCell? with
    | some cell => .ok ⟨key, cell, value⟩
    | none => .error .wrongKind
  | some items =>
    .error (.violations [⟨["values"], .broken (unpaired position items.length)⟩])

/-- The entries written one after the other, up to the first item that is no pair. -/
def entriesFrom (position : Nat) (written : List Entry) : List Json → Except Fault (List Entry)
  | [] => .ok written
  | item :: rest =>
    match pairOf position item with
    | .ok e => entriesFrom (position + 1) (insertEntry e written) rest
    | .error f => .error f

/-- The entries of a value. -/
def entriesOf : Json → Except Fault (List Entry)
  | .null => .ok []
  | .object members => .ok (members.map fun m => ⟨.text m.1, .text m.1, m.2⟩)
  | .list items => entriesFrom 0 [] items
  | .text s => entriesFrom 0 [] (s.toList.map fun c => .text (String.ofList [c]))
  | _ => .error .wrongKind

/-- The selections of some entries; fields without a label are left out. -/
def ofEntries : List Entry → Except Fault (List (Json × List String))
  | [] => .ok []
  | e :: rest =>
    match labelsOf e.value with
    | .error f => .error f
    | .ok labels =>
      match ofEntries rest with
      | .error f => .error f
      | .ok more => .ok (if labels.isEmpty then more else (e.key, labels) :: more)

/-- The selection of one field, whose key must be text. -/
def checkKey (p : Json × List String) : Checked (String × List String) :=
  match p.1 with
  | .text s => .valid (s, p.2)
  | key => .refuse ["values", key.keyPlace, "[key]"] .notText

/-- The selections that a value gives; a fault that is no violation ends the reading. -/
def read (v : Json) : Except Fault (Checked Selections) :=
  match entriesOf v with
  | .error (.violations vs) => .ok (.invalid vs)
  | .error f => .error f
  | .ok entries =>
    match ofEntries entries with
    | .error f => .error f
    | .ok selected => .ok (.all (selected.map checkKey))

end Selections

namespace Criteria

/-- Criteria from selections and the values given for the bounds. -/
def read (selections : Json) (bound : Bound → Json) : Except Fault Criteria :=
  match Selections.read selections with
  | .error f => .error f
  | .ok selected =>
    let bounds := Bounds.of <$> Bound.salaryMin.read (bound .salaryMin)
      <*> Bound.salaryMax.read (bound .salaryMax)
      <*> Bound.experienceMin.read (bound .experienceMin)
      <*> Bound.experienceMax.read (bound .experienceMax)
    (Criteria.mk <$> selected <*> bounds).toExcept

/-- Criteria from a flat mapping of fields to labels and bounds to numbers. -/
def ofMapping (entries : List (String × Json)) : Except Fault Criteria :=
  let entries := Ordered.ofList entries
  let fields := entries.filter fun e => (Bound.ofKey? e.1).isNone
  let bounds := entries.filterMap fun e => (Bound.ofKey? e.1).map fun b => (b, e.2)
  read (.object fields) fun b => (Ordered.find? b bounds.reverse).getD .null

end Criteria

end JobSearch
