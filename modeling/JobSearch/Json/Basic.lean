import JobSearch.Number.Numeral
import JobSearch.Ordered
import JobSearch.Text.Quoted

/-!
# Values of a document

A document is built from nulls, booleans, numbers, text, lists and objects. Integers are exact
and of any size, and kept apart from doubles; the members of an object keep their order.

## Main definitions

* `Json` — a value.
* `Json.shown` — a value as it appears inside a message.
* `Json.label` — a value as a label: text as it is, all else as shown.
-/

namespace JobSearch

/-- A value of a document. -/
inductive Json where
  | null
  | bool (b : Bool)
  | int (n : Int)
  | real (x : Float)
  | text (s : String)
  | list (items : List Json)
  | object (members : List (String × Json))
  deriving Inhabited

namespace Json

/-- A value as it appears inside a message: text is quoted, brackets surround lists and braces
objects. -/
def shown : Json → String
  | null => "None"
  | bool b => if b then "True" else "False"
  | int n => Number.intText n
  | real x => Number.floatText x
  | text s => Text.quoted s
  | list items => "[" ++ ", ".intercalate (shownItems items) ++ "]"
  | object members => "\x7b" ++ ", ".intercalate (shownMembers members) ++ "\x7d"
where
  /-- The items of a list as they appear inside a message. -/
  shownItems : List Json → List String
    | [] => []
    | v :: rest => shown v :: shownItems rest
  /-- The members of an object as they appear inside a message. -/
  shownMembers : List (String × Json) → List String
    | [] => []
    | (k, v) :: rest => (Text.quoted k ++ ": " ++ shown v) :: shownMembers rest

/-- A value as a label. -/
def label : Json → String
  | text s => s
  | v => v.shown

/-- The member of an object with a key. -/
def member? (key : String) : Json → Option Json
  | object members => Ordered.find? key members
  | _ => none

/-- The elements of a value: the items of a list, the characters of text, the keys of an
object. -/
def elements? : Json → Option (List Json)
  | list items => some items
  | text s => some (s.toList.map fun c => text (String.ofList [c]))
  | object members => some (members.map fun m => text m.1)
  | _ => none

/-- A list of texts. -/
def texts (ss : List String) : Json := list (ss.map text)

/-- Text, or null if there is none. -/
def ofText? : Option String → Json
  | some s => text s
  | none => null

/-- A double, or null if there is none. -/
def ofReal? : Option Float → Json
  | some x => real x
  | none => null

/-- Whether a value counts as nothing: null, false, zero, and what is empty. -/
def isBlankValue : Json → Bool
  | null => true
  | bool b => !b
  | int n => n == 0
  | real x => x == 0
  | text s => s.isEmpty
  | list items => items.isEmpty
  | object members => members.isEmpty

end Json

end JobSearch
