import JobSearch.Json.Basic

/-!
# Writing documents

Values are written on one line, or with one item a line and two spaces of indentation for
each level. Only quotes, backslashes and control characters are escaped.

## Main definitions

* `Json.compact` — a value on one line.
* `Json.indented` — a value with one item a line.
-/

namespace JobSearch.Json

/-- A character within a string of a document. -/
def escapedChar (c : Char) : List Char :=
  if c = '"' ∨ c = '\\' then ['\\', c]
  else if c = '\n' then ['\\', 'n']
  else if c = '\r' then ['\\', 'r']
  else if c = '\t' then ['\\', 't']
  else if c.toNat = 8 then ['\\', 'b']
  else if c.toNat = 12 then ['\\', 'f']
  else if c.toNat < 32 then ['\\', 'u'] ++ Text.hexDigits 4 c.toNat
  else [c]

/-- Text as a string of a document. -/
def stringText (s : String) : String :=
  "\"" ++ String.ofList (s.toList.flatMap escapedChar) ++ "\""

/-- A double in a document; an infinity and no number have names. -/
def realText (x : Float) : String :=
  match Number.Reading.ofFloat x with
  | .nan => "NaN"
  | .infinite negative => if negative then "-Infinity" else "Infinity"
  | .finite .. => Number.floatText x

/-- A value without parts as text. -/
def atomText : Json → String
  | bool b => if b then "true" else "false"
  | int n => Number.intText n
  | real x => realText x
  | text s => stringText s
  | _ => "null"

/-- A value on one line. -/
def compact : Json → String
  | list items => "[" ++ ", ".intercalate (compactItems items) ++ "]"
  | object members => "\x7b" ++ ", ".intercalate (compactMembers members) ++ "\x7d"
  | v => v.atomText
where
  /-- The items of a list, each on one line. -/
  compactItems : List Json → List String
    | [] => []
    | v :: rest => compact v :: compactItems rest
  /-- The members of an object, each on one line. -/
  compactMembers : List (String × Json) → List String
    | [] => []
    | (k, v) :: rest => (stringText k ++ ": " ++ compact v) :: compactMembers rest

/-- The start of a line at a level. -/
def lineStart (level : Nat) : String := "\n" ++ String.ofList (List.replicate (2 * level) ' ')

/-- A value with one item a line, the value itself at a level. -/
def indentedAt (level : Nat) : Json → String
  | list [] => "[]"
  | list (v :: rest) =>
    "[" ++ lineStart (level + 1) ++
      ("," ++ lineStart (level + 1)).intercalate (itemsAt (level + 1) (v :: rest)) ++
      lineStart level ++ "]"
  | object [] => "\x7b\x7d"
  | object (m :: rest) =>
    "\x7b" ++ lineStart (level + 1) ++
      ("," ++ lineStart (level + 1)).intercalate (membersAt (level + 1) (m :: rest)) ++
      lineStart level ++ "\x7d"
  | v => v.atomText
where
  /-- The items of a list at a level. -/
  itemsAt (level : Nat) : List Json → List String
    | [] => []
    | v :: rest => indentedAt level v :: itemsAt level rest
  /-- The members of an object at a level. -/
  membersAt (level : Nat) : List (String × Json) → List String
    | [] => []
    | (k, v) :: rest => (stringText k ++ ": " ++ indentedAt level v) :: membersAt level rest

/-- A value with one item a line. -/
def indented (v : Json) : String := indentedAt 0 v

end JobSearch.Json
