import JobSearch.Json.Basic
import JobSearch.Record.Violation

/-!
# Checked values

Reading a record gives a value, or the violations of all its parts in the order of the parts.

## Main definitions

* `Checked` — a value or violations; it is applicative, and keeps the violations of all parts.
* `Json.readReal`, `Json.readText`, `Json.readOptional`, `Json.readTexts` — single values.
* `Checked.optional`, `Checked.withDefault`, `Checked.required` — members of a record.
-/

namespace JobSearch

/-- A value, or the violations that were found instead. -/
inductive Checked (α : Type) where
  | valid (value : α)
  | invalid (violations : List Violation)

namespace Checked

variable {α β : Type}

/-- A function applied to a checked value. -/
def map (f : α → β) : Checked α → Checked β
  | valid a => valid (f a)
  | invalid vs => invalid vs

/-- A checked function applied to a checked value; violations of both are kept. -/
def apply : Checked (α → β) → Checked α → Checked β
  | valid f, valid a => valid (f a)
  | valid _, invalid vs => invalid vs
  | invalid vs, valid _ => invalid vs
  | invalid vs, invalid ws => invalid (vs ++ ws)

instance : Applicative Checked where
  pure := valid
  seq f a := apply f (a ())
  map := map

/-- A value that is refused in a place. -/
def refuse (place : List String) (r : Refusal) : Checked α := invalid [⟨place, r⟩]

/-- A reading of the value in a place. -/
def ofExcept (place : List String) : Except Refusal α → Checked α
  | .ok a => valid a
  | .error r => refuse place r

/-- Several checked values. -/
def all : List (Checked α) → Checked (List α)
  | [] => valid []
  | c :: rest => List.cons <$> c <*> all rest

end Checked

/-- A value that must be a number; text may be the numeral of one. -/
def Json.readReal : Json → Except Refusal Float
  | .int n => (Number.ofInt? n).elim (.error .notReal) .ok
  | .real x => .ok x
  | .bool b => .ok (if b then 1 else 0)
  | .text s => (Number.readPlainReal? s).elim (.error .unreadableReal) .ok
  | _ => .error .notReal

/-- A value that must be text. -/
def Json.readText : Json → Except Refusal String
  | .text s => .ok s
  | _ => .error .notText

/-- A value or, in place of null, nothing. -/
def Json.readOptional {α : Type} (read : Json → Except Refusal α) :
    Json → Except Refusal (Option α)
  | .null => .ok none
  | v => (read v).map some

/-- The texts of a list, with the places of the items that are no text. -/
def Json.readTexts (place : List String) : Json → Checked (List String)
  | .list items =>
    .all (items.mapIdx fun i v => .ofExcept (place ++ [Number.natText i]) v.readText)
  | _ => .refuse place .notList

namespace Checked

variable {α : Type}

/-- A member of a record that is absent or null, or is read. -/
def optional (read : Json → Except Refusal α) (key : String) (record : Json) :
    Checked (Option α) :=
  .ofExcept [key] (((record.member? key).getD .null).readOptional read)

/-- A member of a record that may be absent, in which case it has a default. -/
def withDefault (read : Json → Except Refusal α) (default : α) (key : String) (record : Json) :
    Checked α :=
  match record.member? key with
  | some v => .ofExcept [key] (read v)
  | none => .valid default

/-- A member of a record that must be there. -/
def required (read : Json → Except Refusal α) (key : String) (record : Json) : Checked α :=
  match record.member? key with
  | some v => .ofExcept [key] (read v)
  | none => .refuse [key] .missing

end Checked

end JobSearch
