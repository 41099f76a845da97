import JobSearch.Catalog.Field
import JobSearch.Text.Quoted

/-!
# Resolving keys

Fields are asked for by key. A key may be unknown altogether, or may belong to a field that
postings cannot be filtered by.

## Main definitions

* `Field.resolve`, `Field.resolveFilterable` — the field of a key, or why there is none.
* `UnknownField` — a key without a field, with its message.
-/

namespace JobSearch

/-- The set in which a key was looked up. -/
inductive FieldScope where
  | catalog
  | filterable
  deriving DecidableEq

/-- A key that has no field in the set in which it was looked up. -/
structure UnknownField where
  key : String
  scope : FieldScope
  deriving DecidableEq

/-- An unknown field in words. -/
def UnknownField.message (u : UnknownField) : String :=
  "Unknown field " ++ Text.quoted u.key ++ ": not present in the " ++
    match u.scope with
    | .catalog => "schema catalog"
    | .filterable => "set of filterable fields"

namespace Field

/-- The field of a key. -/
def resolve (key : String) : Except UnknownField Field :=
  match ofKey? key with
  | some f => .ok f
  | none => .error ⟨key, .catalog⟩

/-- The field of a key, if postings can be filtered by it. -/
def resolveFilterable (key : String) : Except UnknownField Field :=
  match ofKey? key with
  | none => .error ⟨key, .catalog⟩
  | some f => if f.entry.filterable then .ok f else .error ⟨key, .filterable⟩

end Field

end JobSearch
