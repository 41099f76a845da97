import JobSearch.Query.Postings

/-!
# Statements about the labels of postings

The labels of some postings in a field that may have several, in storage order.

## Main definitions

* `Statement.attributes` — the labels of postings by their ids.
-/

namespace JobSearch

open Query

/-- The column that tells whose labels are stored, and the tables to read them from. -/
def Field.ownerSource (f : Field) : Column × Source :=
  let e := f.entry
  match e.shape with
  | .junction pairs owner =>
    let pair := e.qualifier ++ "_j"
    (⟨pair, owner⟩,
      ⟨e.table, e.qualifier, [⟨.inner, pairs, pair, ⟨e.qualifier, "id"⟩, ⟨pair, e.foreignKey⟩⟩]⟩)
  | _ => (⟨e.qualifier, e.foreignKey⟩, ⟨e.table, e.qualifier, []⟩)

/-- The condition that a column holds one of some numbers. -/
def ownedBy (column : Column) : List Int → Term
  | [id] => .equals column (.int id)
  | ids => .oneOf column (ids.map .int)

namespace Query.Statement

/-- The labels of some postings in a field, with their owners. -/
def attributesOf (f : Field) (ids : List Int) : Statement :=
  let owner := f.ownerSource.1
  { outputs := [⟨.column owner, "entity_id"⟩, ⟨.column f.labelColumn, "label"⟩]
    source := f.ownerSource.2
    condition := some (ownedBy owner ids)
    grouping := .each
    order := [⟨.column owner, .unspoken⟩, ⟨.column ⟨owner.qualifier, rowNumber⟩, .unspoken⟩]
    window := .all }

/-- The labels of some postings in the field of a key, which must be one that may have several
labels. -/
def attributes (key : String) (ids : List Int) : Except Fault Statement :=
  match Field.resolve key with
  | .error u => .error (.unknownField u)
  | .ok f =>
    if f.isMultiValued = false then .error (.singleValued key)
    else if ids.isEmpty then .error .noOwners
    else .ok (attributesOf f ids)

end Query.Statement

end JobSearch
