import JobSearch.Query.Predicate

/-!
# Lookup joins

The labels of a field with at most one label per posting are found by joining its table to
the postings. The join keeps postings without a label. However often a field is asked for it
is joined once, in catalog order; fields with several labels need no join.

## Main definitions

* `Field.lookupJoin` — the join of a field.
* `lookupJoins`, `lookupJoinsOf` — the joins for some fields or keys.
-/

namespace JobSearch

open Query

/-- The join that finds the label of a posting. -/
def Field.lookupJoin (f : Field) : Join :=
  let e := f.entry
  ⟨.left, e.table, e.qualifier, ⟨postingQualifier, e.foreignKey⟩, ⟨e.qualifier, "id"⟩⟩

/-- The joins for some fields. -/
def lookupJoins (fields : List Field) : List Join :=
  (Field.all.filter fun f => f ∈ fields ∧ f.isMultiValued = false).map Field.lookupJoin

/-- The fields of some keys, or the first unknown key. -/
def resolveFields : List String → Except UnknownField (List Field)
  | [] => .ok []
  | key :: rest =>
    match Field.resolve key with
    | .error u => .error u
    | .ok f =>
      match resolveFields rest with
      | .error u => .error u
      | .ok more => .ok (f :: more)

/-- The joins for the fields of some keys. -/
def lookupJoinsOf (keys : List String) : Except UnknownField (List Join) :=
  (resolveFields keys).map lookupJoins

/-- Joins as text, one a line. -/
def joinsText (joins : List Join) : String := "\n".intercalate (joins.map Join.text)

end JobSearch
