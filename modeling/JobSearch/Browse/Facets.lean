import JobSearch.Browse.Page
import JobSearch.Facets.Refresher
import JobSearch.Query.Facets

/-!
# Facets and suggestions

The labels of a field with the number of postings that each would leave, those of all fields
at once, and the labels that contain what the user types.

## Main definitions

* `Store.facets`, `Store.metadata`.
* `Store.suggest` — labels that contain a term, the best first.
-/

namespace JobSearch

open Query

/-- The labels and numbers in the rows of a result. -/
def facetsIn (r : Result Cell) : Except Fault (List Facet) :=
  r.rows.mapM fun row =>
    match row with
    | [label, count] => (count.toJson.readInteger).map fun n => ⟨label.label, n⟩
    | _ => .error .wrongKind

/-- Unfiltered facets of every field that can be filtered by, and the number of postings. -/
structure Metadata where
  total : Int
  facets : List (String × List Facet)

/-- Metadata as a document. -/
def Metadata.toJson (m : Metadata) : Json :=
  .object [
    ("total_jobs", .int m.total),
    ("facets", .object (m.facets.map fun p => (p.1, .list (p.2.map Facet.toJson))))]

/-- A label that contains a term. -/
structure Suggestion where
  value : String
  count : Int
  field : Field
  deriving DecidableEq

/-- A suggestion as a document. -/
def Suggestion.toJson (s : Suggestion) : Json :=
  .object [
    ("value", .text s.value), ("count", .int s.count), ("field", .text s.field.key),
    ("field_label", .text s.field.entry.title)]

namespace Store

/-- The labels of the field of a key under the criteria on all other fields. -/
def facets (store : Store) (key : String) (c : Criteria) (search : String) (policy : Policy) :
    Except Fault (List Facet) := do
  let s ← (Statement.facets key c search policy).mapError .unknownField
  facetsIn (← store.run s)

/-- Unfiltered facets of every field that can be filtered by, and the number of postings. -/
def metadata (store : Store) : Except Fault Metadata := do
  let facets ← Field.filterable.mapM fun f => do
    return (f.key, ← store.facets f.key .empty "" .all)
  return ⟨← store.jobCount, facets⟩

end Store

/-! ### Suggestions -/

/-- What labels are suggested for. -/
structure SuggestionRequest where
  term : String
  criteria : Criteria
  /-- The keys of the fields whose labels are suggested. -/
  fields : List String
  limitPerField : Int
  limit : Int

/-- The term that is looked for: trimmed and in lower case. -/
def SuggestionRequest.needle (q : SuggestionRequest) : String := Text.lower (Text.trim q.term)

/-- How well a suggestion fits: exact matches go first, then those that begin with the term. -/
def Suggestion.rank (needle : String) (s : Suggestion) : Nat :=
  let value := Text.lower s.value
  if value = needle then 0 else if needle.toList.isPrefixOf value.toList then 1 else 2

/-- Whether a suggestion may stand before another one. -/
def Suggestion.before (needle : String) (s t : Suggestion) : Bool :=
  if s.rank needle = t.rank needle then decide (t.count ≤ s.count)
  else decide (s.rank needle < t.rank needle)

/-- The first elements of a list; a negative number leaves out that many at the end. -/
def firstOf {α : Type} (limit : Int) (xs : List α) : List α :=
  if 0 ≤ limit then xs.take limit.toNat else xs.take (xs.length - limit.natAbs)

namespace Store

/-- Whether a row of a result begins with text that is one of some labels. -/
def isSelected (labels : List String) (row : List Cell) : Bool :=
  match row.head?.map Cell.plain with
  | some (.text s) => labels.contains s
  | _ => false

/-- The labels of one field that contain a term and are not selected. -/
def suggestIn (store : Store) (q : SuggestionRequest) (key : String) :
    Except Fault (List Suggestion) := do
  let f ← (Field.resolve key).mapError .unknownField
  let r ← store.run (Statement.suggestionsOf f q.needle q.limitPerField)
  let selected := q.criteria.labelsFor key
  let found ← facetsIn { r with rows := r.rows.filter fun row => !isSelected selected row }
  return found.map fun v => ⟨v.label, v.count, f⟩

/-- The labels that contain a term, the best first. -/
def suggest (store : Store) (q : SuggestionRequest) : Except Fault (List Suggestion) := do
  let found ← q.fields.mapM (store.suggestIn q)
  return firstOf q.limit (found.flatten.mergeSort (Suggestion.before q.needle))

end Store

end JobSearch
