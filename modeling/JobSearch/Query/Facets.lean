import JobSearch.Query.Postings

/-!
# Statements about labels

The labels of a field with the number of postings that carry each: under the criteria on the
other fields, or those that contain a term. A posting that carries a label twice counts once.

## Main definitions

* `Statement.facets` — the labels of a field under the other criteria.
* `Statement.suggestions` — the labels of a field that contain a term.
-/

namespace JobSearch

open Query

/-- The joins that lead from postings to the labels of a field with several. -/
def Field.labelJoins (f : Field) : List Join :=
  let e := f.entry
  match e.shape with
  | .lookup => []
  | .children => [⟨.inner, e.table, e.qualifier, postingId, ⟨e.qualifier, e.foreignKey⟩⟩]
  | .junction pairs owner =>
    let pair := e.qualifier ++ "_j"
    [⟨.inner, pairs, pair, postingId, ⟨pair, owner⟩⟩,
      ⟨.inner, e.table, e.qualifier, ⟨pair, e.foreignKey⟩, ⟨e.qualifier, "id"⟩⟩]

/-- The postings joined with the labels of a field and the tables of other fields. -/
def Field.labelSource (f : Field) (others : List Field) : Source :=
  let base := postingSource (others ++ if f.isMultiValued then [] else [f])
  { base with joins := base.joins ++ f.labelJoins }

namespace Query.Statement

/-- The labels of a field under a condition, each with the number of its postings; the most
frequent labels come first, those of equal number in their own order. -/
def labels (f : Field) (name : String) (others : List Field) (condition : Term)
    (window : Window) : Statement :=
  { outputs := [⟨.column f.labelColumn, name⟩, ⟨.countDistinct postingId, "count"⟩]
    source := f.labelSource others
    condition := some condition
    grouping := .keyed (.column f.labelColumn)
    order := [⟨.output "count", .descending⟩, ⟨.column f.labelColumn, .ascending⟩]
    window }

/-- The labels of a field under a predicate. -/
def facetsUnder (f : Field) (p : Predicate) : Statement :=
  let present : Term := .present f.labelColumn
  let condition := match p.condition with
    | none => present
    | some c => .and present (.grouped c)
  labels f "label" p.referenced condition .all

/-- The labels of a field under the criteria on all other fields. -/
def facets (key : String) (c : Criteria) (search : String) (policy : Policy) :
    Except UnknownField Statement :=
  match Predicate.compile c search policy (some key) with
  | .error u => .error u
  | .ok p => (Field.resolve key).map fun f => facetsUnder f p

/-- The labels of a field that contain a term in lower case. -/
def suggestionsOf (f : Field) (term : String) (limit : Int) : Statement :=
  labels f "value" [] (.likeLowered f.labelColumn (Text.containing (Text.lower term)))
    (.first limit)

/-- The labels of the field of a key that contain a term. -/
def suggestions (key term : String) (limit : Int) : Except UnknownField Statement :=
  (Field.resolve key).map fun f => suggestionsOf f term limit

end Query.Statement

end JobSearch
