import JobSearch.Filter.Criteria
import JobSearch.Filter.Policy
import JobSearch.Query.Condition

/-!
# Predicates

Criteria and search text become one condition on postings. Every field with a selection is
one term, and so are the bounds on salary and those on experience. The policy says how terms
are combined; the search text is always required besides.

A field with at most one label per posting admits any of the selected labels; a field with
several labels requires all of them.

## Main definitions

* `Field.labelColumn`, `Field.carriers` — what the term of a field looks at.
* `Predicate.compile` — the predicate of criteria, search text and policy.
-/

namespace JobSearch

open Query

/-- The column that identifies a posting. -/
def postingId : Column := ⟨postingQualifier, "id"⟩

/-- The column of the labels of a field. -/
def Field.labelColumn (f : Field) : Column := ⟨f.entry.qualifier, f.entry.labelColumn⟩

/-- The inner statement that finds the postings with all of some labels in a field that may
have several. Its qualifiers differ from those of the statement around it. -/
def Field.carriers (f : Field) (labels : List String) : Carriers :=
  let e := f.entry
  match e.shape with
  | .junction pairs owner =>
    let pair := e.qualifier ++ "_fj"
    let label := e.qualifier ++ "_fl"
    { owner := ⟨pair, owner⟩
      source := ⟨pairs, pair, [⟨.inner, e.table, label, ⟨pair, e.foreignKey⟩, ⟨label, "id"⟩⟩]⟩
      label := ⟨label, e.labelColumn⟩
      wanted := labels.map .text }
  | _ =>
    let child := e.qualifier ++ "_f"
    { owner := ⟨child, e.foreignKey⟩
      source := ⟨e.table, child, []⟩
      label := ⟨child, e.labelColumn⟩
      wanted := labels.map .text }

/-- A condition of a statement, with its inner statements. -/
abbrev Term := Condition Carriers

/-- A condition for postings and the fields whose labels it looks at. -/
structure Predicate where
  condition : Option Term
  referenced : List Field

namespace Predicate

/-- The condition that all postings satisfy. -/
def trivial : Predicate := ⟨none, []⟩

/-- The text of a predicate, empty if there is no condition. -/
def text (p : Predicate) : String := (p.condition.map Condition.text).getD ""

/-- The values of a predicate. -/
def params (p : Predicate) : List Cell := (p.condition.map Condition.params).getD []

/-- A predicate as a clause of a statement, empty if there is no condition. -/
def clause (p : Predicate) : String :=
  match p.condition with
  | none => ""
  | some c => "WHERE " ++ c.text

/-! ### Terms -/

/-- The term of a field, if labels are selected in it. -/
def fieldTerm (f : Field) (labels : List String) : List Term :=
  match f.entry.shape with
  | .lookup =>
    ((Condition.any? (labels.map fun l => .equals f.labelColumn (.text l))).map
      Condition.grouped).toList
  | _ => if labels.isEmpty then [] else [.among postingId (f.carriers labels)]

/-- The condition of a bound. -/
def boundCondition (b : Bound) (x : Float) : Term :=
  let column : Column := ⟨postingQualifier, b.column⟩
  if b.isLower then .atLeast column (.real x) else .atMost column (.real x)

/-- The bounds on a quantity as one term. -/
def quantityTerm (c : Criteria) (q : Quantity) : List Term :=
  match (c.setBounds.filter fun p => p.1.quantity = q).map fun p => boundCondition p.1 p.2 with
  | [] => []
  | [single] => [single]
  | several => ((Condition.all? several).map Condition.grouped).toList

/-- The columns that search text is looked for in. -/
def searchedColumns : List Column :=
  searchColumns.map (⟨postingQualifier, ·⟩) ++ searchFields.map Field.labelColumn

/-- The condition of a search text that is not blank. -/
def searchTerm (text : String) : List Term :=
  if text.isEmpty then []
  else
    ((Condition.any? (searchedColumns.map fun c => .like c (Text.containing text))).map
      Condition.grouped).toList

/-- Terms combined by a policy. -/
def combine (policy : Policy) (terms : List Term) : Option Term :=
  match policy, terms with
  | .all, _ => Condition.all? terms
  | .any, [single] => some single
  | .any, _ => (Condition.any? terms).map Condition.grouped

/-! ### Compiling -/

/-- The fields of selections, or the first key that postings cannot be filtered by. -/
def resolveAll : Selections → Except UnknownField (List (Field × List String))
  | [] => .ok []
  | (key, labels) :: rest =>
    match Field.resolveFilterable key with
    | .error u => .error u
    | .ok f =>
      match resolveAll rest with
      | .error u => .error u
      | .ok more => .ok ((f, labels) :: more)

/-- Selections in catalog order, without those of an excluded field. -/
def inCatalogOrder (selected : List (Field × List String)) (exclude : Option Field) :
    List (Field × List String) :=
  (Field.all.filter fun f => exclude ≠ some f).filterMap fun f =>
    (Ordered.find? f selected).map fun labels => (f, labels)

/-- The predicate of selections in catalog order, bounds, trimmed search text and policy. -/
def assemble (selected : List (Field × List String)) (c : Criteria) (search : String)
    (policy : Policy) : Predicate :=
  let terms := selected.flatMap (fun p => fieldTerm p.1 p.2) ++ quantityTerm c .salary ++
    quantityTerm c .experience
  let filtered := (selected.filter fun p => !p.1.isMultiValued && !p.2.isEmpty).map (·.1)
  let searched := if search.isEmpty then [] else searchFields.filter fun f => f ∉ filtered
  { condition := Condition.all? ((combine policy terms).toList ++ searchTerm search)
    referenced := filtered ++ searched }

/-- The field of a key that is left out, if one is. -/
def resolveExcluded : Option String → Except UnknownField (Option Field)
  | none => .ok none
  | some key => (Field.resolveFilterable key).map some

/-- The predicate of criteria, search text and policy, without the term of an excluded field. -/
def compile (c : Criteria) (search : String) (policy : Policy) (exclude : Option String) :
    Except UnknownField Predicate :=
  match resolveExcluded exclude with
  | .error u => .error u
  | .ok excluded =>
    match resolveAll c.selections with
    | .error u => .error u
    | .ok selected =>
      .ok (assemble (inCatalogOrder selected excluded) c (Text.trim search) policy)

end Predicate

end JobSearch
