import JobSearch.Query.Lookup
import JobSearch.Query.Statement

/-!
# Statements about postings

One page of the postings that satisfy a predicate, their number, and one posting by its id.

## Main definitions

* `Statement.page`, `Statement.count`, `Statement.posting`.
* `totalPages` — the number of pages.
-/

namespace JobSearch

open Query

/-- A column of a posting. -/
def postingColumn (name : String) : Column := ⟨postingQualifier, name⟩

/-- The postings joined with the tables of some fields. -/
def postingSource (fields : List Field) : Source :=
  ⟨postingTable, postingQualifier, lookupJoins fields⟩

/-- What is shown of a posting; converted salaries only if the dataset has them. -/
def shownColumns (converted : Bool) : List Output :=
  ⟨.column postingId, "id"⟩ ::
    displayFields.map (fun f => ⟨.column f.labelColumn, f.key⟩) ++
    displayColumns.map (fun c => ⟨.column (postingColumn c.1), c.2⟩) ++
    if converted then convertedColumns.map fun c => ⟨.column (postingColumn c), c⟩ else []

/-- The column that an order sorts by. -/
def SortChoice.column (s : SortChoice) : Column :=
  match s.field? with
  | some f => f.labelColumn
  | none => Column.mk postingQualifier s.postingColumn

/-- The direction of an order. -/
def SortChoice.direction (s : SortChoice) : Direction :=
  if s.isDescending then .descending else .ascending

namespace Query.Statement

/-- The number of postings that satisfy a predicate. -/
def count (p : Predicate) : Statement :=
  { outputs := [⟨.countRows, "total"⟩]
    source := postingSource p.referenced
    condition := p.condition
    grouping := .whole
    order := []
    window := .all }

/-- Some of the postings that satisfy a predicate, in an order in which no two are equal. -/
def slice (p : Predicate) (sort : SortChoice) (converted : Bool) (limit offset : Int) :
    Statement :=
  { outputs := shownColumns converted
    source := postingSource (displayFields ++ p.referenced ++ sort.field?.toList)
    condition := p.condition
    grouping := .each
    order := [⟨.column sort.column, sort.direction⟩, ⟨.column postingId, .ascending⟩]
    window := .slice limit offset }

/-- One page of the postings that satisfy a predicate; the first page has number one. -/
def page (p : Predicate) (sortKey : Option String) (number size : Int) (converted : Bool) :
    Except Fault Statement :=
  if number < 1 then .error (.pageBelowOne number)
  else if size < 1 then .error (.pageSizeBelowOne size)
  else .ok (slice p (SortChoice.ofKey sortKey) converted size ((number - 1) * size))

/-- The posting with an id. -/
def posting (id : Int) (converted : Bool) : Statement :=
  { outputs := shownColumns converted
    source := postingSource displayFields
    condition := some (.equals postingId (.int id))
    grouping := .each
    order := []
    window := .all }

end Query.Statement

/-- The least integer that is not below a double, if the double is finite. -/
def ceiling? (x : Float) : Option Int := (Number.exactValue? x).map Rat.ceil

/-- The quotient of two integers as the nearest double; nothing if it lies beyond the largest
double. -/
def quotient? (num den : Int) : Option Float :=
  Number.ofRatio? ((num < 0) != (den < 0)) num.natAbs den.natAbs

/-- The number of pages of a size that hold a number of postings. -/
def totalPages (total size : Int) : Except Fault Int :=
  if size ≤ 0 then .ok 0
  else match (quotient? total size).bind ceiling? with
    | some n => .ok n
    | none => .error .overflow

end JobSearch
