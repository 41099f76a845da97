import JobSearch.Query.Lookup
import JobSearch.Report.Basic

/-!
# Filling in reports

The gaps of a report are filled with the user's criteria, of which one must hold: first the
joins, then the condition. Tables that the report joins by itself are not joined again.

## Main definitions

* `Report.joinsUnder` — the joins of a report under a predicate.
* `Report.textUnder`, `Report.render` — the statement of a report.
-/

namespace JobSearch

open Query

namespace Report

/-- The predicate under which reports are run. -/
def predicate (c : Criteria) : Except UnknownField Predicate := Predicate.compile c "" .any none

/-- The joins of fields that a statement needs, and those that a predicate needs besides. -/
def joinsWith (own : List Join) (p : Predicate) : List Join :=
  own ++ (lookupJoins p.referenced).filter fun j => j.qualifier ∉ own.map Join.qualifier

/-- The joins of a report under a predicate. -/
def joinsUnder (r : Report) (p : Predicate) : Except UnknownField (List Join) :=
  (lookupJoinsOf r.joins).map fun own => joinsWith own p

/-- A predicate behind a word, or nothing if there is no condition. -/
def inserted (word : String) (p : Predicate) : String :=
  match p.condition with
  | none => ""
  | some c => word ++ " (" ++ c.text ++ ")"

/-- A template with its gaps filled. -/
def fill (template : String) (joins : List Join) (p : Predicate) : String :=
  Text.substitute andWhereGap (inserted "AND" p)
    (Text.substitute whereGap (inserted "WHERE" p)
      (Text.substitute joinsGap (joinsText joins) template))

/-- The statement of a report under a predicate. -/
def textUnder (r : Report) (p : Predicate) : Except UnknownField String :=
  (r.joinsUnder p).map fun joins => fill r.template joins p

/-- The statement of a report under criteria, and its values. -/
def render (r : Report) (c : Criteria) : Except UnknownField (String × List Cell) :=
  match predicate c with
  | .error u => .error u
  | .ok p => (r.textUnder p).map fun text => (text, p.params)

end Report

end JobSearch
