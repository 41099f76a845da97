import JobSearch.Catalog.Field
import JobSearch.Relation.Column
import JobSearch.Relation.Table

/-!
# Datasets

A dataset is a list of jobs. A job has an id, plain columns, at most one label in some fields
and any number of labels in others; a label in a list may be absent, and labels may repeat.

## Main definitions

* `plainColumns` — the plain columns of a job.
* `Job`, `Dataset`.
-/

namespace JobSearch

/-- The plain columns of a job that every dataset has. -/
def plainColumns : List (String × ColumnKind) := [
  ("min_salary", .real), ("max_salary", .real), ("experience_years", .integer),
  ("posting_date", .text), ("site", .text), ("job_url", .text), ("job_title", .text),
  ("company_name", .text), ("job_description", .text)]

/-- A job of a dataset. -/
structure Job where
  id : Int
  /-- The plain columns; a column that is not listed holds nothing. -/
  plain : Row
  /-- The label in a field with at most one. -/
  label : Field → Option String
  /-- The labels in a field with several, in storage order. -/
  labels : Field → List (Option String)

/-- Which of the two columns of converted salaries a dataset has. -/
structure Conversion where
  hasMin : Bool
  hasMax : Bool
  deriving DecidableEq

/-- The columns of converted salaries that a dataset has. -/
def Conversion.columns (c : Conversion) : List (String × ColumnKind) :=
  (if c.hasMin then [("min_salary_mdl", .real)] else []) ++
    if c.hasMax then [("max_salary_mdl", .real)] else []

/-- A dataset. -/
structure Dataset where
  jobs : List Job
  conversion : Conversion
  /-- The tables that were removed. -/
  dropped : List String

end JobSearch
