import JobSearch.Dataset.Store
import JobSearch.Report.Standing
import JobSearch.Statistics.Summary

/-!
# Answers of reports

A standing report is run under criteria and answered by rows, with the figures of their
numeric columns.

## Main definitions

* `ReportAnswer`, `StandingReport.run`.
-/

namespace JobSearch

/-- The answer of a report. -/
structure ReportAnswer where
  name : String
  statement : String
  params : List Cell
  columns : List String
  rows : List Record
  statistics : List (String × Summary)

/-- An answer as a document. -/
def ReportAnswer.toJson (a : ReportAnswer) : Json :=
  .object [
    ("name", .text a.name), ("sql", .text a.statement),
    ("params", .list (a.params.map Cell.toJson)), ("columns", .texts a.columns),
    ("rows", .list (a.rows.map .object)),
    ("statistics", .object (a.statistics.map fun p => (p.1, p.2.toJson)))]

/-- The rows of a result by column, as values of a document. -/
def Query.Result.documents (r : Query.Result Cell) : List Record :=
  r.records.map fun row => row.map fun p => (p.1, p.2.toJson)

/-- The answer of a standing report under criteria. -/
def StandingReport.run (r : StandingReport) (store : Store) (c : Criteria) :
    Except Fault ReportAnswer := do
  let p ← (Report.predicate c).mapError .unknownField
  let text ← (r.report.textUnder p).mapError .unknownField
  let result ← store.runAs text p.params (r.statement p)
  let rows := result.documents
  let statistics ← columnSummaries rows none
  return ⟨r.name, text, p.params, result.columns, rows, statistics⟩

end JobSearch
