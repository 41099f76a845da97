import JobSearch.Catalog.Display
import JobSearch.Dataset.Job
import JobSearch.Distinct
import JobSearch.Query.Attributes

/-!
# How a dataset is stored

Each field has a table of its labels. A field with at most one label per job is referred to by
a column of the table of jobs; a field with several has a row for each label of each job, in
the order of the jobs and of their labels.

## Main definitions

* `Dataset.database` — the tables of a dataset.
-/

namespace JobSearch

/-- A cell with a label, or with nothing. -/
def Cell.ofLabel : Option String → Cell
  | some s => .text s
  | none => .null

/-- Each item of a list with its number, counted from one. -/
def numbered {α : Type} (xs : List α) : List (Int × α) :=
  xs.mapIdx fun i x => ((i : Int) + 1, x)

/-- The number of an item in a list, counted from one. -/
def numberIn {α : Type} [DecidableEq α] (xs : List α) (x : α) : Int := (xs.idxOf x : Int) + 1

/-- A table of labels, each with its number as id. -/
def labelTable (name labelColumn : String) (labels : List (Option String)) : Table :=
  { name
    columns := ["id", labelColumn]
    rows := (numbered labels).map fun p =>
      [("id", .int p.1), (labelColumn, Cell.ofLabel p.2), (rowNumber, .int p.1)] }

namespace Dataset

variable (d : Dataset)

/-- The labels that occur in a field with at most one. -/
def singleLabels (f : Field) : List (Option String) :=
  distinct ((d.jobs.filterMap fun j => j.label f).map some)

/-- The labels of all jobs in a field with several, each with the id of its job. -/
def ownedLabels (f : Field) : List (Int × Option String) :=
  d.jobs.flatMap fun j => (j.labels f).map fun l => (j.id, l)

/-- The labels that occur in a field with several. -/
def sharedLabels (f : Field) : List (Option String) := distinct ((d.ownedLabels f).map (·.2))

/-- The tables of a field. -/
def fieldTables (f : Field) : List Table :=
  let e := f.entry
  match e.shape with
  | .lookup => [labelTable e.table e.labelColumn (d.singleLabels f)]
  | .children =>
    [{ name := e.table
       columns := ["id", e.foreignKey, e.labelColumn]
       rows := (numbered (d.ownedLabels f)).map fun p =>
        [("id", .int p.1), (e.foreignKey, .int p.2.1), (e.labelColumn, Cell.ofLabel p.2.2),
          (rowNumber, .int p.1)] }]
  | .junction pairs owner =>
    [labelTable e.table e.labelColumn (d.sharedLabels f),
      { name := pairs
        columns := [owner, e.foreignKey]
        rows := (numbered (d.ownedLabels f)).map fun p =>
          [(owner, .int p.2.1), (e.foreignKey, .int (numberIn (d.sharedLabels f) p.2.2)),
            (rowNumber, .int p.1)] }]

/-- The fields with at most one label per job. -/
def lookupFields : List Field := Field.all.filter fun f => f.isMultiValued = false

/-- The plain columns of the table of jobs. -/
def jobColumns : List (String × ColumnKind) := plainColumns ++ d.conversion.columns

/-- The cell that refers to the label of a job. -/
def reference (j : Job) (f : Field) : Cell :=
  match j.label f with
  | some l => .int (numberIn (d.singleLabels f) (some l))
  | none => .null

/-- The row of a job. -/
def jobRow (j : Job) : Row :=
  ("id", .int j.id) :: lookupFields.map (fun f => (f.entry.foreignKey, d.reference j f)) ++
    d.jobColumns.map (fun c => (c.1, (j.plain.cell c.1).stored c.2)) ++
    [(rowNumber, .int j.id)]

/-- The table of jobs. -/
def jobTable : Table :=
  { name := postingTable
    columns := "id" :: lookupFields.map (fun f => f.entry.foreignKey) ++
      d.jobColumns.map (·.1)
    rows := d.jobs.map d.jobRow }

/-- The tables of a dataset. -/
def database : Database :=
  Database.without ⟨d.jobTable :: Field.all.flatMap d.fieldTables⟩ d.dropped

end Dataset

end JobSearch
