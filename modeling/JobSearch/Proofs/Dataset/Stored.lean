import JobSearch.Proofs.Dataset.Numbering
import JobSearch.Proofs.Grouping
import JobSearch.Proofs.Ordered

/-!
# Stored datasets

Jobs with ids of their own are stored in a database that conforms (`Dataset.Storable.conforms`),
and if their plain columns are given what they prefer then its postings can be read
(`Dataset.Storable.readable`).

## Main definitions

* `Dataset.Storable`, `Dataset.Typed` — a dataset that is stored as it is.
-/

namespace JobSearch

open Number

/-- A dataset that is stored as it is. Ids fit the storage, no two jobs share one, and no table is
removed. -/
structure Dataset.Storable (d : Dataset) : Prop where
  ids : ∀ j ∈ d.jobs, (Cell.int j.id).fits = true
  nodup : (d.jobs.map (·.id)).Nodup
  few : d.jobs.length < twoTo 63
  whole : d.dropped = []

/-- The plain columns of jobs are given what they prefer. -/
def Dataset.Typed (d : Dataset) : Prop :=
  ∀ j ∈ d.jobs, ∀ c ∈ d.jobColumns, ((j.plain.cell c.1).stored c.2).Suits c.2

theorem Cell.suits_null (kind : ColumnKind) : Cell.null.Suits kind := by
  cases kind
  · exact Or.inl rfl
  · exact Or.inl rfl
  · exact Cell.isLabel_null
  · trivial

/-- A cell of a row whose columns are distinct. -/
theorem Row.cell_eq_of_mem {r : Row} (hn : (r.map (·.1)).Nodup) {column : String} {c : Cell}
    (h : (column, c) ∈ r) : r.cell column = c := by
  rw [Row.cell, (Ordered.find?_eq_some_iff hn).mpr h]
  rfl

/-! ### Names of tables and columns -/

theorem Field.nodup_tables : (postingTable :: Field.all.flatMap Field.tables).Nodup := by
  decide +kernel

theorem Field.labelColumn_ne_id (f : Field) : f.entry.labelColumn ≠ "id" := by
  cases f <;> decide

theorem Field.foreignKey_ne_labelColumn (f : Field) :
    f.entry.foreignKey ≠ f.entry.labelColumn := by
  cases f <;> decide

/-- The columns of the row of a job. -/
def Conversion.rowColumns (v : Conversion) : List String :=
  "id" :: Dataset.lookupFields.map (fun f => f.entry.foreignKey) ++
    (plainColumns ++ v.columns).map (·.1) ++ [rowNumber]

theorem Conversion.nodup_rowColumns (v : Conversion) : v.rowColumns.Nodup := by
  have h : ∀ a b : Bool, (Conversion.mk a b).rowColumns.Nodup := by decide +kernel
  exact h v.hasMin v.hasMax

/-- A column of converted salaries that a dataset does not have is not found in its rows. -/
theorem Conversion.mem_columns_or_not_mem (v : Conversion) {c : String × ColumnKind}
    (hc : c ∈ plainColumns ++ (Conversion.mk true true).columns) :
    c ∈ plainColumns ++ v.columns ∨ c.1 ∉ v.rowColumns := by
  have h : ∀ a b : Bool, ∀ c ∈ plainColumns ++ (Conversion.mk true true).columns,
      c ∈ plainColumns ++ (Conversion.mk a b).columns ∨ c.1 ∉ (Conversion.mk a b).rowColumns := by
    decide +kernel
  exact h v.hasMin v.hasMax c hc

/-! ### Rows of jobs -/

namespace Dataset

variable {d : Dataset} {j : Job} {f : Field}

theorem map_fst_jobRow (d : Dataset) (j : Job) :
    (d.jobRow j).map (·.1) = d.conversion.rowColumns := by
  simp [jobRow, jobColumns, Conversion.rowColumns, Function.comp_def]

theorem nodup_jobRow (d : Dataset) (j : Job) : ((d.jobRow j).map (·.1)).Nodup := by
  rw [map_fst_jobRow]
  exact d.conversion.nodup_rowColumns

theorem cell_id_jobRow (d : Dataset) (j : Job) : (d.jobRow j).cell "id" = .int j.id :=
  Row.cell_eq_of_mem (d.nodup_jobRow j) (by simp [jobRow])

theorem cell_column_jobRow (d : Dataset) (j : Job) {c : String × ColumnKind}
    (hc : c ∈ d.jobColumns) : (d.jobRow j).cell c.1 = (j.plain.cell c.1).stored c.2 := by
  refine Row.cell_eq_of_mem (d.nodup_jobRow j) ?_
  simp only [jobRow, List.mem_append, List.mem_cons, List.mem_map]
  exact Or.inl (Or.inr ⟨c, hc, rfl⟩)

/-- The plain columns of the row of a job hold what they prefer. -/
theorem Typed.suits_jobRow (ht : d.Typed) (hj : j ∈ d.jobs) {c : String × ColumnKind}
    (hc : c ∈ plainColumns ++ (Conversion.mk true true).columns) :
    ((d.jobRow j).cell c.1).Suits c.2 := by
  rcases d.conversion.mem_columns_or_not_mem hc with hmem | habsent
  · rw [d.cell_column_jobRow j hmem]
    exact ht j hj c hmem
  · have hnone : Ordered.find? c.1 (d.jobRow j) = none := by
      refine Ordered.find?_eq_none_iff.mpr fun p hp he => habsent ?_
      rw [← he, ← map_fst_jobRow d j]
      exact List.mem_map_of_mem hp
    rw [Row.cell, hnone]
    exact Cell.suits_null c.2

/-! ### Tables -/

theorem fieldTables_names (d : Dataset) (f : Field) :
    (d.fieldTables f).map (·.name) = f.tables := by
  cases h : f.entry.shape <;> simp [fieldTables, Field.tables, h, labelTable]

/-- The rows of a table of a dataset are found under its name. -/
theorem Storable.table?_name (hd : d.Storable) {t : Table}
    (ht : t ∈ d.jobTable :: Field.all.flatMap d.fieldTables) :
    d.database.table? t.name = some t := by
  have hnames : ((d.jobTable :: Field.all.flatMap d.fieldTables).map (·.name)).Nodup := by
    rw [List.map_cons, List.map_flatMap]
    simp only [fieldTables_names]
    exact Field.nodup_tables
  have htables : d.database.tables = d.jobTable :: Field.all.flatMap d.fieldTables := by
    simp [database, Database.without, hd.whole]
  rw [Database.table?, htables]
  cases hfind : (d.jobTable :: Field.all.flatMap d.fieldTables).find? (·.name == t.name) with
  | none => exact absurd (List.find?_eq_none.mp hfind t ht) (by simp)
  | some u =>
    have hu : u.name = t.name := by simpa using List.find?_some hfind
    rw [List.inj_on_of_nodup_map hnames (List.mem_of_find?_eq_some hfind) ht hu]

theorem Storable.stored_name (hd : d.Storable) {t : Table}
    (ht : t ∈ d.jobTable :: Field.all.flatMap d.fieldTables) :
    d.database.stored t.name = t.rows := by
  rw [Database.stored, hd.table?_name ht]

theorem Storable.postings (hd : d.Storable) : d.database.postings = d.jobs.map d.jobRow :=
  hd.stored_name List.mem_cons_self

theorem Storable.stored_fieldTable (hd : d.Storable) {t : Table} (ht : t ∈ d.fieldTables f) :
    d.database.stored t.name = t.rows :=
  hd.stored_name (List.mem_cons_of_mem _ (List.mem_flatMap.mpr ⟨f, f.mem_all, ht⟩))

theorem Storable.stored_lookup (hd : d.Storable) (hf : f.entry.shape = .lookup) :
    d.database.stored f.entry.table =
      (labelTable f.entry.table f.entry.labelColumn (d.singleLabels f)).rows := by
  have ht : labelTable f.entry.table f.entry.labelColumn (d.singleLabels f) ∈
      d.fieldTables f := by
    simp [fieldTables, hf]
  exact hd.stored_fieldTable ht

/-- The row of a label that refers to a job. -/
def ownedRow (f : Field) (p : Int × Int × Option String) : Row :=
  [("id", .int p.1), (f.entry.foreignKey, .int p.2.1),
    (f.entry.labelColumn, Cell.ofLabel p.2.2), (rowNumber, .int p.1)]

theorem Storable.stored_children (hd : d.Storable) (hf : f.entry.shape = .children) :
    d.database.stored f.entry.table = (numbered (d.ownedLabels f)).map (ownedRow f) := by
  have ht : Table.mk f.entry.table ["id", f.entry.foreignKey, f.entry.labelColumn]
      ((numbered (d.ownedLabels f)).map (ownedRow f)) ∈ d.fieldTables f := by
    simp only [fieldTables, hf, List.mem_singleton]
    rfl
  exact hd.stored_fieldTable ht

/-- The row that connects a job with one of some labels. -/
def pairRow (labels : List (Option String)) (f : Field) (owner : String)
    (p : Int × Int × Option String) : Row :=
  [(owner, .int p.2.1), (f.entry.foreignKey, .int (numberIn labels p.2.2)),
    (rowNumber, .int p.1)]

theorem Storable.stored_junction (hd : d.Storable) {pairs owner : String}
    (hf : f.entry.shape = .junction pairs owner) :
    d.database.stored f.entry.table =
        (labelTable f.entry.table f.entry.labelColumn (d.sharedLabels f)).rows ∧
      d.database.stored pairs =
        (numbered (d.ownedLabels f)).map (pairRow (d.sharedLabels f) f owner) := by
  have hlabels : labelTable f.entry.table f.entry.labelColumn (d.sharedLabels f) ∈
      d.fieldTables f := by
    simp [fieldTables, hf]
  have hpairs : Table.mk pairs [owner, f.entry.foreignKey]
      ((numbered (d.ownedLabels f)).map (pairRow (d.sharedLabels f) f owner)) ∈
        d.fieldTables f := by
    simp only [fieldTables, hf, List.mem_cons, List.not_mem_nil, or_false]
    exact Or.inr rfl
  exact ⟨hd.stored_fieldTable hlabels, hd.stored_fieldTable hpairs⟩

/-! ### The database of a dataset -/

theorem singleLabels_length (d : Dataset) (f : Field) :
    (d.singleLabels f).length ≤ d.jobs.length := by
  have hsub : (d.singleLabels f).Subperm ((d.jobs.filterMap fun j => j.label f).map some) :=
    List.subperm_of_subset (nodup_distinct _) fun _ h => mem_distinct.mp h
  refine Nat.le_trans hsub.length_le ?_
  rw [List.length_map]
  exact List.length_filterMap_le _ _

theorem cell_label_ownedRow (f : Field) (p : Int × Int × Option String) :
    (ownedRow f p).cell f.entry.labelColumn = Cell.ofLabel p.2.2 := by
  simp [ownedRow, Row.cell, Ordered.find?, f.labelColumn_ne_id.symm, f.foreignKey_ne_labelColumn]

/-- What is stored in a column of labels is text or nothing. -/
theorem Storable.isLabel_stored (hd : d.Storable) (f : Field) {r : Row}
    (hr : r ∈ d.database.stored f.entry.table) : (r.cell f.entry.labelColumn).IsLabel := by
  have hlabelled : ∀ labels : List (Option String),
      r ∈ (labelTable f.entry.table f.entry.labelColumn labels).rows →
        (r.cell f.entry.labelColumn).IsLabel := by
    intro labels hr
    obtain ⟨p, -, rfl⟩ := List.mem_map.mp (rows_labelTable _ _ labels ▸ hr)
    rw [cell_label_labelRow f.labelColumn_ne_id]
    exact Cell.isLabel_ofLabel p.2
  cases hf : f.entry.shape with
  | lookup => exact hlabelled _ (hd.stored_lookup hf ▸ hr)
  | children =>
    rw [hd.stored_children hf] at hr
    obtain ⟨p, -, rfl⟩ := List.mem_map.mp hr
    rw [cell_label_ownedRow]
    exact Cell.isLabel_ofLabel p.2.2
  | junction pairs owner => exact hlabelled _ ((hd.stored_junction hf).1 ▸ hr)

/-- A dataset is stored in a database that conforms. -/
theorem Storable.conforms (hd : d.Storable) : d.database.Conforms where
  hasPostings := by
    rw [show postingTable = d.jobTable.name from rfl, hd.table?_name List.mem_cons_self]
    rfl
  hasTables f name hname := by
    rw [← d.fieldTables_names f] at hname
    obtain ⟨t, ht, rfl⟩ := List.mem_map.mp hname
    rw [hd.table?_name (List.mem_cons_of_mem _ (List.mem_flatMap.mpr ⟨f, f.mem_all, ht⟩))]
    rfl
  postings := by
    rw [hd.postings]
    refine ⟨fun r hr => ?_, ?_⟩
    · obtain ⟨j, hj, rfl⟩ := List.mem_map.mp hr
      exact ⟨j.id, d.cell_id_jobRow j, hd.ids j hj⟩
    · have hids : ((·.cell "id") ∘ d.jobRow) = Cell.int ∘ Job.id :=
        funext fun j => d.cell_id_jobRow j
      rw [List.map_map, hids, ← List.map_map]
      exact hd.nodup.map fun _ _ h => by injection h
  lookups f hf := by
    rw [hd.stored_lookup hf]
    exact keyed_labelTable _ _ (Nat.lt_of_le_of_lt (d.singleLabels_length f) hd.few)
  labels f _ hr := hd.isLabel_stored f hr

theorem Storable.readable (hd : d.Storable) (ht : d.Typed) : d.database.Readable where
  toConforms := hd.conforms
  columns r hr c hc := by
    rw [hd.postings] at hr
    obtain ⟨j, hj, rfl⟩ := List.mem_map.mp hr
    exact ht.suits_jobRow hj hc

/-! ### A small dataset -/

/-- A job with a title, a city and skills. -/
def welder (id : Int) (title : String) (city : Option String)
    (skills : List (Option String)) : Job where
  id
  plain := [("job_title", .text title)]
  label f := if f = .city then city else none
  labels f := if f = .hardSkills then skills else []

/-- Three jobs, two of them in one city; a skill is repeated and one is absent. -/
def sample : Dataset where
  jobs := [welder 7 "Welder" (some "Oslo") [some "welding", none, some "welding", some "cutting"],
    welder 3 "Pipe welder" (some "Bergen") [some "welding"],
    welder 5 "Fitter" (some "Oslo") [some "welding"]]
  conversion := ⟨false, false⟩
  dropped := []

theorem storable_sample : sample.Storable where
  ids := by decide
  nodup := by decide
  few := by decide
  whole := rfl

theorem typed_sample : sample.Typed := by
  simp [Typed, sample, welder, jobColumns, plainColumns, Conversion.columns, Row.cell,
    Ordered.find?, Cell.stored, Cell.isNull, Cell.key, Cell.Suits, Cell.IsNumeric, Cell.IsLabel]

end Dataset

end JobSearch
