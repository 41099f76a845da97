import JobSearch.Dataset.Job
import JobSearch.Query.Source
import JobSearch.Proofs.Relation.Comparison
import Mathlib.Data.List.Nodup
import Mathlib.Data.List.Perm.Subperm

/-!
# Databases of postings

What a database of postings promises, and what it says of a posting. The tables of the catalog
are there; the ids of postings are integers of the storage, each once, and so are the ids of the
labels that postings refer to; the columns of labels hold text or nothing. Nothing is promised of
references: one may be absent or lead nowhere, several rows may carry one label, and pairs may
repeat. Where postings are to be read, their plain columns must also hold what they prefer.

A posting is a row of the table of postings. Its labels in a field are read off the tables of the
field as the catalog describes them, with none of the machinery of statements: this is what the
answers of statements are compared with.

## Main definitions

* `Database.Conforms`, `Database.Readable` — what a database of postings promises.
* `Database.postings`, `Database.labels` — the postings, and the labels of a posting.
* `Database.Carries` — a posting has a label.
-/

namespace JobSearch

/-- The cell is what a column of a kind holds. -/
def Cell.Suits (c : Cell) : ColumnKind → Prop
  | .real => c.IsNumeric
  | .integer => c.IsNumeric
  | .text => c.IsLabel
  | .untyped => True

/-- Rows have ids that fit the storage, each its own. -/
structure Keyed (rows : List Row) : Prop where
  ids : ∀ r ∈ rows, ∃ n, r.cell "id" = .int n ∧ (Cell.int n).fits = true
  nodup : (rows.map (·.cell "id")).Nodup

/-- The tables in which the labels of a field are stored. -/
def Field.tables (f : Field) : List String :=
  match f.entry.shape with
  | .junction pairs _ => [f.entry.table, pairs]
  | _ => [f.entry.table]

namespace Database

/-- The rows of a table, none if there is no such table. -/
def stored (db : Database) (name : String) : List Row :=
  match db.table? name with
  | some t => t.rows
  | none => []

/-- The postings. -/
def postings (db : Database) : List Row := db.stored postingTable

/-- What a database of postings promises. -/
structure Conforms (db : Database) : Prop where
  hasPostings : (db.table? postingTable).isSome = true
  hasTables : ∀ f : Field, ∀ name ∈ f.tables, (db.table? name).isSome = true
  postings : Keyed db.postings
  lookups : ∀ f : Field, f.entry.shape = .lookup → Keyed (db.stored f.entry.table)
  labels : ∀ f : Field, ∀ r ∈ db.stored f.entry.table, (r.cell f.entry.labelColumn).IsLabel

/-- The plain columns of postings hold what they prefer. -/
structure Readable (db : Database) : Prop extends Conforms db where
  columns : ∀ j ∈ db.postings, ∀ c ∈ plainColumns ++ (Conversion.mk true true).columns,
    (j.cell c.1).Suits c.2

/-- The rows of a label table that a cell refers to. -/
def referred (db : Database) (f : Field) (reference : Cell) : List Row :=
  (db.stored f.entry.table).filter fun r => (reference.equals (r.cell "id")).holds

/-- The labels of a posting in a field, in storage order; some may be absent or repeated. -/
def labels (db : Database) (f : Field) (j : Row) : List Cell :=
  let e := f.entry
  match e.shape with
  | .lookup => (db.referred f (j.cell e.foreignKey)).map (·.cell e.labelColumn)
  | .children =>
    ((db.stored e.table).filter fun r => ((j.cell "id").equals (r.cell e.foreignKey)).holds).map
      (·.cell e.labelColumn)
  | .junction pairs owner =>
    ((db.stored pairs).filter fun p => ((j.cell "id").equals (p.cell owner)).holds).flatMap
      fun p => (db.referred f (p.cell e.foreignKey)).map (·.cell e.labelColumn)

/-- A posting has a label in a field. -/
def Carries (db : Database) (f : Field) (j : Row) (l : String) : Prop :=
  .text l ∈ db.labels f j

instance (db : Database) (f : Field) (j : Row) (l : String) : Decidable (db.Carries f j l) :=
  inferInstanceAs (Decidable (_ ∈ _))

/-- The id of a posting. -/
def idOf (j : Row) : Int :=
  match j.cell "id" with
  | .int n => n
  | _ => 0

end Database

/-! ### Ids -/

namespace Keyed

variable {rows : List Row}

theorem cell_id (h : Keyed rows) {r : Row} (hr : r ∈ rows) :
    r.cell "id" = .int (Database.idOf r) := by
  obtain ⟨n, hn, -⟩ := h.ids r hr
  rw [Database.idOf, hn]

theorem fits_id (h : Keyed rows) {r : Row} (hr : r ∈ rows) :
    (Cell.int (Database.idOf r)).fits = true := by
  obtain ⟨n, hn, hfit⟩ := h.ids r hr
  rw [Database.idOf, hn]
  exact hfit

theorem nodup_rows (h : Keyed rows) : rows.Nodup := List.Nodup.of_map _ h.nodup

/-- Rows with one id are one row. -/
theorem eq_of_idOf_eq (h : Keyed rows) {r s : Row} (hr : r ∈ rows) (hs : s ∈ rows)
    (he : Database.idOf r = Database.idOf s) : r = s := by
  refine List.inj_on_of_nodup_map h.nodup hr hs ?_
  rw [h.cell_id hr, h.cell_id hs, he]

/-- A cell refers to at most one row. -/
theorem filter_equals_length (h : Keyed rows) (x : Cell) :
    (rows.filter fun r => (x.equals (r.cell "id")).holds).length ≤ 1 := by
  have hn := h.nodup_rows.filter fun r => (x.equals (r.cell "id")).holds
  have heq : ∀ r ∈ rows.filter (fun r => (x.equals (r.cell "id")).holds),
      r ∈ rows ∧ x.key = (Cell.int (Database.idOf r)).key := by
    intro r hr
    obtain ⟨hr, hx⟩ := List.mem_filter.mp hr
    rw [h.cell_id hr] at hx
    exact ⟨hr, (Cell.holds_equals_int x _).mp hx⟩
  generalize rows.filter (fun r => (x.equals (r.cell "id")).holds) = found at hn heq
  rcases found with _ | ⟨r, _ | ⟨s, rest⟩⟩
  · simp
  · simp
  · obtain ⟨hr, hxr⟩ := heq r (by simp)
    obtain ⟨hs, hxs⟩ := heq s (by simp)
    have he : r = s := h.eq_of_idOf_eq hr hs (Cell.key_int_inj (hxr.symm.trans hxs))
    simp [he] at hn

/-- There are no more rows than ids. -/
theorem length_le (h : Keyed rows) : rows.length ≤ Number.twoTo 64 := by
  have hbounds : ∀ r ∈ rows, -(Number.twoTo 63 : Int) ≤ Database.idOf r ∧
      Database.idOf r < Number.twoTo 63 := by
    intro r hr
    have hfit := h.fits_id hr
    rw [Cell.fits, Bool.and_eq_true] at hfit
    exact ⟨of_decide_eq_true hfit.1, of_decide_eq_true hfit.2⟩
  have hdouble : Number.twoTo 64 = Number.twoTo 63 + Number.twoTo 63 := by decide
  have hn : (rows.map fun r => (Database.idOf r + Number.twoTo 63).toNat).Nodup := by
    refine List.Nodup.map_on (fun r hr s hs he => h.eq_of_idOf_eq hr hs ?_) h.nodup_rows
    have hr := hbounds r hr
    have hs := hbounds s hs
    omega
  have hsub : ∀ n ∈ rows.map (fun r => (Database.idOf r + Number.twoTo 63).toNat),
      n ∈ List.range (Number.twoTo 64) := by
    intro n hmem
    obtain ⟨r, hr, rfl⟩ := List.mem_map.mp hmem
    have hr := hbounds r hr
    exact List.mem_range.mpr (by omega)
  simpa using (List.subperm_of_subset hn hsub).length_le

end Keyed

/-! ### What is stored -/

namespace Database

variable {db : Database}

theorem rowsOf_eq_stored {name : String} (h : (db.table? name).isSome = true) :
    Query.rowsOf db name = .ok (db.stored name) := by
  obtain ⟨t, ht⟩ := Option.isSome_iff_exists.mp h
  rw [Query.rowsOf, stored, ht]

theorem mem_stored_of_mem_referred {f : Field} {x : Cell} {r : Row} (h : r ∈ db.referred f x) :
    r ∈ db.stored f.entry.table :=
  (List.mem_filter.mp h).1

namespace Conforms

variable (hdb : db.Conforms)
include hdb

theorem cell_id {j : Row} (hj : j ∈ db.postings) : j.cell "id" = .int (idOf j) :=
  hdb.postings.cell_id hj

theorem rowsOf_postings : Query.rowsOf db postingTable = .ok db.postings :=
  rowsOf_eq_stored hdb.hasPostings

theorem rowsOf_labels (f : Field) : Query.rowsOf db f.entry.table = .ok (db.stored f.entry.table) :=
  rowsOf_eq_stored (hdb.hasTables f _ (by rw [Field.tables]; split <;> simp))

theorem rowsOf_pairs {f : Field} {pairs owner : String}
    (h : f.entry.shape = .junction pairs owner) :
    Query.rowsOf db pairs = .ok (db.stored pairs) :=
  rowsOf_eq_stored (hdb.hasTables f _ (by simp [Field.tables, h]))

/-- Every label is text or absent. -/
theorem isLabel_of_mem_labels {f : Field} {j : Row} {c : Cell} (h : c ∈ db.labels f j) :
    c.IsLabel := by
  rw [Database.labels] at h
  split at h
  · obtain ⟨r, hr, rfl⟩ := List.mem_map.mp h
    exact hdb.labels f r (mem_stored_of_mem_referred hr)
  · obtain ⟨r, hr, rfl⟩ := List.mem_map.mp h
    exact hdb.labels f r (List.mem_filter.mp hr).1
  · obtain ⟨p, -, hp⟩ := List.mem_flatMap.mp h
    obtain ⟨r, hr, rfl⟩ := List.mem_map.mp hp
    exact hdb.labels f r (mem_stored_of_mem_referred hr)

/-- A posting has at most one label in a field that refers to a row of a table. -/
theorem labels_length {f : Field} (hf : f.entry.shape = .lookup) (j : Row) :
    (db.labels f j).length ≤ 1 := by
  rw [Database.labels, hf]
  simpa [referred] using (hdb.lookups f hf).filter_equals_length (j.cell f.entry.foreignKey)

end Conforms

end Database

end JobSearch
