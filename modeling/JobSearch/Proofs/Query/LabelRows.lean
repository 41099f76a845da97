import JobSearch.Proofs.Query.Joins
import JobSearch.Query.Facets

/-!
# Rows of labels

To count the labels of a field, postings are joined with its tables. A posting with several labels
gives a row for each of them, one without a label no row or a row without a label. Whichever way
the labels of the field are stored, the rows are those of the postings one after the other, and
the labels in the rows of a posting are the labels that it carries
(`Database.Conforms.labelSource_rows`).

## Main definitions

* `LabelRows` — the rows of a posting under the joins of a field.
-/

namespace JobSearch

open Query

/-- Rows that show a posting with its labels in some fields and, one by one, those in a further
field. -/
structure LabelRows (db : Database) (f : Field) (others : List Field) (j : Row)
    (rows : List Joined) : Prop where
  shows : ∀ r ∈ rows, Shows db others j r
  label : ∀ r ∈ rows, (r.cell f.labelColumn).IsLabel
  carries : ∀ l, (∃ r ∈ rows, r.cell f.labelColumn = .text l) ↔ db.Carries f j l

namespace Database

variable {db : Database} {f : Field}

/-- A field with several labels has a qualifier that no joined label table has. -/
theorem qualifier_ne_of_multiValued (hf : f.isMultiValued = true) {g : Field}
    (hg : g.entry.shape = .lookup) : f.entry.qualifier ≠ g.entry.qualifier := by
  intro h
  obtain rfl := Field.qualifier_inj h
  simp [Field.isMultiValued_eq_false_iff.mpr hg] at hf

/-- The row of a posting is its only row if the field has at most one label. -/
theorem Conforms.labelRows_lookup (hdb : db.Conforms) (hf : f.entry.shape = .lookup)
    (others : List Field) (j : Row) : LabelRows db f others j [db.joined (others ++ [f]) j] := by
  have hshows := Shows.joined db (others ++ [f]) j
  have hlabel : (db.joined (others ++ [f]) j).cell f.labelColumn = db.label f j :=
    hshows.label f (by simp) hf
  refine ⟨fun r hr => ?_, fun r hr => ?_, fun l => ?_⟩
  · rw [List.mem_singleton.mp hr]
    exact hshows.mono fun g hg _ => by simp [hg]
  · rw [List.mem_singleton.mp hr, hlabel]
    exact hdb.isLabel_label f j
  · rw [Carries, mem_labels_lookup hf hdb]
    simp [hlabel]

/-- Rows of the label table in front of rows of a posting show its labels one by one. -/
theorem Conforms.labelRows_of_map (hdb : db.Conforms) (hf : f.isMultiValued = true)
    {others : List Field} {j : Row} {rows : List Joined} {found : Joined → List Row}
    (hshows : ∀ r ∈ rows, Shows db others j r)
    (hfound : ∀ r ∈ rows, ∀ row ∈ found r, row ∈ db.stored f.entry.table)
    (hlabels : (rows.flatMap fun r => (found r).map (·.cell f.entry.labelColumn)) =
      db.labels f j) :
    LabelRows db f others j
      (rows.flatMap fun r => (found r).map fun row => (f.entry.qualifier, row) :: r) := by
  have hcell : ∀ (r : Joined) (row : Row),
      Joined.cell ((f.entry.qualifier, row) :: r) f.labelColumn =
        row.cell f.entry.labelColumn := fun r row => Joined.cell_cons_self _ row r _
  refine ⟨fun s hs => ?_, fun s hs => ?_, fun l => ?_⟩
  · obtain ⟨r, hr, hs⟩ := List.mem_flatMap.mp hs
    obtain ⟨row, -, rfl⟩ := List.mem_map.mp hs
    exact (hshows r hr).cons f.qualifier_ne_posting
      (fun g _ hg => qualifier_ne_of_multiValued hf hg) row
  · obtain ⟨r, hr, hs⟩ := List.mem_flatMap.mp hs
    obtain ⟨row, hrow, rfl⟩ := List.mem_map.mp hs
    rw [hcell]
    exact hdb.labels f row (hfound r hr row hrow)
  · rw [Carries, ← hlabels]
    simp only [List.mem_flatMap, List.mem_map]
    constructor
    · rintro ⟨_, ⟨r, hr, row, hrow, rfl⟩, hl⟩
      exact ⟨r, hr, row, hrow, (hcell r row).symm.trans hl⟩
    · rintro ⟨r, hr, row, hrow, hl⟩
      exact ⟨_, ⟨r, hr, row, hrow, rfl⟩, (hcell r row).trans hl⟩

/-! ### Joining the tables of labels -/

/-- The rows of a table that belong to a posting. -/
def owned (db : Database) (table owner : String) (j : Row) : List Row :=
  (db.stored table).filter fun row => ((j.cell "id").equals (row.cell owner)).holds

/-- Further tables are joined to the rows of the postings. -/
theorem Conforms.rows_labelSource (hdb : db.Conforms) (f : Field) (others : List Field) :
    (f.labelSource others).rows db = joinAll db f.labelJoins
      (db.postings.map (db.joined (others ++ if f.isMultiValued then [] else [f]))) := by
  have h := hdb.postingSource_rows (others ++ if f.isMultiValued then [] else [f])
  simp only [Source.rows, postingSource, Field.labelSource, hdb.rowsOf_postings] at h ⊢
  rw [joinAll_append, h]

theorem Conforms.joinAll_children (hdb : db.Conforms) (hshape : f.entry.shape = .children)
    (rows : List Joined) :
    joinAll db f.labelJoins rows = .ok (rows.flatMap fun r : Joined =>
      (db.owned f.entry.table f.entry.foreignKey r.posting).map
        fun row => (f.entry.qualifier, row) :: r) := by
  simp only [Field.labelJoins, hshape, joinAll, hdb.rowsOf_labels f]
  exact congrArg (fun extend => Except.ok (rows.flatMap extend)) (funext fun r =>
    extend_owned f.entry.table _ f.qualifier_ne_posting f.entry.foreignKey r)

theorem Conforms.joinAll_junction (hdb : db.Conforms) {pairs owner : String}
    (hshape : f.entry.shape = .junction pairs owner) (rows : List Joined) :
    joinAll db f.labelJoins rows = .ok (rows.flatMap fun r : Joined =>
      ((db.owned pairs owner r.posting).map fun p => (f.pairQualifier, p) :: r).flatMap
        fun r : Joined => (db.referred f (r.cell ⟨f.pairQualifier, f.entry.foreignKey⟩)).map
          fun row => (f.entry.qualifier, row) :: r) := by
  have hpair : f.pairQualifier ≠ postingQualifier :=
    Field.ne_postingQualifier (Field.pairQualifier_mem hshape)
  simp only [Field.labelJoins, hshape, joinAll, hdb.rowsOf_labels f, hdb.rowsOf_pairs hshape]
  rw [List.flatMap_assoc]
  refine congrArg (fun extend => Except.ok (rows.flatMap extend)) (funext fun r => ?_)
  exact congr (congrArg List.flatMap (funext fun r =>
    extend_referred f f.pairQualifier_ne_qualifier.symm r))
    (extend_owned pairs _ hpair owner r)

/-- The rows in which the labels of a field are counted are those of the postings, one posting
after the other. -/
theorem Conforms.labelSource_rows (hdb : db.Conforms) (f : Field) (others : List Field) :
    ∃ rowsFor : Row → List Joined,
      (f.labelSource others).rows db = .ok (db.postings.flatMap rowsFor) ∧
      ∀ j, LabelRows db f others j (rowsFor j) := by
  have hshows := Shows.joined db others
  rw [hdb.rows_labelSource]
  cases hshape : f.entry.shape with
  | lookup =>
    refine ⟨_, ?_, hdb.labelRows_lookup hshape others⟩
    rw [Field.isMultiValued_eq_false_iff.mpr hshape, Field.labelJoins, hshape]
    exact congrArg Except.ok List.map_eq_flatMap
  | children =>
    have hmulti : f.isMultiValued = true := by simp [Field.isMultiValued, hshape]
    rw [hmulti, if_pos rfl, List.append_nil, hdb.joinAll_children hshape, List.flatMap_map]
    refine ⟨_, rfl, fun j => ?_⟩
    have h : LabelRows db f others j ([db.joined others j].flatMap fun r : Joined =>
        (db.owned f.entry.table f.entry.foreignKey r.posting).map
          fun row => (f.entry.qualifier, row) :: r) := hdb.labelRows_of_map hmulti
      (by simpa using hshows j) (fun r _ row hrow => (List.mem_filter.mp hrow).1)
      (by simp [Database.labels, hshape, owned])
    simpa using h
  | junction pairs owner =>
    have hmulti : f.isMultiValued = true := by simp [Field.isMultiValued, hshape]
    rw [hmulti, if_pos rfl, List.append_nil, hdb.joinAll_junction hshape, List.flatMap_map]
    refine ⟨_, rfl, fun j => ?_⟩
    refine hdb.labelRows_of_map hmulti (fun r hr => ?_)
      (fun r _ row hrow => mem_stored_of_mem_referred hrow) ?_
    · obtain ⟨p, -, rfl⟩ := List.mem_map.mp hr
      exact (hshows j).cons (Field.ne_postingQualifier (Field.pairQualifier_mem hshape))
        (fun g _ _ => Field.pairQualifier_ne hshape g) p
    · rw [List.flatMap_map, posting_joined]
      simp only [Joined.cell_cons_self, Database.labels, hshape, owned]

end Database

end JobSearch
