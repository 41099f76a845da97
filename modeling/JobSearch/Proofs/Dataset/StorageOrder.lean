import JobSearch.Proofs.Dataset.Stored

/-!
# Storage order

The rows of a table are stored in the order of their numbers, no two of which are equal, and the
rows of labels have integers as ids. Both hold of the tables of a dataset
(`Dataset.Storable.inStorageOrder`).

## Main definitions

* `Database.InStorageOrder` — the tables of the catalog are stored in the order of row numbers.
-/

namespace JobSearch

/-- Rows stand in the order of their numbers, and each has a number of its own. -/
def Numbered (rows : List Row) : Prop :=
  rows.Pairwise fun r s => (s.cell rowNumber).le (r.cell rowNumber) = false

/-- The tables of the catalog are stored in the order of row numbers, and labels are referred to
by integers. -/
structure Database.InStorageOrder (db : Database) : Prop where
  numbered : ∀ f : Field, ∀ name ∈ f.tables, Numbered (db.stored name)
  ids : ∀ f : Field, ∀ r ∈ db.stored f.entry.table, ∃ n, r.cell "id" = .int n

/-- Rows that are made from numbered items stand in the order of their numbers. -/
theorem numbered_map {α : Type} (xs : List α) {row : Int × α → Row}
    (hrow : ∀ p, (row p).cell rowNumber = .int p.1) : Numbered ((numbered xs).map row) := by
  have hascending : (numbered xs).Pairwise fun p q => p.1 < q.1 := by
    rw [List.pairwise_iff_getElem]
    intro i j hi hj hij
    simp only [numbered, List.getElem_mapIdx]
    omega
  rw [Numbered, List.pairwise_map]
  refine hascending.imp fun {p q} hpq => ?_
  rw [hrow, hrow, Cell.le_int]
  exact decide_eq_false (Int.not_le.mpr hpq)

namespace Dataset

variable {d : Dataset}

/-- No column of the catalog goes by the name of the row number. -/
theorem columns_ne_rowNumber (f : Field) : f.entry.labelColumn ≠ rowNumber ∧
    f.entry.foreignKey ≠ rowNumber ∧
    ∀ pairs owner, f.entry.shape = .junction pairs owner → owner ≠ rowNumber := by
  cases f <;> simp [Field.entry, Entry.lookup, Entry.children, Entry.junction, rowNumber]

theorem numbered_labelTable (f : Field) (labels : List (Option String)) :
    Numbered (labelTable f.entry.table f.entry.labelColumn labels).rows := by
  rw [rows_labelTable]
  refine numbered_map labels fun p => ?_
  simp [labelRow, Row.cell, Ordered.find?, (columns_ne_rowNumber f).1,
    show "id" ≠ rowNumber by decide]

theorem ids_labelTable (f : Field) (labels : List (Option String)) :
    ∀ r ∈ (labelTable f.entry.table f.entry.labelColumn labels).rows, ∃ n, r.cell "id" = .int n := by
  intro r hr
  rw [rows_labelTable] at hr
  obtain ⟨p, -, rfl⟩ := List.mem_map.mp hr
  exact ⟨p.1, cell_id_labelRow p⟩

/-- A dataset is stored in the order of row numbers. -/
theorem Storable.inStorageOrder (hd : d.Storable) : d.database.InStorageOrder where
  numbered f name hname := by
    obtain ⟨hlabel, hkey, howner⟩ := columns_ne_rowNumber f
    cases hf : f.entry.shape with
    | lookup =>
      obtain rfl : name = f.entry.table := by simpa [Field.tables, hf] using hname
      rw [hd.stored_lookup hf]
      exact numbered_labelTable f _
    | children =>
      obtain rfl : name = f.entry.table := by simpa [Field.tables, hf] using hname
      rw [hd.stored_children hf]
      refine numbered_map _ fun p => ?_
      simp [ownedRow, Row.cell, Ordered.find?, hlabel, hkey, show "id" ≠ rowNumber by decide]
    | junction pairs owner =>
      obtain ⟨hlabels, hpairs⟩ := hd.stored_junction hf
      have hname : name = f.entry.table ∨ name = pairs := by simpa [Field.tables, hf] using hname
      rcases hname with rfl | rfl
      · rw [hlabels]
        exact numbered_labelTable f _
      · rw [hpairs]
        refine numbered_map _ fun p => ?_
        simp [pairRow, Row.cell, Ordered.find?, hkey, howner _ _ hf]
  ids f := by
    cases hf : f.entry.shape with
    | lookup =>
      rw [hd.stored_lookup hf]
      exact ids_labelTable f _
    | children =>
      rw [hd.stored_children hf]
      intro r hr
      obtain ⟨p, -, rfl⟩ := List.mem_map.mp hr
      exact ⟨p.1, by simp [ownedRow, Row.cell, Ordered.find?]⟩
    | junction pairs owner =>
      rw [(hd.stored_junction hf).1]
      exact ids_labelTable f _

end Dataset

end JobSearch
