import JobSearch.Dataset.Storage
import JobSearch.Proofs.Dataset.Schema

/-!
# Tables of labels

The labels of a table are numbered from one, and their numbers are the ids of its rows, so each row
has an id of its own (`keyed_labelTable`).
-/

namespace JobSearch

/-! ### Numbering -/

section numbering

variable {α : Type} {xs : List α}

/-- Numbers are positive, and there are no more than items. -/
theorem number_le {p : Int × α} (h : p ∈ numbered xs) : 0 < p.1 ∧ p.1 ≤ xs.length := by
  obtain ⟨i, hi, rfl⟩ := List.mem_mapIdx.mp h
  constructor
  · show (0 : Int) < i + 1
    omega
  · show (i : Int) + 1 ≤ xs.length
    omega

/-- Every item has a number of its own. -/
theorem nodup_numbers (xs : List α) : ((numbered xs).map (·.1)).Nodup := by
  have hnumbers : (numbered xs).map (·.1) =
      (List.range xs.length).map fun i : Nat => (i : Int) + 1 := by
    refine List.ext_getElem (by simp [numbered]) fun i _ _ => ?_
    simp [numbered]
  rw [hnumbers]
  exact List.nodup_range.map fun i j h => by
    have : (i : Int) + 1 = j + 1 := h
    omega

end numbering

/-! ### Rows of labels -/

/-- The row of a label and its number. -/
def labelRow (labelColumn : String) (p : Int × Option String) : Row :=
  [("id", .int p.1), (labelColumn, Cell.ofLabel p.2), (rowNumber, .int p.1)]

theorem rows_labelTable (name labelColumn : String) (labels : List (Option String)) :
    (labelTable name labelColumn labels).rows = (numbered labels).map (labelRow labelColumn) :=
  rfl

theorem Cell.isLabel_ofLabel (l : Option String) : (Cell.ofLabel l).IsLabel := by
  cases l with
  | none => exact isLabel_null
  | some s => exact isLabel_text s

section labelRow

variable {column : String} (hcolumn : column ≠ "id") (p : Int × Option String)

theorem cell_id_labelRow : (labelRow column p).cell "id" = .int p.1 := by
  simp [labelRow, Row.cell, Ordered.find?]

include hcolumn in
theorem cell_label_labelRow : (labelRow column p).cell column = Cell.ofLabel p.2 := by
  simp [labelRow, Row.cell, Ordered.find?, hcolumn.symm]

end labelRow

/-- A number that fits the storage if there are not too many items. -/
theorem fits_number {α : Type} {xs : List α} (hlt : xs.length < Number.twoTo 63)
    {p : Int × α} (hp : p ∈ numbered xs) : (Cell.int p.1).fits = true := by
  obtain ⟨hpos, hle⟩ := number_le hp
  rw [Cell.fits, Bool.and_eq_true, decide_eq_true_iff, decide_eq_true_iff]
  omega

/-- The rows of a table of labels have ids of their own. -/
theorem keyed_labelTable (name column : String) {labels : List (Option String)}
    (hlt : labels.length < Number.twoTo 63) : Keyed (labelTable name column labels).rows := by
  rw [rows_labelTable]
  refine ⟨fun r hr => ?_, ?_⟩
  · obtain ⟨p, hp, rfl⟩ := List.mem_map.mp hr
    exact ⟨p.1, cell_id_labelRow p, fits_number hlt hp⟩
  · rw [List.map_map]
    have hids : ((·.cell "id") ∘ labelRow column) = Cell.int ∘ fun p => p.1 :=
      funext fun p => cell_id_labelRow p
    rw [hids, ← List.map_map]
    exact (nodup_numbers labels).map fun _ _ h => by injection h

end JobSearch
