import JobSearch.Proofs.Matching.Statements

/-!
# The order of postings

Postings are listed by the cell that an order sorts by, in its direction, and postings with equal
cells by ascending id. Whatever labels a page shows besides, its lines are the postings that match
in that order (`Database.Conforms.lines_slice`).

## Main definitions

* `Database.sortCell` — what a posting is sorted by.
* `Database.Precedes` — a posting stands before another one.
* `Database.listed` — the postings that match, in order.
-/

namespace JobSearch

open Query

namespace Database

variable {db : Database}

/-- The cell of a posting that an order sorts by. -/
def sortCell (db : Database) (s : SortChoice) (j : Row) : Cell :=
  match s.field? with
  | some f => db.label f j
  | none => j.cell s.postingColumn

/-- A posting stands before another one: its cell comes first, where nothing comes before all
numbers and these before all text, and of two equal cells that of the smaller id. -/
def Precedes (db : Database) (s : SortChoice) (i j : Row) : Prop :=
  (if s.isDescending then (db.sortCell s j).le (db.sortCell s i)
    else (db.sortCell s i).le (db.sortCell s j)) = true ∧
  ((db.sortCell s i).same (db.sortCell s j) = true → idOf i < idOf j)

/-- Postings without a cell to sort by come first in ascending order and last in descending
order. -/
theorem Precedes.isNull {s : SortChoice} {i j : Row} (h : db.Precedes s i j) :
    if s.isDescending then (db.sortCell s i).isNull = true → (db.sortCell s j).isNull = true
    else (db.sortCell s j).isNull = true → (db.sortCell s i).isNull = true := by
  have hnull : ∀ a b : Cell, a.le b = true → b.isNull = true → a.isNull = true := by
    intro a b hle hb
    simp only [Cell.isNull, beq_iff_eq] at hb ⊢
    rw [Cell.le, hb] at hle
    cases hk : a.key <;> simp [hk, Cell.Key.le] at hle ⊢
  split
  · next hdesc => exact hnull _ _ (by simpa [hdesc] using h.1)
  · next hasc => exact hnull _ _ (by simpa [hasc] using h.1)

/-- Whether a posting may stand before another one. -/
def before (db : Database) (s : SortChoice) (i j : Row) : Bool :=
  inOrder [s.direction, .ascending] [db.sortCell s i, i.cell "id"] [db.sortCell s j, j.cell "id"]

/-- The postings that match criteria and search text, in an order. -/
def listed (db : Database) (c : Criteria) (search : String) (policy : Policy) (s : SortChoice) :
    List Row :=
  (db.matching c search policy).mergeSort (db.before s)

theorem listed_perm (c : Criteria) (search : String) (policy : Policy) (s : SortChoice) :
    (db.listed c search policy s).Perm (db.matching c search policy) :=
  List.mergeSort_perm _ _

theorem mem_postings_of_mem_listed {c : Criteria} {search : String} {policy : Policy}
    {s : SortChoice} {j : Row} (h : j ∈ db.listed c search policy s) : j ∈ db.postings :=
  (List.mem_filter.mp ((db.listed_perm c search policy s).mem_iff.mp h)).1

/-- An order is by a column of the posting or by the label of a field with at most one. -/
theorem shape_of_sort : ∀ s : SortChoice, ∀ f ∈ s.field?, f.entry.shape = .lookup := by
  intro s
  cases s <;> decide

section slice

variable {c : Criteria} {search : String} {policy : Policy} {p : Predicate} {s : SortChoice}
  {converted : Bool} {limit offset : Int} {fields : List Field}

/-- The values by which a slice is ordered are those of the posting. -/
theorem order_slice (hfields : ∀ f ∈ s.field?, f ∈ fields) (j : Row) :
    (Statement.slice p s converted limit offset).order.map
        (fun t => t.key.value (Statement.slice p s converted limit offset).outputs
          [db.joined fields j]) =
      [db.sortCell s j, j.cell "id"] := by
  have hshows := Shows.joined db fields j
  have hsort : (db.joined fields j).cell s.column = db.sortCell s j := by
    rw [SortChoice.column, sortCell]
    cases hf : s.field? with
    | none => exact hshows.cell s.postingColumn
    | some f => exact hshows.label f (hfields f hf) (shape_of_sort s f hf)
  have hid : (db.joined fields j).cell postingId = j.cell "id" := hshows.cell "id"
  show [(db.joined fields j).cell s.column, (db.joined fields j).cell postingId] = _
  rw [hsort, hid]

theorem before_slice (hfields : ∀ f ∈ s.field?, f ∈ fields) (i j : Row) :
    (Statement.slice p s converted limit offset).before [db.joined fields i]
        [db.joined fields j] = db.before s i j := by
  rw [Statement.before, order_slice hfields, order_slice hfields]
  rfl

/-- The lines of a slice are the postings in order, a row for each. -/
theorem lines_slice (hfields : ∀ f ∈ s.field?, f ∈ fields) (js : List Row) :
    (Statement.slice p s converted limit offset).lines (js.map (db.joined fields)) =
      (js.mergeSort (db.before s)).map fun j => [db.joined fields j] := by
  rw [Statement.lines_eq_mergeSort,
    List.map_mergeSort (s := (Statement.slice p s converted limit offset).before)
      fun i _ j _ => (before_slice hfields i j).symm]
  show ((js.map (db.joined fields)).map fun r => [r]).mergeSort _ = _
  rw [List.map_map]
  rfl

end slice

/-- Being before is an order, as that of a slice is. -/
theorem pairwise_mergeSort_before (db : Database) (s : SortChoice) (js : List Row) :
    (js.mergeSort (db.before s)).Pairwise fun i j => db.before s i j = true := by
  have heq : ∀ i j, db.before s i j = (Statement.slice .trivial s false 0 0).before
      [db.joined s.field?.toList i] [db.joined s.field?.toList j] := fun i j =>
    (before_slice (fun f hf => by simpa using hf) i j).symm
  refine List.pairwise_mergeSort (fun i j k hij hjk => ?_) (fun i j => ?_) js
  · rw [heq] at hij hjk ⊢
    exact Statement.before_trans _ _ _ _ hij hjk
  · rw [heq, heq]
    exact Statement.before_total _ _ _

theorem le_direction (s : SortChoice) (a b : Cell) :
    s.direction.le a b = if s.isDescending then b.le a else a.le b := by
  rw [SortChoice.direction]
  split <;> rfl

/-- Of two postings in order the first one precedes the other, unless they are one posting. -/
theorem Conforms.precedes_of_before (hdb : db.Conforms) (s : SortChoice) {i j : Row}
    (hi : i ∈ db.postings) (hj : j ∈ db.postings) (hne : i ≠ j) (h : db.before s i j = true) :
    db.Precedes s i j := by
  have hid : Direction.ascending.le (.int (idOf i)) (.int (idOf j)) = decide (idOf i ≤ idOf j) :=
    Cell.le_int _ _
  rw [before, inOrder_cons, inOrder_cons, hdb.cell_id hi, hdb.cell_id hj, hid, Bool.and_eq_true,
    Bool.or_eq_true, Bool.and_eq_true, decide_eq_true_iff, Bool.not_eq_true'] at h
  refine ⟨le_direction s _ _ ▸ h.1, fun hsame => ?_⟩
  have hback : s.direction.le (db.sortCell s j) (db.sortCell s i) = true := by
    have hkey : (db.sortCell s i).key = (db.sortCell s j).key := by simpa [Cell.same] using hsame
    have ht := s.direction.le_total (db.sortCell s i) (db.sortCell s j)
    rw [le_direction, le_direction, Cell.le, Cell.le, hkey] at ht
    rw [le_direction, Cell.le, Cell.le, hkey]
    simpa using ht
  have hle : idOf i ≤ idOf j := by
    rcases h.2 with h | h
    · rw [hback] at h
      cases h
    · exact h.1
  have hidne : idOf i ≠ idOf j := fun he => hne (hdb.postings.eq_of_idOf_eq hi hj he)
  omega

theorem Conforms.nodup_listed (hdb : db.Conforms) (c : Criteria) (search : String)
    (policy : Policy) (s : SortChoice) : (db.listed c search policy s).Nodup :=
  (listed_perm c search policy s).nodup_iff.mpr (hdb.postings.nodup_rows.filter _)

/-- The postings that match are listed in order. -/
theorem Conforms.listed_pairwise (hdb : db.Conforms) (c : Criteria) (search : String)
    (policy : Policy) (s : SortChoice) :
    (db.listed c search policy s).Pairwise (db.Precedes s) := by
  have hpairs := (pairwise_mergeSort_before db s (db.matching c search policy)).and
    (hdb.nodup_listed c search policy s)
  refine hpairs.imp_of_mem fun hi hj h => ?_
  exact hdb.precedes_of_before s (mem_postings_of_mem_listed hi) (mem_postings_of_mem_listed hj)
    h.2 h.1

end Database

end JobSearch
