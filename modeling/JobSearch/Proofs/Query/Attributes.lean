import JobSearch.Proofs.Matching.Statements
import JobSearch.Proofs.Sorting
import JobSearch.Query.Attributes

/-!
# The labels that a statement tells of some postings

The statement about the labels of some postings keeps the rows that belong to one of them, and
sorts them by their owners and then by storage (`Database.Conforms.run_attributesOf`). Since
sorting is stable, the rows of one posting stand in the same order however many other postings are
asked for with it (`Database.filter_attributeRows`).

## Main definitions

* `Database.ownerRows` — the rows from which the labels of a field are read.
* `Database.attributeRows` — those that belong to one of some postings, in order.
-/

namespace JobSearch

open Query

/-- The labels of a field are read from rows that belong to the posting with an id. -/
def Field.belongs (f : Field) (id : Int) (r : Joined) : Bool :=
  decide ((r.cell f.ownerSource.1).key = (Cell.int id).key)

/-- The order in which the labels of a field are read. -/
def Field.readBefore (f : Field) (r s : Joined) : Bool :=
  (Statement.attributesOf f []).before [r] [s]

theorem Field.readBefore_total (f : Field) (r s : Joined) :
    (f.readBefore r s || f.readBefore s r) = true :=
  Statement.before_total _ _ _

theorem Field.readBefore_trans (f : Field) (r s t : Joined) (hrs : f.readBefore r s = true)
    (hst : f.readBefore s t = true) : f.readBefore r t = true :=
  Statement.before_trans _ _ _ _ hrs hst

/-- The condition that a column holds one of some ids has no inner statement, and the ids are its
values. -/
theorem carriers_ownedBy (column : Column) (ids : List Int) :
    (ownedBy column ids).carriers = [] ∧ (ownedBy column ids).params = ids.map .int := by
  unfold ownedBy
  split <;> simp [Condition.carriers, Condition.params]

/-- A column holds one of some ids, whether one or several are asked for. -/
theorem holdsIn_ownedBy (db : Database) (r : Joined) (column : Column) (ids : List Int) :
    (ownedBy column ids).holdsIn db r =
      ids.any fun id => decide ((r.cell column).key = (Cell.int id).key) := by
  unfold ownedBy
  split
  · next id =>
    rw [Bool.eq_iff_iff, Condition.holdsIn, Cell.holds_equals_int]
    simp
  · rw [Bool.eq_iff_iff, Condition.holdsIn, Cell.holds_oneOf]
    simp only [List.mem_map, exists_exists_and_eq_and, Cell.holds_equals_int, List.any_eq_true,
      decide_eq_true_iff]

namespace Database

variable {db : Database}

/-- The rows from which the labels of a field are read. -/
def ownerRows (db : Database) (f : Field) : List Joined :=
  match f.entry.shape with
  | .junction pairs _ =>
    (db.stored f.entry.table).flatMap fun row =>
      ((db.stored pairs).filter fun p =>
        ((row.cell "id").equals (p.cell f.entry.foreignKey)).holds).map
          fun p => [(f.pairQualifier, p), (f.entry.qualifier, row)]
  | _ => (db.stored f.entry.table).map fun row => [(f.entry.qualifier, row)]

theorem Conforms.rows_ownerSource (hdb : db.Conforms) (f : Field) :
    f.ownerSource.2.rows db = .ok (db.ownerRows f) := by
  rw [Field.ownerSource, ownerRows]
  cases hshape : f.entry.shape with
  | lookup => exact hdb.childRows f f.entry.qualifier
  | children => exact hdb.childRows f f.entry.qualifier
  | junction pairs owner =>
    simp only [Source.rows, hdb.rowsOf_labels f, joinAll, hdb.rowsOf_pairs hshape]
    rw [List.flatMap_map]
    refine congrArg (fun extend => Except.ok ((db.stored f.entry.table).flatMap extend))
      (funext fun row => ?_)
    rw [Join.extend_inner rfl, Join.partners_eq]
    refine congrArg _ (List.filter_congr fun p _ => ?_)
    show (Cell.equals (Joined.cell ((f.pairQualifier, p) :: _) ⟨f.entry.qualifier, "id"⟩)
      (Joined.cell ((f.pairQualifier, p) :: _) ⟨f.pairQualifier, f.entry.foreignKey⟩)).holds = _
    rw [Joined.cell_cons_of_ne (c := ⟨f.entry.qualifier, "id"⟩) f.pairQualifier_ne_qualifier,
      Joined.cell_cons_self, Joined.cell_cons_self]

/-- The rows from which the labels of a field are read show labels. -/
theorem Conforms.isLabel_ownerRows (hdb : db.Conforms) (f : Field) {r : Joined}
    (hr : r ∈ db.ownerRows f) : (r.cell f.labelColumn).IsLabel := by
  have hbase : ∀ row ∈ db.stored f.entry.table,
      (Joined.cell [(f.entry.qualifier, row)] f.labelColumn).IsLabel := by
    intro row hrow
    rw [Field.labelColumn, Joined.cell_cons_self]
    exact hdb.labels f row hrow
  rw [ownerRows] at hr
  split at hr
  · obtain ⟨row, hrow, hr⟩ := List.mem_flatMap.mp hr
    obtain ⟨p, -, rfl⟩ := List.mem_map.mp hr
    rw [Joined.cell_cons_of_ne (c := f.labelColumn) f.pairQualifier_ne_qualifier]
    exact hbase row hrow
  · obtain ⟨row, hrow, rfl⟩ := List.mem_map.mp hr
    exact hbase row hrow

/-- The rows of the labels of some postings, in the order in which they are read. -/
def attributeRows (db : Database) (f : Field) (ids : List Int) : List Joined :=
  ((db.ownerRows f).filter fun r => ids.any fun id => f.belongs id r).mergeSort f.readBefore

theorem mem_attributeRows {f : Field} {ids : List Int} {r : Joined} :
    r ∈ db.attributeRows f ids ↔ r ∈ db.ownerRows f ∧ ∃ id ∈ ids, f.belongs id r = true := by
  rw [attributeRows, List.mem_mergeSort, List.mem_filter, List.any_eq_true]

/-- The rows of one posting among those of several are those that it has by itself. -/
theorem filter_attributeRows (f : Field) {ids : List Int} {id : Int} (hid : id ∈ ids) :
    (db.attributeRows f ids).filter (f.belongs id) = db.attributeRows f [id] := by
  rw [attributeRows, attributeRows, filter_mergeSort f.readBefore_trans f.readBefore_total,
    List.filter_filter]
  refine congrArg (fun rows => List.mergeSort rows f.readBefore) (List.filter_congr fun r _ => ?_)
  simp only [List.any_cons, List.any_nil, Bool.or_false]
  cases h : f.belongs id r with
  | false => rfl
  | true => exact List.any_eq_true.mpr ⟨id, hid, h⟩

/-- The labels of postings whose ids fit the storage are told, with their owners. -/
theorem Conforms.run_attributesOf (hdb : db.Conforms) (f : Field) {ids : List Int}
    (hfit : ∀ id ∈ ids, (Cell.int id).fits = true) :
    (Store.readable db).run (Statement.attributesOf f ids) = .ok
      { columns := ["entity_id", "label"]
        rows := (db.attributeRows f ids).map fun r =>
          [r.cell f.ownerSource.1, r.cell f.labelColumn] } := by
  obtain ⟨hcarriers, hids⟩ := carriers_ownedBy f.ownerSource.1 ids
  have hanswered : Condition.Answered? db (Statement.attributesOf f ids).condition := by
    intro c hc s hs
    obtain rfl := Option.some.inj hc
    simp [hcarriers] at hs
  have hkept := Statement.kept_eq_filter (s := Statement.attributesOf f ids)
    (hdb.rows_ownerSource f) hanswered
  have hparams : (Statement.attributesOf f ids).params.all Cell.fits = true := by
    simpa [Statement.params, Statement.attributesOf, hids] using hfit
  have hrun := Store.run_readable hkept hparams
  have hlines : ∀ rows : List Joined, (Statement.attributesOf f ids).lines rows =
      (rows.mergeSort f.readBefore).map fun r => [r] := by
    intro rows
    rw [Statement.lines_eq_mergeSort]
    exact (List.map_mergeSort (r := f.readBefore) (f := fun r => [r]) fun _ _ _ _ => rfl).symm
  have hcondition : ∀ r, Condition.holdsIn? db r (Statement.attributesOf f ids).condition =
      ids.any fun id => f.belongs id r :=
    fun r => holdsIn_ownedBy db r f.ownerSource.1 ids
  rw [hrun, hlines]
  simp only [hcondition]
  refine congrArg Except.ok (congrArg (Result.mk _) ?_)
  show (((db.ownerRows f).filter _).mergeSort f.readBefore |>.map _).map _ = _
  rw [List.map_map, attributeRows]
  rfl

end Database

end JobSearch
