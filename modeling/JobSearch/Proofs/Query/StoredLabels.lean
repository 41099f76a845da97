import JobSearch.Proofs.Dataset.StorageOrder
import JobSearch.Proofs.Query.Attributes
import JobSearch.Proofs.Query.LabelRows

/-!
# Labels in storage order

The rows of a posting are sorted by their numbers alone, because they have one owner. Rows that
belong to the posting are stored in that order, and rows that pair the posting with labels are put
into the order of the pairs, whatever the order of the labels. So the labels that are read for a
posting are those that are stored for it, in storage order
(`Database.Conforms.labels_attributeRows`).
-/

namespace JobSearch

open Query

/-- A list with no two items that are unrelated has at most one item. -/
theorem length_le_one_of_pairwise {α : Type} {R : α → α → Prop} {l : List α} (h : l.Pairwise R)
    (hno : ∀ a ∈ l, ∀ b ∈ l, ¬R a b) : l.length ≤ 1 := by
  rcases l with _ | ⟨a, _ | ⟨b, l⟩⟩
  · simp
  · simp
  · exact absurd ((List.pairwise_cons.mp h).1 b (by simp)) (hno a (by simp) b (by simp))

/-- Pairs with at most one item can be listed from either side. -/
theorem flatMap_filter_comm {α β γ : Type} {bs : List β} (hbs : bs.length ≤ 1) (as : List α)
    (p : α → β → Bool) (g : α → β → γ) :
    (as.flatMap fun a => (bs.filter (p a)).map (g a)) =
      bs.flatMap fun b => (as.filter (p · b)).map (g · b) := by
  rcases bs with _ | ⟨b, _ | ⟨c, bs⟩⟩
  · simp
  · rw [List.flatMap_singleton]
    induction as with
    | nil => rfl
    | cons a as ih =>
      rw [List.flatMap_cons, ih, List.filter_cons (x := a)]
      cases h : p a b <;> simp [h]
  · simp at hbs

/-- Items that are left out contribute nothing. -/
theorem flatMap_filter {β γ : Type} (bs : List β) (q : β → Bool) (h : β → List γ) :
    (bs.filter q).flatMap h = bs.flatMap fun b => if q b then h b else [] := by
  induction bs with
  | nil => rfl
  | cons b bs ih =>
    rw [List.filter_cons, List.flatMap_cons, ← ih]
    cases q b <;> simp

/-- The column by which the labels of one posting are ordered. -/
def Field.numberColumn (f : Field) : Column := ⟨f.ownerSource.1.qualifier, rowNumber⟩

/-- Rows of one owner are read in the order of their numbers. -/
theorem Field.readBefore_of_key {f : Field} {r s : Joined}
    (h : (r.cell f.ownerSource.1).key = (s.cell f.ownerSource.1).key) :
    f.readBefore r s = (r.cell f.numberColumn).le (s.cell f.numberColumn) := by
  have howner : ∀ {a b : Cell}, a.key = b.key → a.le b = true := by
    intro a b hab
    have ht := Cell.le_total a b
    rw [Cell.le, Cell.le, hab] at ht
    rw [Cell.le, hab]
    simpa using ht
  show ((r.cell f.ownerSource.1).le (s.cell f.ownerSource.1) &&
    (!(s.cell f.ownerSource.1).le (r.cell f.ownerSource.1) ||
      ((r.cell f.numberColumn).le (s.cell f.numberColumn) &&
        (!(s.cell f.numberColumn).le (r.cell f.numberColumn) || true)))) = _
  rw [howner h, howner h.symm]
  simp

/-- Whether a posting owns a row is said by the key of its id. -/
theorem Field.belongs_eq (f : Field) (id : Int) (r : Joined) :
    f.belongs id r = ((Cell.int id).equals (r.cell f.ownerSource.1)).holds := by
  rw [Bool.eq_iff_iff, Cell.holds_int_equals, belongs, decide_eq_true_iff]

namespace Database

variable {db : Database} {f : Field}

/-- What a posting owns has its id. -/
theorem Conforms.key_of_mem_owned (hdb : db.Conforms) {j : Row} (hj : j ∈ db.postings)
    {table owner : String} {row : Row} (hrow : row ∈ db.owned table owner j) :
    (row.cell owner).key = (Cell.int (idOf j)).key := by
  have h := (List.mem_filter.mp hrow).2
  rwa [hdb.cell_id hj, Cell.holds_int_equals] at h

theorem le_of_numbered {r s : Row} (h : (s.cell rowNumber).le (r.cell rowNumber) = false) :
    (r.cell rowNumber).le (s.cell rowNumber) = true := by
  have ht := Cell.le_total (r.cell rowNumber) (s.cell rowNumber)
  rwa [h, Bool.or_false] at ht

/-- The rows that belong to a posting are read in the order in which they are stored. -/
theorem Conforms.attributeRows_children (hdb : db.Conforms) (ho : db.InStorageOrder)
    (hf : f.entry.shape = .children) {j : Row} (hj : j ∈ db.postings) :
    db.attributeRows f [idOf j] =
      (db.owned f.entry.table f.entry.foreignKey j).map fun row => [(f.entry.qualifier, row)] := by
  have howner : f.ownerSource.1 = ⟨f.entry.qualifier, f.entry.foreignKey⟩ := by
    simp only [Field.ownerSource, hf]
  have hrows : (db.ownerRows f).filter (fun r => [idOf j].any fun id => f.belongs id r) =
      (db.owned f.entry.table f.entry.foreignKey j).map fun row => [(f.entry.qualifier, row)] := by
    simp only [ownerRows, hf, List.filter_map, owned, hdb.cell_id hj]
    refine congrArg _ (List.filter_congr fun row _ => ?_)
    simp only [Function.comp_apply, List.any_cons, List.any_nil, Bool.or_false, Field.belongs_eq,
      howner, Joined.cell_cons_self]
  have hsorted : ((db.owned f.entry.table f.entry.foreignKey j).map
      fun row => [(f.entry.qualifier, row)]).Pairwise fun r s => f.readBefore r s = true := by
    have hnumbered := (ho.numbered f f.entry.table (by simp [Field.tables, hf])).filter
      fun row => ((j.cell "id").equals (row.cell f.entry.foreignKey)).holds
    rw [List.pairwise_map]
    refine hnumbered.imp_of_mem fun {r s} hr hs hlt => ?_
    rw [Field.readBefore_of_key, Field.numberColumn, howner]
    · simpa only [Joined.cell_cons_self] using le_of_numbered hlt
    · simp only [howner, Joined.cell_cons_self]
      exact (hdb.key_of_mem_owned hj hr).trans (hdb.key_of_mem_owned hj hs).symm
  rw [attributeRows, hrows, List.mergeSort_of_pairwise hsorted]

section junction

variable {pairs owner : String} (hf : f.entry.shape = .junction pairs owner)

/-- The row of a pair and a label. -/
def pairedRow (f : Field) (p row : Row) : Joined := [(f.pairQualifier, p), (f.entry.qualifier, row)]

include hf

theorem cell_owner_pairedRow (p row : Row) :
    (pairedRow f p row).cell f.ownerSource.1 = p.cell owner := by
  have howner : f.ownerSource.1 = ⟨f.pairQualifier, owner⟩ := by
    simp only [Field.ownerSource, hf]
    rfl
  rw [howner, pairedRow, Joined.cell_cons_self]

theorem cell_number_pairedRow (p row : Row) :
    (pairedRow f p row).cell f.numberColumn = p.cell rowNumber := by
  have hnumber : f.numberColumn = ⟨f.pairQualifier, rowNumber⟩ := by
    simp only [Field.numberColumn, Field.ownerSource, hf]
    rfl
  rw [hnumber, pairedRow, Joined.cell_cons_self]

/-- The place of a row is that of its pair, whatever the label. -/
theorem tied_pairedRow (a : Joined) (p row row' : Row) :
    Tied f.readBefore a (pairedRow f p row) = Tied f.readBefore a (pairedRow f p row') := by
  have hbefore : ∀ b c : Joined, f.readBefore b c = inOrder [.unspoken, .unspoken]
      [b.cell f.ownerSource.1, b.cell f.numberColumn]
      [c.cell f.ownerSource.1, c.cell f.numberColumn] := fun _ _ => rfl
  simp only [Tied, hbefore, cell_owner_pairedRow hf, cell_number_pairedRow hf]

/-- The rows of two pairs of one posting are read in the order of the pairs. -/
theorem Conforms.readBefore_pairedRow (hdb : db.Conforms) {j : Row} (hj : j ∈ db.postings)
    {p q : Row} (hp : p ∈ db.owned pairs owner j) (hq : q ∈ db.owned pairs owner j)
    (row row' : Row) :
    f.readBefore (pairedRow f p row) (pairedRow f q row') =
      (p.cell rowNumber).le (q.cell rowNumber) := by
  rw [Field.readBefore_of_key, cell_number_pairedRow hf, cell_number_pairedRow hf]
  rw [cell_owner_pairedRow hf, cell_owner_pairedRow hf]
  exact (hdb.key_of_mem_owned hj hp).trans (hdb.key_of_mem_owned hj hq).symm

theorem InStorageOrder.numbered_pairs (ho : db.InStorageOrder) (j : Row) :
    Numbered (db.owned pairs owner j) :=
  (ho.numbered f pairs (by simp [Field.tables, hf])).filter _

/-- The rows of a posting, label by label. -/
theorem Conforms.filter_ownerRows_junction (hdb : db.Conforms) (ho : db.InStorageOrder) {j : Row}
    (hj : j ∈ db.postings) :
    (db.ownerRows f).filter (fun r => [idOf j].any fun id => f.belongs id r) =
      (db.stored f.entry.table).flatMap fun row =>
        ((db.owned pairs owner j).filter fun p =>
          ((p.cell f.entry.foreignKey).equals (row.cell "id")).holds).map (pairedRow f · row) := by
  simp only [ownerRows, hf, List.filter_flatMap, List.filter_map, owned, hdb.cell_id hj]
  refine List.flatMap_congr fun row hrow => congrArg _ ?_
  obtain ⟨n, hn⟩ := ho.ids f row hrow
  rw [List.filter_filter, List.filter_filter]
  refine List.filter_congr fun p _ => ?_
  have howner : f.belongs (idOf j) (pairedRow f p row) =
      ((Cell.int (idOf j)).equals (p.cell owner)).holds := by
    rw [Field.belongs_eq, cell_owner_pairedRow hf]
  have hrefers : ((row.cell "id").equals (p.cell f.entry.foreignKey)).holds =
      ((p.cell f.entry.foreignKey).equals (row.cell "id")).holds := by
    rw [hn, Bool.eq_iff_iff, Cell.holds_int_equals, Cell.holds_equals_int]
  rw [← howner, ← hrefers, Bool.and_comm]
  simp only [Function.comp_apply, List.any_cons, List.any_nil, Bool.or_false]
  rfl

/-- Pair by pair the rows of a posting are in the order in which they are read. -/
theorem Conforms.pairwise_pairedRows (hdb : db.Conforms) (ho : db.InStorageOrder) {j : Row}
    (hj : j ∈ db.postings) :
    ((db.owned pairs owner j).flatMap fun p =>
      (db.referred f (p.cell f.entry.foreignKey)).map (pairedRow f p)).Pairwise
        fun r s => f.readBefore r s = true := by
  rw [List.pairwise_flatMap]
  refine ⟨fun p hp => ?_, (ho.numbered_pairs hf j).imp_of_mem fun {p q} hp hq hlt => ?_⟩
  · rw [List.pairwise_map]
    refine List.pairwise_of_forall fun row row' => ?_
    rw [hdb.readBefore_pairedRow hf hj hp hp]
    exact (Bool.or_self _).symm.trans (Cell.le_total _ _)
  · intro r hr s hs
    obtain ⟨row, -, rfl⟩ := List.mem_map.mp hr
    obtain ⟨row', -, rfl⟩ := List.mem_map.mp hs
    rw [hdb.readBefore_pairedRow hf hj hp hq]
    exact le_of_numbered hlt

/-- All rows of a posting that are tied have one pair. -/
theorem Conforms.length_tied_pairs (hdb : db.Conforms) (ho : db.InStorageOrder) {j : Row}
    (hj : j ∈ db.postings) (a : Joined) :
    ((db.owned pairs owner j).filter fun p =>
      Tied f.readBefore a (pairedRow f p [])).length ≤ 1 := by
  refine length_le_one_of_pairwise ((ho.numbered_pairs hf j).filter _) fun p hp q hq hlt => ?_
  obtain ⟨hp, hpa⟩ := List.mem_filter.mp hp
  obtain ⟨hq, hqa⟩ := List.mem_filter.mp hq
  have hqp := f.readBefore_trans _ _ _ (tied_iff.mp hqa).2 (tied_iff.mp hpa).1
  rw [hdb.readBefore_pairedRow hf hj hq hp, hlt] at hqp
  cases hqp

/-- The rows of a posting are read pair by pair. -/
theorem Conforms.attributeRows_junction (hdb : db.Conforms) (ho : db.InStorageOrder) {j : Row}
    (hj : j ∈ db.postings) :
    db.attributeRows f [idOf j] = (db.owned pairs owner j).flatMap fun p =>
      (db.referred f (p.cell f.entry.foreignKey)).map (pairedRow f p) := by
  rw [attributeRows, hdb.filter_ownerRows_junction hf ho hj]
  refine mergeSort_eq_of_filter_tied f.readBefore_trans f.readBefore_total
    (hdb.pairwise_pairedRows hf ho hj) fun a => ?_
  have htied : ∀ p row, Tied f.readBefore a (pairedRow f p row) =
      Tied f.readBefore a (pairedRow f p []) := fun p row => tied_pairedRow hf a p row []
  -- There is at most one pair, so it does not matter whether pairs or labels come first.
  calc _ = (db.stored f.entry.table).flatMap fun row =>
        (((db.owned pairs owner j).filter fun p => Tied f.readBefore a (pairedRow f p [])).filter
          fun p => ((p.cell f.entry.foreignKey).equals (row.cell "id")).holds).map
            (pairedRow f · row) := by
        rw [List.filter_flatMap]
        refine List.flatMap_congr fun row _ => ?_
        rw [List.filter_map, List.filter_comm]
        exact congrArg _ (congrArg _ (List.filter_congr fun p _ => htied p row))
    _ = ((db.owned pairs owner j).filter fun p => Tied f.readBefore a (pairedRow f p [])).flatMap
        fun p => (db.referred f (p.cell f.entry.foreignKey)).map (pairedRow f p) :=
      flatMap_filter_comm (hdb.length_tied_pairs hf ho hj a) _ _ _
    _ = _ := by
        rw [flatMap_filter, List.filter_flatMap]
        refine List.flatMap_congr fun p _ => ?_
        rw [List.filter_map, show Tied f.readBefore a ∘ pairedRow f p =
          fun _ => Tied f.readBefore a (pairedRow f p []) from funext fun row => htied p row]
        cases Tied f.readBefore a (pairedRow f p []) <;> simp

end junction

/-- The labels that are read for a posting are those that are stored for it, in storage order. -/
theorem Conforms.labels_attributeRows (hdb : db.Conforms) (ho : db.InStorageOrder)
    (hf : f.isMultiValued = true) {j : Row} (hj : j ∈ db.postings) :
    (db.attributeRows f [idOf j]).map (·.cell f.labelColumn) = db.labels f j := by
  cases hshape : f.entry.shape with
  | lookup => simp [Field.isMultiValued_eq_false_iff.mpr hshape] at hf
  | children =>
    rw [hdb.attributeRows_children ho hshape hj, List.map_map, Database.labels, hshape]
    refine List.map_congr_left fun row _ => ?_
    exact Joined.cell_cons_self _ row [] _
  | junction pairs owner =>
    rw [hdb.attributeRows_junction hshape ho hj, List.map_flatMap, Database.labels, hshape]
    refine List.flatMap_congr fun p _ => ?_
    rw [List.map_map]
    refine List.map_congr_left fun row _ => ?_
    exact (Joined.cell_cons_of_ne (c := f.labelColumn) f.pairQualifier_ne_qualifier p _).trans
      (Joined.cell_cons_self _ row [] _)

end Database

end JobSearch
