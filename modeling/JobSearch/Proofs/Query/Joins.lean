import JobSearch.Proofs.Catalog.Qualifiers
import JobSearch.Proofs.Dataset.Schema
import JobSearch.Query.Postings

/-!
# Rows of joined tables

Postings are joined with the tables of labels by left joins on ids. Since a reference leads to at
most one row and a posting without a label stays, the joins give one row for each posting, in the
order of the postings (`Database.Conforms.postingSource_rows`); whichever fields are joined, that
row shows the columns of the posting and, for every joined field, its label (`Shows`). A
statement that joins more fields than another one therefore ranges over the same postings.

## Main definitions

* `Joined.posting` — the posting in a row of a source.
* `Database.label` — the label of a posting in a field with at most one.
* `Database.joined` — the row of a posting under some joined fields.
* `Shows` — a row shows a posting and its labels in some fields.
-/

namespace JobSearch

open Query

/-- The posting in a row of a source. -/
def Query.Joined.posting (r : Joined) : Row := (Ordered.find? postingQualifier r).getD []

namespace Query.Joined

theorem cell_posting (r : Joined) (name : String) :
    r.cell ⟨postingQualifier, name⟩ = r.posting.cell name := by
  rw [Joined.cell, posting]
  cases Ordered.find? postingQualifier r <;> rfl

theorem cell_cons_self (q : String) (row : Row) (r : Joined) (name : String) :
    Joined.cell ((q, row) :: r) ⟨q, name⟩ = row.cell name := by
  simp [Joined.cell, Ordered.find?]

theorem cell_cons_of_ne {q : String} {c : Column} (h : q ≠ c.qualifier) (row : Row) (r : Joined) :
    Joined.cell ((q, row) :: r) c = r.cell c := by
  simp [Joined.cell, Ordered.find?, h]

theorem posting_cons_of_ne {q : String} (h : q ≠ postingQualifier) (row : Row) (r : Joined) :
    Joined.posting ((q, row) :: r) = r.posting := by
  simp [posting, Ordered.find?, h]

@[simp] theorem posting_singleton (j : Row) : Joined.posting [(postingQualifier, j)] = j := by
  simp [posting, Ordered.find?]

end Query.Joined

/-! ### One join -/

/-- The partners of a row are the rows of the joined table that satisfy the join. -/
theorem Query.Join.partners_eq (j : Join) (rows : List Row) (r : Joined) :
    j.partners rows r =
      (rows.filter fun row =>
        ((Joined.cell ((j.qualifier, row) :: r) j.first).equals
          (Joined.cell ((j.qualifier, row) :: r) j.second)).holds).map
        fun row => (j.qualifier, row) :: r := by
  rw [partners, List.filter_map]
  rfl

theorem Query.Join.extend_inner {j : Join} (h : j.kind = .inner) (rows : List Row) (r : Joined) :
    j.extend rows r = j.partners rows r := by
  rw [extend, h]

theorem Query.joinAll_append (db : Database) (js ks : List Join) (rows : List Joined) :
    joinAll db (js ++ ks) rows =
      match joinAll db js rows with
      | .ok more => joinAll db ks more
      | .error table => .error table := by
  induction js generalizing rows with
  | nil => rfl
  | cons j js ih =>
    rw [List.cons_append, joinAll, joinAll]
    cases rowsOf db j.table with
    | ok found => exact ih _
    | error table => rfl

namespace Database

/-- The row of a label table that a posting refers to; an empty one if there is none. -/
def lookupRow (db : Database) (f : Field) (j : Row) : Row :=
  (db.referred f (j.cell f.entry.foreignKey)).head?.getD []

/-- The label of a posting in a field with at most one. -/
def label (db : Database) (f : Field) (j : Row) : Cell := (db.lookupRow f j).cell f.entry.labelColumn

/-- A row extended by the rows of the label tables of some fields. -/
def withLookups (db : Database) (fs : List Field) (r : Joined) : Joined :=
  fs.foldl (fun r f => (f.entry.qualifier, db.lookupRow f r.posting) :: r) r

variable {db : Database}

/-- The labels of a field with at most one are its label, or there is none and the label is
absent. -/
theorem Conforms.labels_lookup (hdb : db.Conforms) {f : Field} (hf : f.entry.shape = .lookup)
    (j : Row) : (db.labels f j = [] ∧ db.label f j = .null) ∨ db.labels f j = [db.label f j] := by
  have hlen := hdb.labels_length hf j
  rw [Database.labels, hf] at hlen ⊢
  rw [label, lookupRow]
  generalize db.referred f (j.cell f.entry.foreignKey) = found at hlen ⊢
  rcases found with _ | ⟨r, _ | ⟨s, rest⟩⟩
  · exact Or.inl ⟨rfl, rfl⟩
  · exact Or.inr rfl
  · simp at hlen

theorem mem_labels_lookup {f : Field} (hf : f.entry.shape = .lookup) (hdb : db.Conforms) (j : Row)
    (l : String) : .text l ∈ db.labels f j ↔ db.label f j = .text l := by
  rcases hdb.labels_lookup hf j with ⟨hl, hn⟩ | hl
  · simp [hl, hn]
  · simp [hl, eq_comm]

theorem Conforms.isLabel_label (hdb : db.Conforms) (f : Field) (j : Row) :
    (db.label f j).IsLabel := by
  rw [label, lookupRow]
  cases h : db.referred f (j.cell f.entry.foreignKey) with
  | nil => exact Cell.isLabel_null
  | cons r rest =>
    exact hdb.labels f r (mem_stored_of_mem_referred (x := j.cell f.entry.foreignKey) (by simp [h]))

/-- A left join on ids goes on from each row in exactly one way. -/
theorem Conforms.extend_lookupJoin (hdb : db.Conforms) {f : Field} (hf : f.entry.shape = .lookup)
    (r : Joined) :
    f.lookupJoin.extend (db.stored f.entry.table) r =
      [(f.entry.qualifier, db.lookupRow f r.posting) :: r] := by
  have hp : f.lookupJoin.partners (db.stored f.entry.table) r =
      (db.referred f (r.posting.cell f.entry.foreignKey)).map
        fun row => (f.entry.qualifier, row) :: r := by
    rw [Join.partners_eq]
    simp only [Field.lookupJoin, Joined.cell_cons_self,
      Joined.cell_cons_of_ne (c := ⟨postingQualifier, _⟩) f.qualifier_ne_posting,
      Joined.cell_posting]
    rfl
  have hlen := (hdb.lookups f hf).filter_equals_length (r.posting.cell f.entry.foreignKey)
  rw [Join.extend, hp, lookupRow]
  rw [← referred] at hlen
  generalize db.referred f (r.posting.cell f.entry.foreignKey) = found at hlen ⊢
  rcases found with _ | ⟨row, _ | ⟨s, rest⟩⟩
  · rfl
  · rfl
  · simp at hlen

/-- Joining the label table of a field to rows that refer to it. -/
theorem extend_referred (f : Field) {pair label : String} (h : label ≠ pair) (r : Joined) :
    Join.extend ⟨.inner, f.entry.table, label, ⟨pair, f.entry.foreignKey⟩, ⟨label, "id"⟩⟩
        (db.stored f.entry.table) r =
      (db.referred f (r.cell ⟨pair, f.entry.foreignKey⟩)).map fun row => (label, row) :: r := by
  rw [Join.extend_inner rfl, Join.partners_eq]
  simp only [Joined.cell_cons_self, Joined.cell_cons_of_ne (c := ⟨pair, _⟩) h]
  rfl

/-- Joining to a posting the rows that it owns. -/
theorem extend_owned (table : String) (rows : List Row) {q : String} (h : q ≠ postingQualifier)
    (owner : String) (r : Joined) :
    Join.extend ⟨.inner, table, q, postingId, ⟨q, owner⟩⟩ rows r =
      (rows.filter fun row => ((r.posting.cell "id").equals (row.cell owner)).holds).map
        fun row => (q, row) :: r := by
  rw [Join.extend_inner rfl, Join.partners_eq]
  simp only [Joined.cell_cons_self, postingId,
    Joined.cell_cons_of_ne (c := ⟨postingQualifier, _⟩) h, Joined.cell_posting]

/-! ### The joins of several fields -/

theorem withLookups_cons (f : Field) (fs : List Field) (r : Joined) :
    db.withLookups (f :: fs) r =
      db.withLookups fs ((f.entry.qualifier, db.lookupRow f r.posting) :: r) := rfl

@[simp] theorem posting_withLookups (fs : List Field) (r : Joined) :
    (db.withLookups fs r).posting = r.posting := by
  induction fs generalizing r with
  | nil => rfl
  | cons f fs ih => rw [withLookups_cons, ih, Joined.posting_cons_of_ne f.qualifier_ne_posting]

/-- A join of label tables leaves all other columns as they are. -/
theorem cell_withLookups_of_not_mem {fs : List Field} {c : Column}
    (h : ∀ f ∈ fs, f.entry.qualifier ≠ c.qualifier) (r : Joined) :
    (db.withLookups fs r).cell c = r.cell c := by
  induction fs generalizing r with
  | nil => rfl
  | cons f fs ih =>
    rw [withLookups_cons, ih fun g hg => h g (by simp [hg]), Joined.cell_cons_of_ne (h f (by simp))]

theorem cell_withLookups_of_mem {fs : List Field} {f : Field} (h : f ∈ fs) (r : Joined)
    (name : String) :
    (db.withLookups fs r).cell ⟨f.entry.qualifier, name⟩ =
      (db.lookupRow f r.posting).cell name := by
  induction fs generalizing r with
  | nil => simp at h
  | cons g fs ih =>
    rw [withLookups_cons]
    by_cases hf : f ∈ fs
    · rw [ih hf, Joined.posting_cons_of_ne g.qualifier_ne_posting]
    · obtain rfl : f = g := by simpa [hf] using h
      rw [cell_withLookups_of_not_mem, Joined.cell_cons_self]
      intro k hk he
      exact hf (Field.qualifier_inj he ▸ hk)

theorem Conforms.joinAll_lookups (hdb : db.Conforms) (fs : List Field)
    (hfs : ∀ f ∈ fs, f.entry.shape = .lookup) (rows : List Joined) :
    joinAll db (fs.map Field.lookupJoin) rows = .ok (rows.map (db.withLookups fs)) := by
  induction fs generalizing rows with
  | nil => exact congrArg Except.ok (List.map_id rows).symm
  | cons f fs ih =>
    have hx : rows.flatMap (f.lookupJoin.extend (db.stored f.entry.table)) =
        rows.map fun r : Joined => (f.entry.qualifier, db.lookupRow f r.posting) :: r := by
      rw [List.map_eq_flatMap]
      exact congrArg rows.flatMap (funext fun r => hdb.extend_lookupJoin (hfs f (by simp)) r)
    have hrows : rowsOf db f.lookupJoin.table = .ok (db.stored f.entry.table) :=
      hdb.rowsOf_labels f
    rw [List.map_cons, joinAll, hrows]
    simp only
    rw [hx, ih fun g hg => hfs g (by simp [hg]), List.map_map]
    rfl

end Database

/-! ### The rows of postings -/

/-- The fields among some whose labels are joined, in catalog order. -/
def Field.joinedOf (fields : List Field) : List Field :=
  Field.all.filter fun f => f ∈ fields ∧ f.isMultiValued = false

theorem Field.mem_joinedOf {fields : List Field} {f : Field} :
    f ∈ Field.joinedOf fields ↔ f ∈ fields ∧ f.entry.shape = .lookup := by
  simp [joinedOf, f.mem_all, isMultiValued_eq_false_iff]

/-- The row of a posting under the joins of some fields. -/
def Database.joined (db : Database) (fields : List Field) (j : Row) : Joined :=
  db.withLookups (Field.joinedOf fields) [(postingQualifier, j)]

@[simp] theorem Database.posting_joined (db : Database) (fields : List Field) (j : Row) :
    (db.joined fields j).posting = j := by
  simp [joined]

/-- Joining labels gives one row for each posting, in the order of the postings. -/
theorem Database.Conforms.postingSource_rows {db : Database} (hdb : db.Conforms)
    (fields : List Field) :
    (postingSource fields).rows db = .ok (db.postings.map (db.joined fields)) := by
  have hjoin := hdb.joinAll_lookups (Field.joinedOf fields)
    (fun f hf => (Field.mem_joinedOf.mp hf).2)
    (db.postings.map fun j => [(postingQualifier, j)])
  rw [List.map_map] at hjoin
  simp only [Source.rows, postingSource, hdb.rowsOf_postings]
  exact hjoin

/-- The row shows a posting, and its labels in those of some fields that have at most one. -/
structure Shows (db : Database) (fields : List Field) (j : Row) (r : Joined) : Prop where
  posting : r.posting = j
  label : ∀ f ∈ fields, f.entry.shape = .lookup → r.cell f.labelColumn = db.label f j

namespace Shows

variable {db : Database} {fields more : List Field} {j : Row} {r : Joined}

theorem cell (h : Shows db fields j r) (name : String) :
    r.cell ⟨postingQualifier, name⟩ = j.cell name := by
  rw [Joined.cell_posting, h.posting]

theorem mono (h : Shows db more j r) (hsub : ∀ f ∈ fields, f.entry.shape = .lookup → f ∈ more) :
    Shows db fields j r :=
  ⟨h.posting, fun f hf hshape => h.label f (hsub f hf hshape) hshape⟩

/-- The row of a posting shows the labels of all joined fields. -/
theorem joined (db : Database) (fields : List Field) (j : Row) :
    Shows db fields j (db.joined fields j) := by
  refine ⟨db.posting_joined fields j, fun f hf hshape => ?_⟩
  have hmem : f ∈ Field.joinedOf fields := Field.mem_joinedOf.mpr ⟨hf, hshape⟩
  rw [Database.joined, Field.labelColumn, Database.cell_withLookups_of_mem hmem,
    Joined.posting_singleton]
  rfl

/-- A row in front of the labels of another field shows what it showed. -/
theorem cons (h : Shows db fields j r) {q : String} (hq : q ≠ postingQualifier)
    (hne : ∀ f : Field, f ∈ fields → f.entry.shape = .lookup → q ≠ f.entry.qualifier)
    (row : Row) : Shows db fields j ((q, row) :: r) := by
  refine ⟨(Joined.posting_cons_of_ne hq row r).trans h.posting, fun f hf hshape => ?_⟩
  rw [Joined.cell_cons_of_ne (hne f hf hshape), h.label f hf hshape]

end Shows

end JobSearch
