import JobSearch.Proofs.Dataset.Schema
import JobSearch.Proofs.Filter.Normal

/-!
# Which postings match

What it means for a posting to match criteria and search text, in two truth values and without
any statement. Criteria have a term for each field with a selection and one for each quantity
with a bound. A field with at most one label admits any of the selected labels, a field with
several requires all of them, and the bounds on a quantity hold together; a column that holds
nothing and a bound that is no number satisfy nothing. The policy combines the terms, and search
text must occur in one of the columns that are searched.

## Main definitions

* `ActiveTerm`, `Criteria.terms`, `ActiveTerm.Holds` — the terms of criteria.
* `Database.Mentions` — search text occurs in a posting.
* `Database.Matches`, `Database.matching` — the postings that match.
-/

namespace JobSearch

/-- A bound admits a cell that lies on its side in the order of cells; a cell that holds nothing
and a bound that is no number lie nowhere. -/
def Bound.Admits (b : Bound) (x : Float) (c : Cell) : Prop :=
  c.isNull = false ∧ (Cell.real x).isNull = false ∧
    (if b.isLower then (Cell.real x).le c else c.le (.real x)) = true

instance (b : Bound) (x : Float) (c : Cell) : Decidable (b.Admits x c) :=
  inferInstanceAs (Decidable (_ ∧ _ ∧ _))

/-- A term of criteria. -/
inductive ActiveTerm where
  /-- Some labels are selected in a field. -/
  | labels (f : Field) (selected : List String)
  /-- A quantity is bounded. -/
  | range (q : Quantity)

/-- The quantities with a bound. -/
def Criteria.ranges (c : Criteria) : List Quantity :=
  [Quantity.salary, Quantity.experience].filter fun q => c.setBounds.any fun p => p.1.quantity = q

/-- The terms of criteria. -/
def Criteria.terms (c : Criteria) : List ActiveTerm :=
  c.active.map (fun p => .labels p.1 p.2) ++ c.ranges.map .range

/-- The selected labels admit a posting. -/
def Database.Admits (db : Database) (j : Row) (f : Field) (selected : List String) : Prop :=
  if f.isMultiValued then ∀ l ∈ selected, db.Carries f j l else ∃ l ∈ selected, db.Carries f j l

instance (db : Database) (j : Row) (f : Field) (selected : List String) :
    Decidable (db.Admits j f selected) := by
  unfold Database.Admits
  infer_instance

/-- A term of criteria holds of a posting. -/
def ActiveTerm.Holds (db : Database) (c : Criteria) (j : Row) : ActiveTerm → Prop
  | labels f selected => db.Admits j f selected
  | range q => ∀ p ∈ c.setBounds, p.1.quantity = q → p.1.Admits p.2 (j.cell p.1.column)

instance (db : Database) (c : Criteria) (j : Row) (t : ActiveTerm) : Decidable (t.Holds db c j) := by
  cases t <;> unfold ActiveTerm.Holds <;> infer_instance

/-- The terms of criteria, combined by a policy, hold of a posting; without a term every posting
is admitted. -/
def Criteria.Hold (c : Criteria) (db : Database) (policy : Policy) (j : Row) : Prop :=
  c.terms = [] ∨
    match policy with
    | .all => ∀ t ∈ c.terms, t.Holds db c j
    | .any => ∃ t ∈ c.terms, t.Holds db c j

instance (c : Criteria) (db : Database) (policy : Policy) (j : Row) :
    Decidable (c.Hold db policy j) := by
  have : Decidable (c.terms = []) := decidable_of_iff _ List.isEmpty_iff
  unfold Criteria.Hold
  cases policy <;> infer_instance

namespace Database

/-- The cells of a posting in which search text is looked for. -/
def searched (db : Database) (j : Row) : List Cell :=
  searchColumns.map j.cell ++ searchFields.flatMap (db.labels · j)

/-- A searched cell of a posting holds text that contains the search text. -/
def Mentions (db : Database) (j : Row) (search : String) : Prop :=
  ∃ c ∈ db.searched j, (c.like (Text.containing search)).holds = true

instance (db : Database) (j : Row) (search : String) : Decidable (db.Mentions j search) :=
  inferInstanceAs (Decidable (∃ c ∈ _, _))

/-- A posting matches criteria and search text. -/
def Matches (db : Database) (c : Criteria) (search : String) (policy : Policy) (j : Row) : Prop :=
  c.Hold db policy j ∧ (Text.trim search = "" ∨ db.Mentions j (Text.trim search))

instance (db : Database) (c : Criteria) (search : String) (policy : Policy) (j : Row) :
    Decidable (db.Matches c search policy j) :=
  inferInstanceAs (Decidable (_ ∧ _))

/-- The postings that match criteria and search text. -/
def matching (db : Database) (c : Criteria) (search : String) (policy : Policy) : List Row :=
  db.postings.filter fun j => db.Matches c search policy j

/-! ### Changing one choice -/

variable {db : Database} {c : Criteria}

/-- All terms of criteria hold if the selections admit the posting and its quantities lie within
the bounds. -/
theorem hold_all_iff {j : Row} :
    c.Hold db .all j ↔ (∀ p ∈ c.active, db.Admits j p.1 p.2) ∧
      ∀ q ∈ c.ranges, (ActiveTerm.range q).Holds db c j := by
  have hterms : (∀ t ∈ c.terms, t.Holds db c j) ↔ (∀ p ∈ c.active, db.Admits j p.1 p.2) ∧
      ∀ q ∈ c.ranges, (ActiveTerm.range q).Holds db c j := by
    simp only [Criteria.terms, List.mem_append, List.mem_map, or_imp, forall_and,
      forall_exists_index, and_imp, forall_apply_eq_imp_iff₂]
    rfl
  rw [Criteria.Hold, hterms, or_iff_right_iff_imp, ← hterms]
  intro hnil
  simp [hnil]

/-- The criteria with other labels selected in a field hold if those labels admit the posting and
the criteria on all other fields hold. -/
theorem hold_select (hc : c.Normal) (f : Field) {labels : List String} (hne : labels ≠ [])
    (j : Row) :
    (c.select f.key labels).Hold db .all j ↔
      db.Admits j f labels ∧ (c.withoutField f.key).Hold db .all j := by
  have hset : (c.select f.key labels).setBounds = (c.withoutField f.key).setBounds := by
    rw [Criteria.setBounds, Criteria.bounds_select]
    rfl
  have hranges : (c.select f.key labels).ranges = (c.withoutField f.key).ranges := by
    rw [Criteria.ranges, hset, Criteria.ranges]
  rw [hold_all_iff, hold_all_iff, hranges]
  simp only [Criteria.mem_active_select hc f hne, forall_eq_or_imp, ActiveTerm.Holds, hset]
  rw [and_assoc]

/-- One label admits the postings that carry it. -/
theorem admits_singleton (j : Row) (f : Field) (l : String) :
    db.Admits j f [l] ↔ db.Carries f j l := by
  rw [Admits]
  split <;> simp

/-- The postings that match with only one label selected in a field are those that match without
the field and carry the label. -/
theorem matching_select (hc : c.Normal) (f : Field) (l : String) (search : String) :
    db.matching (c.select f.key [l]) search .all =
      (db.matching (c.withoutField f.key) search .all).filter fun j => db.Carries f j l := by
  rw [matching, matching, List.filter_filter]
  refine List.filter_congr fun j _ => ?_
  rw [Bool.eq_iff_iff, Bool.and_eq_true, decide_eq_true_iff, decide_eq_true_iff,
    decide_eq_true_iff, Matches, Matches, hold_select hc f (by simp), admits_singleton, and_assoc]

end Database

end JobSearch
