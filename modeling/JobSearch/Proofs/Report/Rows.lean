import JobSearch.Proofs.Matching.Statements
import JobSearch.Proofs.Statement.Scoped

/-!
# Rows of reports

A standing report joins its own tables to the postings, and behind them the label tables that the
criteria look at. The latter add columns and no rows, and no column that the report itself looks
at. So under any criteria a report ranges over the same rows; it keeps those of the postings that
match, as far as they hold what the report requires (`StandingReport.kept_statement`).

## Main definitions

* `Database.extended` — the rows that joins make of a row.
* `StandingReport.rowsFor`, `StandingReport.shownRows` — the rows of a posting in a report, and
  those that hold what the report requires.
-/

namespace JobSearch

open Query

theorem flatMap_ite {α β : Type} (p : α → Bool) (f : α → List β) (as : List α) :
    (as.flatMap fun a => if p a then f a else []) = (as.filter p).flatMap f := by
  induction as with
  | nil => rfl
  | cons a as ih =>
    rw [List.flatMap_cons, ih, List.filter_cons]
    split
    · rw [List.flatMap_cons]
    · rfl

namespace Query

/-- A join goes on from a row with further columns. -/
theorem mem_extend {j : Join} {rows : List Row} {r x : Joined} (h : x ∈ j.extend rows r) :
    ∃ row, x = (j.qualifier, row) :: r := by
  have hpartner {x : Joined} (hx : x ∈ j.partners rows r) : ∃ row, x = (j.qualifier, row) :: r := by
    obtain ⟨row, -, rfl⟩ := List.mem_map.mp (List.mem_filter.mp hx).1
    exact ⟨row, rfl⟩
  rw [Join.extend] at h
  split at h
  · exact ⟨[], List.mem_singleton.mp h⟩
  · exact hpartner h

end Query

namespace Database

variable {db : Database}

/-- The rows that some joins make of one. -/
def extended (db : Database) : List Join → Joined → List Joined
  | [], r => [r]
  | j :: js, r => (j.extend (db.stored j.table) r).flatMap (db.extended js)

/-- Tables that are there are joined to rows one by one. -/
theorem joinAll_eq_flatMap {js : List Join} (h : ∀ j ∈ js, (db.table? j.table).isSome = true)
    (rows : List Joined) : joinAll db js rows = .ok (rows.flatMap (db.extended js)) := by
  induction js generalizing rows with
  | nil => exact congrArg Except.ok (List.flatMap_singleton' rows).symm
  | cons j js ih =>
    rw [joinAll, rowsOf_eq_stored (h j (by simp))]
    simp only
    rw [ih fun k hk => h k (by simp [hk]), List.flatMap_assoc]
    rfl

theorem posting_of_mem_extended {js : List Join} (h : ∀ j ∈ js, j.qualifier ≠ postingQualifier)
    {r x : Joined} (hx : x ∈ db.extended js r) : x.posting = r.posting := by
  induction js generalizing r with
  | nil => rw [List.mem_singleton.mp hx]
  | cons j js ih =>
    obtain ⟨y, hy, hx⟩ := List.mem_flatMap.mp hx
    obtain ⟨row, rfl⟩ := mem_extend hy
    rw [ih (fun k hk => h k (by simp [hk])) hx, Joined.posting_cons_of_ne (h j (by simp))]

theorem withLookups_append (fs gs : List Field) (r : Joined) :
    db.withLookups (fs ++ gs) r = db.withLookups gs (db.withLookups fs r) :=
  List.foldl_append

end Database

namespace StandingReport

variable {db : Database} {r : StandingReport} {c : Criteria} {p : Predicate} {j : Row} {x : Joined}

/-- The fields whose tables are joined to a report for the sake of a predicate only. -/
def extraFields (r : StandingReport) (p : Predicate) : List Field :=
  (Field.joinedOf p.referenced).filter fun f => f ∉ Field.joinedOf r.fields

/-- The rows of a posting under the joins of a report itself. -/
def rowsFor (r : StandingReport) (db : Database) (j : Row) : List Joined :=
  (db.extended r.joins [(postingQualifier, j)]).map (db.withLookups (Field.joinedOf r.fields))

/-- The rows of a posting in a report that hold what the report requires. -/
def shownRows (r : StandingReport) (db : Database) (j : Row) : List Joined :=
  (r.rowsFor db j).filter fun x => r.present.all fun col => !(x.cell col).isNull

/-! ### Tables and qualifiers -/

theorem hasTables_joins (hdb : db.Conforms) (hr : r ∈ all) :
    ∀ j ∈ r.joins, (db.table? j.table).isSome = true := by
  have hskills : ∀ r ∈ all, ∀ j ∈ r.joins, j.table ∈ Field.hardSkills.tables := by decide +kernel
  exact fun j hj => hdb.hasTables .hardSkills _ (hskills r hr j hj)

theorem joins_qualifier_ne (hr : r ∈ all) :
    ∀ j ∈ r.joins, j.qualifier ≠ postingQualifier := by
  intro j hj he
  exact (joins_qualifiers r hr).2 j.qualifier (List.mem_map.mpr ⟨j, hj, rfl⟩)
    (he ▸ List.mem_cons_self)

theorem posting_of_mem_rowsFor (hr : r ∈ all) (hx : x ∈ r.rowsFor db j) : x.posting = j := by
  obtain ⟨y, hy, rfl⟩ := List.mem_map.mp hx
  rw [Database.posting_withLookups, Database.posting_of_mem_extended (joins_qualifier_ne hr) hy,
    Joined.posting_singleton]

/-- The tables joined for the criteria have no column that the report looks at. -/
theorem cell_extraFields (hr : r ∈ all) {col : Column} (hcol : col ∈ r.columns) (x : Joined) :
    (db.withLookups (r.extraFields p) x).cell col = x.cell col := by
  refine Database.cell_withLookups_of_not_mem (fun f hf he => ?_) x
  have hown : f ∉ Field.joinedOf r.fields := by simpa using (List.mem_filter.mp hf).2
  rcases List.mem_cons.mp (columns_qualifiers r hr col hcol) with hposting | hcol
  · exact f.qualifier_ne_posting (he.trans hposting)
  · rcases List.mem_append.mp hcol with hjoin | hfield
    · refine (joins_qualifiers r hr).2 _ hjoin (List.mem_cons_of_mem _ ?_)
      exact List.mem_flatMap.mpr ⟨f, f.mem_all, he ▸ f.mem_qualifiers_self⟩
    · obtain ⟨g, hg, hgq⟩ := List.mem_map.mp hfield
      exact hown (Field.qualifier_inj (he.trans hgq.symm) ▸ hg)

/-- With the tables that are joined for the criteria, a row shows what the predicate looks at. -/
theorem shows_extraFields (hr : r ∈ all) (hx : x ∈ r.rowsFor db j) :
    Shows db p.referenced j (db.withLookups (r.extraFields p) x) := by
  refine ⟨by rw [Database.posting_withLookups, posting_of_mem_rowsFor hr hx], ?_⟩
  intro f hf hshape
  have hposting := posting_of_mem_rowsFor hr hx
  obtain ⟨y, -, rfl⟩ := List.mem_map.mp hx
  have hmem : f ∈ Field.joinedOf r.fields ++ r.extraFields p :=
    mem_joinedFields (Or.inr (Field.mem_joinedOf.mpr ⟨hf, hshape⟩))
  rw [Database.posting_withLookups] at hposting
  rw [← Database.withLookups_append, Field.labelColumn, Database.cell_withLookups_of_mem hmem,
    hposting]
  rfl

/-! ### The rows that are kept -/

/-- The rows that a report ranges over are those of the postings, whatever the predicate. -/
theorem rows_statement (hdb : db.Conforms) (hr : r ∈ all) (p : Predicate) :
    (r.statement p).source.rows db =
      .ok ((db.postings.flatMap (r.rowsFor db)).map (db.withLookups (r.extraFields p))) := by
  have hlookup : ∀ f ∈ r.joinedFields p, f.entry.shape = .lookup := by
    intro f hf
    rcases List.mem_append.mp hf with hf | hf
    · exact (Field.mem_joinedOf.mp hf).2
    · exact (Field.mem_joinedOf.mp (List.mem_filter.mp hf).1).2
  have hjoins : (r.statement p).source =
      ⟨postingTable, postingQualifier, r.joins ++ (r.joinedFields p).map Field.lookupJoin⟩ := by
    rw [← addedJoins_eq]
    rfl
  have hjoined : db.withLookups (r.joinedFields p) =
      db.withLookups (r.extraFields p) ∘ db.withLookups (Field.joinedOf r.fields) :=
    funext fun x => Database.withLookups_append _ _ x
  rw [hjoins, Source.rows, hdb.rowsOf_postings]
  simp only [joinAll_append, Database.joinAll_eq_flatMap (hasTables_joins hdb hr),
    hdb.joinAll_lookups _ hlookup, hjoined]
  simp only [List.flatMap_map, List.map_flatMap, rowsFor, List.map_map, Function.comp_def]

/-- What a report asks of a row are its own requirements and the predicate. -/
theorem holdsIn?_statement (x : Joined) (p : Predicate) :
    Condition.holdsIn? db x (r.statement p).condition =
      ((r.present.all fun col => !(x.cell col).isNull) &&
        Condition.holdsIn? db x p.condition) := by
  rw [statement, Condition.holdsIn?_all?, List.all_append, required, List.all_map]
  cases p.condition with
  | none => rfl
  | some t => exact congrArg _ (Bool.and_true _)

theorem answered?_statement (h : Condition.Answered? db p.condition) :
    Condition.Answered? db (r.statement p).condition := by
  intro d hd s hs
  have hmem : s ∈ (r.statement p).condition.toList.flatMap Condition.carriers :=
    List.mem_flatMap.mpr ⟨d, Option.mem_toList.mpr hd, hs⟩
  rw [collect_statement (fun _ _ => rfl) fun _ => rfl, List.mem_append] at hmem
  rcases hmem with hmem | hmem
  · obtain ⟨t, ht, hs⟩ := List.mem_flatMap.mp hmem
    obtain ⟨col, -, rfl⟩ := List.mem_map.mp ht
    simp [Condition.carriers] at hs
  · obtain ⟨t, ht, hs⟩ := List.mem_flatMap.mp hmem
    exact h t (Option.mem_toList.mp ht) s hs

/-- Under criteria a report keeps the rows of the postings that match, those that hold what the
report requires. -/
theorem kept_statement (hdb : db.Conforms) (hr : r ∈ all) (hc : c.Normal) (search : String)
    (policy : Policy) :
    (r.statement (c.predicate search policy)).kept db =
      .ok (((db.matching c search policy).flatMap (r.shownRows db)).map
        (db.withLookups (r.extraFields (c.predicate search policy)))) := by
  obtain ⟨hanswered, hholds⟩ := hdb.holdsIn?_predicate hc search policy
  rw [Statement.kept_eq_filter (rows_statement hdb hr _) (answered?_statement hanswered),
    List.filter_map, List.filter_flatMap, Database.matching, ← flatMap_ite]
  refine congrArg (fun rows => Except.ok (List.map _ rows)) (List.flatMap_congr fun j hj => ?_)
  have hkept : ∀ x ∈ r.rowsFor db j,
      Condition.holdsIn? db (db.withLookups (r.extraFields (c.predicate search policy)) x)
          (r.statement (c.predicate search policy)).condition =
        ((r.present.all fun col => !(x.cell col).isNull) &&
          decide (db.Matches c search policy j)) := by
    intro x hx
    rw [holdsIn?_statement]
    refine congrArg₂ (· && ·) ?_ ?_
    · rw [Bool.eq_iff_iff, List.all_eq_true, List.all_eq_true]
      refine forall₂_congr fun col hcol => ?_
      rw [cell_extraFields hr (List.mem_append_left _ (List.mem_append_right _ hcol))]
    · rw [Bool.eq_iff_iff, decide_eq_true_iff]
      exact hholds j hj _ (shows_extraFields hr hx)
  refine (List.filter_congr hkept).trans ?_
  by_cases hmatch : db.Matches c search policy j
  · simp only [hmatch, decide_true, Bool.and_true, if_true]
    rfl
  · simp [hmatch]

end StandingReport

end JobSearch
