import JobSearch.Browse.Page
import JobSearch.Proofs.Dataset.Stored
import JobSearch.Proofs.Matching.Values
import JobSearch.Proofs.Query.Lines

/-!
# What statements about postings range over

The page statement joins the labels of all fields that are shown, the count statement those that
its condition looks at. Both range over the postings that match, in storage order
(`statements_range_over_matching`): the three truth values of conditions and the inner statements
that count labels come down to the two-valued `Database.Matches`.

## Main definitions

* `Statement.ranged` — the postings that a statement ranges over.
-/

namespace JobSearch

open Query

/-- The postings that a statement ranges over, or the table that is missing. -/
def Query.Statement.ranged (db : Database) (s : Statement) : Except String (List Row) :=
  (s.kept db).map (List.map Joined.posting)

/-- A page can be asked for if its number and its size are positive; it is then a slice. -/
theorem Query.Statement.page_eq_ok_iff {p : Predicate} {sortKey : Option String}
    {number size : Int} {converted : Bool} {s : Statement} :
    Statement.page p sortKey number size converted = .ok s ↔ 1 ≤ number ∧ 1 ≤ size ∧
      s = Statement.slice p (SortChoice.ofKey sortKey) converted size ((number - 1) * size) := by
  rw [Statement.page]
  split
  · next h => simp [Int.not_le.mpr h]
  · split
    · next h => simp [Int.not_le.mpr h]
    · next hn hs => simp [Int.not_lt.mp hn, Int.not_lt.mp hs, eq_comm]

/-- The answer to a statement whose values fit the storage. -/
theorem Store.run_readable {db : Database} {s : Statement} {rows : List Joined}
    (hkept : s.kept db = .ok rows) (hfit : s.params.all Cell.fits = true) :
    (Store.readable db).run s = .ok
      { columns := s.outputs.map (·.name)
        rows := (s.window.cut (s.lines rows)).map fun g =>
          s.outputs.map fun o => o.expression.value g } := by
  rw [Store.run, Store.runAs, Statement.run_eq_ok hkept hfit]
  rfl

/-- The values of a statement are those of its predicate and the bounds of its window. -/
theorem Query.Statement.all_fits {s : Statement} {p : Predicate} (hcond : s.condition = p.condition)
    (hp : p.params.all Cell.fits = true)
    (hwindow : s.window = .all ∨ ∃ limit offset, s.window = .slice limit offset ∧
      (Cell.int limit).fits = true ∧ (Cell.int offset).fits = true) :
    s.params.all Cell.fits = true := by
  rw [Predicate.params] at hp
  rw [Statement.params, hcond, List.all_append, Bool.and_eq_true]
  constructor
  · cases h : p.condition with
    | none => rfl
    | some t => simpa [h] using hp
  · rcases hwindow with hall | ⟨limit, offset, hslice, hlimit, hoffset⟩
    · rw [hall]
      rfl
    · simp [hslice, hlimit, hoffset]

namespace Database

variable {db : Database} {c : Criteria} {search : String} {policy : Policy} {s : Statement}

/-- A statement about postings keeps one row for each posting that matches. -/
theorem Conforms.kept_postings (hdb : db.Conforms) (hc : c.Normal) {fields : List Field}
    (hsource : s.source = postingSource fields)
    (hcond : s.condition = (c.predicate search policy).condition)
    (hsub : ∀ f ∈ (c.predicate search policy).referenced, f ∈ fields) :
    s.kept db = .ok ((db.matching c search policy).map (db.joined fields)) := by
  obtain ⟨hanswered, hholds⟩ := hdb.holdsIn?_predicate hc search policy
  have hrows : s.source.rows db = .ok (db.postings.map (db.joined fields)) := by
    rw [hsource]
    exact hdb.postingSource_rows fields
  rw [Statement.kept_eq_filter hrows (hcond ▸ hanswered), hcond, List.filter_map]
  refine congrArg (fun js => Except.ok (List.map (db.joined fields) js))
    (List.filter_congr fun j hj => ?_)
  rw [Bool.eq_iff_iff, decide_eq_true_iff]
  exact hholds j hj _ ((Shows.joined db fields j).mono fun f hf _ => hsub f hf)

theorem Conforms.kept_slice (hdb : db.Conforms) (hc : c.Normal) (search : String)
    (policy : Policy) (sort : SortChoice) (converted : Bool) (limit offset : Int) :
    (Statement.slice (c.predicate search policy) sort converted limit offset).kept db =
      .ok ((db.matching c search policy).map (db.joined
        (displayFields ++ (c.predicate search policy).referenced ++ sort.field?.toList))) :=
  hdb.kept_postings hc rfl rfl fun f hf => by simp [hf]

theorem Conforms.kept_count (hdb : db.Conforms) (hc : c.Normal) (search : String)
    (policy : Policy) :
    (Statement.count (c.predicate search policy)).kept db =
      .ok ((db.matching c search policy).map
        (db.joined (c.predicate search policy).referenced)) :=
  hdb.kept_postings hc rfl rfl fun _ hf => hf

/-- The rows of postings range over the postings. -/
theorem ranged_of_kept {fields : List Field} {js : List Row}
    (h : s.kept db = .ok (js.map (db.joined fields))) : s.ranged db = .ok js := by
  have hid : Joined.posting ∘ db.joined fields = id := funext fun j => db.posting_joined fields j
  rw [Statement.ranged, h, Except.map, List.map_map, hid, List.map_id]

/-- The number of postings that match is told. -/
theorem Conforms.count_eq_ok (hdb : db.Conforms) (hc : c.Normal) (hn : c.Countable) :
    (Store.readable db).count (c.predicate search policy) =
      .ok (db.matching c search policy).length := by
  have hfit : (Statement.count (c.predicate search policy)).params.all Cell.fits = true :=
    Statement.all_fits rfl (hn.fits_predicate search policy) (Or.inl rfl)
  have hrun := Store.run_readable (hdb.kept_count hc search policy) hfit
  rw [Statement.lines_whole _ rfl] at hrun
  rw [Store.count, hrun]
  simp [Statement.count, Window.cut, Result.scalar?, Expression.value, bind, Except.bind,
    Cell.toJson, Json.readInteger]

/-- Whatever the order and the size of a page, it ranges over the postings that match, and so
does the statement that counts them. -/
theorem statements_range_over_matching (hdb : db.Conforms) (hc : c.Normal)
    (hfields : c.Filterable) (hn : c.Countable) (search : String) (policy : Policy) :
    ∃ p, Predicate.compile c search policy none = .ok p ∧
      (∀ sortKey number size converted s,
        Statement.page p sortKey number size converted = .ok s →
          s.ranged db = .ok (db.matching c search policy)) ∧
      (Statement.count p).ranged db = .ok (db.matching c search policy) ∧
      (Store.readable db).count p = .ok (db.matching c search policy).length := by
  refine ⟨c.predicate search policy, Predicate.compile_eq_ok hfields search policy, ?_,
    ranged_of_kept (hdb.kept_count hc search policy), hdb.count_eq_ok hc hn⟩
  intro sortKey number size converted s hs
  obtain ⟨-, -, rfl⟩ := Statement.page_eq_ok_iff.mp hs
  exact ranged_of_kept (hdb.kept_slice hc search policy _ converted size _)

/-- All jobs of the small dataset are in one of the cities and ask for the skill. -/
theorem count_matching_sample : ∃ p, Predicate.compile .sample "" .all none = .ok p ∧
    (Statement.count p).ranged Dataset.sample.database = .ok Dataset.sample.database.postings ∧
    (Store.readable Dataset.sample.database).count p = .ok 3 := by
  have hall : Dataset.sample.database.matching .sample "" .all =
      Dataset.sample.database.postings := by decide +kernel
  have hlength : Dataset.sample.database.postings.length = 3 := by decide +kernel
  obtain ⟨p, hp, -, hranged, hcount⟩ := statements_range_over_matching
    Dataset.storable_sample.conforms Criteria.normal_sample Criteria.filterable_sample
    Criteria.countable_sample "" .all
  rw [hall] at hranged
  rw [hall, hlength] at hcount
  exact ⟨p, hp, hranged, hcount⟩

end Database

end JobSearch
