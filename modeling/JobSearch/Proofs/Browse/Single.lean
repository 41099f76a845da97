import JobSearch.Proofs.Browse.PageRows
import JobSearch.Proofs.Loading.Serving

/-!
# Single postings

The statement of a single posting finds the posting of an id and shows the same document of it as a
page does (`Database.Conforms.documents_posting`). So a posting of a page is the one that is found
by its id, and nothing is found for an id only if no posting has it
(`Database.single_posting_agrees_with_page`).
-/

namespace JobSearch

open Query

/-- One of several rows has its id. -/
theorem Keyed.filter_idOf {rows : List Row} (h : Keyed rows) {j : Row} (hj : j ∈ rows) :
    (rows.filter fun i => decide (Database.idOf i = Database.idOf j)) = [j] := by
  refine List.perm_singleton.mp ((List.perm_ext_iff_of_nodup (h.nodup_rows.filter _)
    (List.nodup_singleton j)).mpr fun i => ?_)
  rw [List.mem_filter, decide_eq_true_iff, List.mem_singleton]
  constructor
  · rintro ⟨hi, hid⟩
    exact h.eq_of_idOf_eq hi hj hid
  · rintro rfl
    exact ⟨hj, rfl⟩

/-- Rows that are not sorted are lines in their own order. -/
theorem Query.Statement.lines_unsorted {s : Statement} (hgroup : s.grouping = .each)
    (horder : s.order = []) (rows : List Joined) : s.lines rows = rows.map fun r => [r] := by
  have hbefore : ∀ g h, s.before g h = true := by
    intro g h
    rw [Statement.before, horder]
    rfl
  rw [Statement.lines_eq_mergeSort, hgroup]
  exact List.mergeSort_of_pairwise (List.pairwise_of_forall fun g h => hbefore g h)

namespace Database

variable {db : Database}

/-- The statement of a single posting shows the postings with its id. -/
theorem Conforms.documents_posting (hdb : db.Conforms) {id : Int}
    (hfit : (Cell.int id).fits = true) (converted : Bool) :
    ∃ r, (Store.readable db).run (Statement.posting id converted) = .ok r ∧
      r.documents = (db.postings.filter fun j => decide (idOf j = id)).map
        (db.postingDocument converted) := by
  have hanswered : Condition.Answered? db (Statement.posting id converted).condition := by
    intro c hc s hs
    obtain rfl := Option.some.inj hc
    simp [Condition.carriers] at hs
  have hkept := Statement.kept_eq_filter (s := Statement.posting id converted)
    (hdb.postingSource_rows displayFields) hanswered
  have hparams : (Statement.posting id converted).params.all Cell.fits = true := by
    simpa [Statement.params, Statement.posting, Condition.params] using hfit
  refine ⟨_, Store.run_readable hkept hparams, ?_⟩
  have hholds : ∀ j ∈ db.postings, Condition.holdsIn? db (db.joined displayFields j)
      (Statement.posting id converted).condition = decide (idOf j = id) := by
    intro j hj
    show (((db.joined displayFields j).cell ⟨postingQualifier, "id"⟩).equals (.int id)).holds = _
    rw [(Shows.joined db displayFields j).cell "id", hdb.cell_id hj, Bool.eq_iff_iff,
      Cell.holds_equals_iff, decide_eq_true_iff, eq_comm]
  have hlines : ∀ rows, (Statement.posting id converted).window.cut
      ((Statement.posting id converted).lines rows) = rows.map fun r => [r] :=
    fun rows => Statement.lines_unsorted rfl rfl rows
  have hfilter : (db.postings.filter ((fun r => Condition.holdsIn? db r
      (Statement.posting id converted).condition) ∘ db.joined displayFields)) =
      db.postings.filter fun j => decide (idOf j = id) :=
    List.filter_congr hholds
  rw [hlines, List.filter_map, hfilter, documents_eq, List.map_map, List.map_map]
  rfl

/-- The posting of an id that a posting has is found. -/
theorem Conforms.posting?_idOf (hdb : db.Conforms) {converted : Bool}
    (hconverted : (Store.readable db).hasConversion = .ok converted) {j : Row}
    (hj : j ∈ db.postings) :
    (Store.readable db).posting? (idOf j) =
      ((Store.readable db).attach (db.postingDocument converted j)).map some := by
  obtain ⟨r, hr, hdocuments⟩ := hdb.documents_posting (hdb.postings.fits_id hj) converted
  rw [hdb.postings.filter_idOf hj] at hdocuments
  simp only [Store.posting?, hconverted, hr, hdocuments, List.map_singleton, bind, Except.bind]
  cases (Store.readable db).attach (db.postingDocument converted j) <;> rfl

/-- Nothing is found for an id that no posting has. -/
theorem Conforms.posting?_of_absent (hdb : db.Conforms) {id : Int}
    (hfit : (Cell.int id).fits = true) (habsent : ∀ j ∈ db.postings, idOf j ≠ id) :
    (Store.readable db).posting? id = .ok none := by
  obtain ⟨converted, hconverted⟩ := Store.hasConversion_readable db
  obtain ⟨r, hr, hdocuments⟩ := hdb.documents_posting hfit converted
  have hnone : (db.postings.filter fun j => decide (idOf j = id)) = [] :=
    List.filter_eq_nil_iff.mpr fun j hj => by simpa using habsent j hj
  rw [hnone] at hdocuments
  simp only [Store.posting?, hconverted, hr, hdocuments, List.map_nil, bind, Except.bind]
  rfl

/-- Each posting of a page is made from the document of a posting. -/
theorem Conforms.attach_of_mem_page (hdb : db.Conforms) {converted : Bool}
    (hconverted : (Store.readable db).hasConversion = .ok converted) {atOnce : Bool}
    {q : PageRequest} {p : Page} (hp : (Store.readable db).page atOnce q = .ok p) {e : Posting}
    (he : e ∈ p.postings) :
    ∃ j ∈ db.postings, (Store.readable db).attach (db.postingDocument converted j) = .ok e := by
  obtain ⟨predicate, -, hp⟩ := bind_eq_ok_iff.mp hp
  obtain ⟨total, -, hp⟩ := bind_eq_ok_iff.mp hp
  obtain ⟨shown, hshown, hp⟩ := bind_eq_ok_iff.mp hp
  obtain ⟨s, hs, hp⟩ := bind_eq_ok_iff.mp hp
  obtain ⟨r, hr, hp⟩ := bind_eq_ok_iff.mp hp
  obtain ⟨postings, hpostings, hp⟩ := bind_eq_ok_iff.mp hp
  obtain ⟨pages, -, hp⟩ := bind_eq_ok_iff.mp hp
  obtain rfl := Except.ok.inj hp
  obtain rfl := Except.ok.inj (hconverted.symm.trans hshown)
  rw [hdb.attachTo_eq atOnce fun row hrow =>
    hdb.rowId_of_isPageRow ⟨_, _, _, _, _, s, r, hs, hr, hrow⟩] at hpostings
  obtain ⟨row, hrow, hattach⟩ := forall₂_left (forall₂_of_mapM hpostings) e he
  obtain ⟨j, hj, rfl⟩ := hdb.documents_page hs hr hrow
  exact ⟨j, hj, hattach⟩

/-- If the columns of postings hold what they prefer, a posting is made of every document. -/
theorem Readable.exists_attach (hdb : db.Readable) (converted : Bool) {j : Row}
    (hj : j ∈ db.postings) :
    ∃ e, (Store.readable db).attach (db.postingDocument converted j) = .ok e := by
  obtain ⟨e, he, -⟩ := Posting.read_eq_ok (hdb.typed_postingDocument converted hj)
    (db.attached_attachments (idOf j))
  exact ⟨e, (hdb.attach_postingDocument converted hj).trans he⟩

/-- Let services answer from one dataset, whatever their settings are and whatever they were asked
before. Each posting of a page of one of them is the one that another finds by its id. Nothing is
found for an id exactly if no posting has it; if the columns of postings hold what they prefer,
the posting of every other id is found. -/
theorem single_posting_agrees_with_page (hdb : db.Conforms) {s t : Service}
    (hs : s.AnswersFrom (.readable db)) (ht : t.AnswersFrom (.readable db)) :
    (∀ q p, (s.page q).1 = .ok p → ∀ e ∈ p.postings, (t.posting? e.id).1 = .ok (some e)) ∧
    (∀ id, (Cell.int id).fits = true →
      ((t.posting? id).1 = .ok none ↔ ∀ j ∈ db.postings, idOf j ≠ id)) ∧
    (db.Readable → ∀ j ∈ db.postings, ∃ e, (t.posting? (idOf j)).1 = .ok (some e) ∧
      e.id = idOf j) ∧
    ∀ q id, (s.page q).2.AnswersFrom (.readable db) ∧
      (t.posting? id).2.AnswersFrom (.readable db) := by
  obtain ⟨converted, hconverted⟩ := Store.hasConversion_readable db
  have hpage : ∀ q, (s.page q).1 = (Store.readable db).page s.settings.batchHydration q :=
    fun q => (hs.ask _).1
  have hposting : ∀ id, (t.posting? id).1 = (Store.readable db).posting? id :=
    fun id => (ht.ask _).1
  refine ⟨fun q p hp e he => ?page, fun id hfit => ⟨fun hnone j hj hid => ?some, fun habsent => ?none⟩,
    fun hread j hj => ?found, fun q id => ⟨(hs.ask _).2, (ht.ask _).2⟩⟩
  case page =>
    rw [hpage] at hp
    obtain ⟨j, hj, hattach⟩ := hdb.attach_of_mem_page hconverted hp he
    rw [hposting, (hdb.read_of_attach converted hj hattach).1, hdb.posting?_idOf hconverted hj, hattach]
    rfl
  case some =>
    subst hid
    rw [hposting, hdb.posting?_idOf hconverted hj] at hnone
    cases hattach : (Store.readable db).attach (db.postingDocument converted j) with
    | ok e => simp [hattach, Except.map] at hnone
    | error f => simp [hattach, Except.map] at hnone
  case none => exact (hposting id).trans (hdb.posting?_of_absent hfit habsent)
  case found =>
    obtain ⟨e, he⟩ := hread.exists_attach converted hj
    refine ⟨e, ?_, (hdb.read_of_attach converted hj he).1⟩
    rw [hposting, hdb.posting?_idOf hconverted hj, he]
    rfl

/-- One service asks for the labels of a page at once, another for those of a single posting. -/
theorem single_posting_agrees_in_sample : ∃ s t p e,
    s = Service.initial ⟨none, "", none, 30, 20, "MDL", true, none⟩
      (.opened (.readable Dataset.sample.database)) ∧
    t = Service.initial ⟨none, "", none, 30, 20, "MDL", false, none⟩
      (.opened (.readable Dataset.sample.database)) ∧
    (s.page ⟨1, 3, .sample, "", some "city", .all⟩).1 = .ok p ∧ e ∈ p.postings ∧ e.id = 7 ∧
    (t.posting? 7).1 = .ok (some e) ∧ (t.posting? 4).1 = .ok none := by
  have hread := Dataset.storable_sample.readable Dataset.typed_sample
  have hmatching : (Dataset.sample.database.matching .sample "" .all).map idOf = [7, 3, 5] := by
    decide +kernel
  have hmax : Dataset.sample.database.postings.length ≤ Number.twoTo 53 := by decide +kernel
  have habsent : ∀ j ∈ Dataset.sample.database.postings, idOf j ≠ 4 := by decide +kernel
  obtain ⟨hfound, hnone, -, -⟩ := single_posting_agrees_with_page Dataset.storable_sample.conforms
    (Service.answersFrom_initial ⟨none, "", none, 30, 20, "MDL", true, none⟩ _)
    (Service.answersFrom_initial ⟨none, "", none, 30, 20, "MDL", false, none⟩ _)
  -- The page shows all three postings that match.
  obtain ⟨postings, hpages⟩ := hread.exists_postings hmax Criteria.normal_sample
    Criteria.filterable_sample Criteria.countable_sample "" .all (some "city") true
    (show 0 < 3 by decide) (by decide)
  obtain ⟨hpage, hids⟩ := hpages 0 (by decide)
  have hperm := (Dataset.sample.database.listed_perm .sample "" .all
    (SortChoice.ofKey (some "city"))).map idOf
  rw [hmatching] at hperm
  rw [List.map_take, Nat.zero_mul, List.drop_zero,
    List.take_of_length_le (show _ ≤ 3 from hperm.length_eq.le)] at hids
  have h7 : (7 : Int) ∈ (postings 0).map (·.id) := by
    rw [hids, hperm.mem_iff]
    decide
  obtain ⟨e, he, hid⟩ := List.mem_map.mp h7
  have hs := ((Service.answersFrom_initial ⟨none, "", none, 30, 20, "MDL", true, none⟩
    (.readable Dataset.sample.database)).ask fun store =>
      store.page true ⟨1, 3, .sample, "", some "city", .all⟩).1.trans hpage
  exact ⟨_, _, _, e, rfl, rfl, hs, he, hid, hid ▸ hfound _ _ hs e he,
    (hnone 4 (by decide)).mpr habsent⟩

end Database

end JobSearch
