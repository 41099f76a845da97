import JobSearch.Proofs.Report.Tally

/-!
# Totals of reports

Four of the standing reports show every posting that matches and holds what they require, and
each in one row: a posting has one row in them, there is a label for a posting without one, and
no line is left out. So the numbers of a report add up to the number of all such postings
(`StandingReport.Tally.sum_eq`). The others show the most frequent labels only, leave out postings
without a label, or count a posting under each of its skills.

Criteria leave fewer postings, so in all reports they leave fewer labels and no label with more
postings (`StandingReport.counts_each_once`).

## Main definitions

* `StandingReport.exhaustive` — the reports that show every posting.
* `StandingReport.Requires` — a posting holds what a report requires.
-/

namespace JobSearch

open Query

namespace StandingReport

variable {db : Database} {r : StandingReport} {c d : Criteria} {j : Row} {x : Joined}
  {tally more : List (Cell × Nat)}

/-! ### One row for each posting -/

/-- The reports that show every posting which holds what they require. -/
def exhaustive : List StandingReport := [experience, flexibility, employment, salaries]

/-- A posting holds what a report requires of postings. -/
def Requires (r : StandingReport) (j : Row) : Prop :=
  ∀ col ∈ r.present, (j.cell col.name).isNull = false

instance (r : StandingReport) (j : Row) : Decidable (r.Requires j) :=
  inferInstanceAs (Decidable (∀ col ∈ r.present, _))

/-- The exhaustive reports join no table but those of labels, have no limit, and require something
of postings only. -/
theorem exhaustive_plain : ∀ r ∈ exhaustive, r.joins = [] ∧ r.limit = none ∧
    ∀ col ∈ r.present, col.qualifier = postingQualifier := by
  decide +kernel

theorem mem_all_of_exhaustive (hr : r ∈ exhaustive) : r ∈ all := by
  simp only [exhaustive, List.mem_cons, List.not_mem_nil, or_false] at hr
  rcases hr with rfl | rfl | rfl | rfl <;> simp [all]

theorem shownRows_exhaustive (hr : r ∈ exhaustive) (db : Database) (j : Row) :
    r.shownRows db j = if r.Requires j then [db.joined r.fields j] else [] := by
  obtain ⟨hjoins, -, hpresent⟩ := exhaustive_plain r hr
  have hrows : r.rowsFor db j = [db.joined r.fields j] := by
    rw [rowsFor, hjoins]
    rfl
  have hcell : ∀ col ∈ r.present, (db.joined r.fields j).cell col = j.cell col.name := by
    intro col hcol
    have hcolumn : col = ⟨postingQualifier, col.name⟩ := by rw [← hpresent col hcol]
    rw [hcolumn, Joined.cell_posting, Database.posting_joined]
  have hrequires : (r.present.all fun col => !((db.joined r.fields j).cell col).isNull) = true ↔
      r.Requires j := by
    rw [List.all_eq_true]
    exact forall₂_congr fun col hcol => by rw [hcell col hcol, Bool.not_eq_true']
  rw [shownRows, hrows, List.filter_cons, List.filter_nil]
  exact if_congr hrequires rfl rfl

theorem counts_exhaustive (hr : r ∈ exhaustive) (v : Cell) :
    r.Counts db j v ↔ r.Requires j ∧ r.labelOf (db.joined r.fields j) = v := by
  rw [Counts, shownRows_exhaustive hr]
  by_cases h : r.Requires j <;> simp [h]

/-- In an exhaustive report every row has a label, at worst that of the rows without one. -/
theorem exists_text_labelOf (hdb : db.Conforms) (hr : r ∈ exhaustive)
    (hx : x ∈ r.rowsFor db j) : ∃ l, r.labelOf x = .text l := by
  simp only [exhaustive, List.mem_cons, List.not_mem_nil, or_false] at hr
  rcases hr with rfl | rfl | rfl | rfl
  · exact ⟨_, rfl⟩
  · exact (isLabel_of_field hdb hx (f := .remoteWork) (by decide)).exists_text_of_orElse _
  · exact (isLabel_of_field hdb hx (f := .employmentType) (by decide)).exists_text_of_orElse _
  · exact ⟨_, rfl⟩

/-! ### Adding up -/

theorem Tally.mem_labels_iff (h : r.Tally db c tally) (v : Cell) :
    v ∈ tally.map (·.1) ↔ ∃ j ∈ db.matching c "" .any, r.Counts db j v := by
  rw [List.mem_map]
  constructor
  · rintro ⟨t, ht, rfl⟩
    obtain ⟨hpos, hcount⟩ := (h.mem_iff t.1 t.2).mp ht
    obtain ⟨j, hj⟩ := List.exists_mem_of_length_pos (hcount ▸ hpos)
    obtain ⟨hj, hcounts⟩ := List.mem_filter.mp hj
    exact ⟨j, hj, of_decide_eq_true hcounts⟩
  · rintro ⟨j, hj, hcounts⟩
    have hmem : j ∈ r.counted db c v := List.mem_filter.mpr ⟨hj, decide_eq_true hcounts⟩
    exact ⟨(v, _), (h.mem_iff v _).mpr ⟨List.length_pos_of_mem hmem, rfl⟩, rfl⟩

/-- If no posting is counted under two labels, the numbers of a tally add up to the number of
postings that are counted at all. -/
theorem Tally.sum_eq (h : r.Tally db c tally)
    (hone : ∀ j ∈ db.matching c "" .any, ∀ v w, r.Counts db j v → r.Counts db j w → v = w) :
    (tally.map (·.2)).sum =
      ((db.matching c "" .any).filter fun j => !(r.shownRows db j).isEmpty).length := by
  have hnumbers : tally.map (·.2) = (tally.map (·.1)).map fun v =>
      ((db.matching c "" .any).filter fun j => r.Counts db j v).length := by
    rw [List.map_map]
    exact List.map_congr_left fun t ht => ((h.mem_iff t.1 t.2).mp ht).2
  rw [hnumbers, sum_length_filter h.nodup fun j hj v w hv hw =>
    hone j hj v w (of_decide_eq_true hv) (of_decide_eq_true hw)]
  refine congrArg List.length (List.filter_congr fun j hj => ?_)
  rw [Bool.eq_iff_iff, List.any_eq_true, Bool.not_eq_true', List.isEmpty_eq_false_iff]
  constructor
  · rintro ⟨v, -, hv⟩
    obtain ⟨x, hx, -⟩ := of_decide_eq_true hv
    exact List.ne_nil_of_mem hx
  · intro hne
    obtain ⟨x, hx⟩ := List.exists_mem_of_ne_nil _ hne
    have hcounts : r.Counts db j (r.labelOf x) := ⟨x, hx, rfl⟩
    exact ⟨_, (h.mem_labels_iff _).mpr ⟨j, hj, hcounts⟩, decide_eq_true hcounts⟩

/-! ### Fewer postings -/

/-- With fewer postings there are no more labels. -/
theorem Tally.length_le (h : r.Tally db c tally) (hmore : r.Tally db d more)
    (hsub : db.matching c "" .any ⊆ db.matching d "" .any) : tally.length ≤ more.length := by
  have hlabels : tally.map (·.1) ⊆ more.map (·.1) := by
    intro v hv
    obtain ⟨j, hj, hcounts⟩ := (h.mem_labels_iff v).mp hv
    exact (hmore.mem_labels_iff v).mpr ⟨j, hsub hj, hcounts⟩
  simpa using (List.subperm_of_subset h.nodup hlabels).length_le

/-- With fewer postings no label has more of them. -/
theorem Tally.count_le (h : r.Tally db c tally) (hmore : r.Tally db d more)
    (hsub : (db.matching c "" .any).Sublist (db.matching d "" .any)) {t u : Cell × Nat}
    (ht : t ∈ tally) (hu : u ∈ more) (hlabel : t.1 = u.1) : t.2 ≤ u.2 := by
  rw [((h.mem_iff t.1 t.2).mp ht).2, ((hmore.mem_iff u.1 u.2).mp hu).2, hlabel]
  exact (hsub.filter _).length_le

/-- All postings match where nothing is filtered by. -/
theorem matching_empty (db : Database) (policy : Policy) :
    db.matching .empty "" policy = db.postings := by
  have hblank : Text.trim "" = "" := by decide
  exact List.filter_eq_self.mpr fun j _ => decide_eq_true ⟨Or.inl rfl, Or.inl hblank⟩

/-- What is shown of a row of the answer is an entry of the tally. -/
theorem exists_entry {rows : List Record}
    (h : rows.map r.entry = (r.window.cut tally).map shownEntry)
    {row : Record} (hrow : row ∈ rows) : ∃ t ∈ tally, r.entry row = shownEntry t := by
  obtain ⟨t, ht, he⟩ := List.mem_map.mp
    (h ▸ List.mem_map.mpr ⟨row, hrow, rfl⟩ : r.entry row ∈ (r.window.cut tally).map shownEntry)
  exact ⟨t, (Window.cut_sublist _ _).subset ht, he.symm⟩

/-! ### All reports -/

/-- The tally of an exhaustive report by the texts of its labels. -/
theorem exists_texts (hdb : db.Conforms) (hr : r ∈ exhaustive) (h : r.Tally db c tally) :
    ∃ texts : List (String × Nat), texts.map (fun t => (Cell.text t.1, t.2)) = tally := by
  have hrange : tally ∈ Set.range (List.map fun t : String × Nat => (Cell.text t.1, t.2)) := by
    rw [Set.range_list_map]
    intro t ht
    obtain ⟨j, -, x, hx, hlabel⟩ := (h.mem_labels_iff t.1).mp (List.mem_map.mpr ⟨t, ht, rfl⟩)
    obtain ⟨l, hl⟩ := exists_text_labelOf hdb hr (List.mem_filter.mp hx).1
    exact ⟨(l, t.2), Prod.ext (hl.symm.trans hlabel) rfl⟩
  exact hrange

/-- The rows of an answer count each posting that matches and holds what the report requires in
exactly one of them. -/
structure CountsOnce (r : StandingReport) (db : Database) (c : Criteria) (rows : List Record)
    (tally : List (String × Nat)) : Prop where
  entries : rows.map r.entry = tally.map fun t => (some (.text t.1), some (.int t.2))
  distinct : (tally.map (·.1)).Nodup
  total : (tally.map (·.2)).sum = ((db.matching c "" .any).filter fun j => r.Requires j).length
  number : ∀ t ∈ tally, t.2 = ((db.matching c "" .any).filter fun j =>
    r.Requires j ∧ r.labelOf (db.joined r.fields j) = .text t.1).length
  unique : ∀ j ∈ db.matching c "" .any, r.Requires j →
    ∃! t, t ∈ tally ∧ r.labelOf (db.joined r.fields j) = .text t.1

/-- Some rows of a report are no more than others, and those of one label have no more
postings. -/
structure NoMore (r : StandingReport) (rows whole : List Record) : Prop where
  length : rows.length ≤ whole.length
  number : ∀ row ∈ rows, ∀ row' ∈ whole, (r.entry row).1 = (r.entry row').1 →
    ∃ n n' : Nat, (r.entry row).2 = some (.int n) ∧ (r.entry row').2 = some (.int n') ∧ n ≤ n'

/-- The answer of an exhaustive report counts each posting once. -/
theorem exists_countsOnce (hdb : db.Conforms) (hr : r ∈ exhaustive) (c : Criteria) :
    ∃ tally : List (String × Nat), tally.map (fun t => (Cell.text t.1, t.2)) = r.tallyOf db c ∧
      r.CountsOnce db c (r.answerRows db c) tally := by
  have hall := mem_all_of_exhaustive hr
  have htally := tally_tallyOf hdb hall c
  have hentries : (r.answerRows db c).map r.entry = _ := map_entry_answerRows hall
  obtain ⟨texts, htexts⟩ := exists_texts hdb hr htally
  refine ⟨texts, htexts, ?_⟩
  rw [← htexts] at htally hentries
  have hwindow : r.window = .all := by rw [window, (exhaustive_plain r hr).2.1]
  have hnodup : (texts.map (·.1)).Nodup := by
    refine List.Nodup.of_map Cell.text ?_
    have hlabels := htally.nodup
    rwa [List.map_map] at hlabels ⊢
  have hcounted (v : Cell) : r.counted db c v = (db.matching c "" .any).filter fun j =>
      r.Requires j ∧ r.labelOf (db.joined r.fields j) = v :=
    List.filter_congr fun j _ => decide_eq_decide.mpr (counts_exhaustive hr v)
  refine ⟨?_, hnodup, ?_, fun t ht => ?_, fun j hj hrequires => ?_⟩
  · rw [hentries, hwindow, Window.cut, List.map_map]
    rfl
  · have hsum := htally.sum_eq fun j _ v w hv hw => by
      rw [counts_exhaustive hr] at hv hw
      exact hv.2.symm.trans hw.2
    rw [List.map_map] at hsum
    refine hsum.trans (congrArg List.length (List.filter_congr fun j _ => ?_))
    rw [shownRows_exhaustive hr]
    by_cases hrequires : r.Requires j <;> simp [hrequires]
  · rw [← hcounted]
    exact ((htally.mem_iff _ _).mp (List.mem_map.mpr ⟨t, ht, rfl⟩)).2
  · obtain ⟨u, hu, hlabel⟩ := List.mem_map.mp ((htally.mem_labels_iff _).mpr
      ⟨j, hj, (counts_exhaustive hr _).mpr ⟨hrequires, rfl⟩⟩)
    obtain ⟨t, ht, rfl⟩ := List.mem_map.mp hu
    refine ⟨t, ⟨ht, hlabel.symm⟩, fun s hs => ?_⟩
    exact List.inj_on_of_nodup_map hnodup hs.1 ht (Cell.text.inj (hs.2.symm.trans hlabel.symm))

theorem exhaustive_once (hdb : db.Conforms) (hc : c.Normal) (hfields : c.Filterable)
    (hn : c.Countable) (hr : r ∈ exhaustive) :
    ∃ rows tally, r.Yields db c rows ∧ r.CountsOnce db c rows tally := by
  obtain ⟨tally, -, honce⟩ := exists_countsOnce hdb hr c
  exact ⟨_, tally, yields_answerRows hdb (mem_all_of_exhaustive hr) hc hfields hn, honce⟩

theorem filtered_le (hdb : db.Conforms) (hc : c.Normal) (hfields : c.Filterable)
    (hn : c.Countable) (hr : r ∈ all) :
    ∃ rows whole, r.Yields db c rows ∧ r.Yields db .empty whole ∧ r.NoMore rows whole := by
  have hsub : (db.matching c "" .any).Sublist (db.matching .empty "" .any) := by
    rw [matching_empty]
    exact List.filter_sublist
  obtain ⟨rows, tally, hyields, htally, hentries⟩ := exists_tally hdb hr hc hfields hn
  obtain ⟨whole, more, hwhole, hmore, hentries'⟩ := exists_tally hdb hr Criteria.normal_empty
    Criteria.filterable_empty Criteria.countable_empty
  refine ⟨rows, whole, hyields, hwhole, ?_, fun row hrow row' hrow' he => ?_⟩
  · have hrows := congrArg List.length hentries
    have hwhole := congrArg List.length hentries'
    rw [List.length_map, List.length_map] at hrows hwhole
    rw [hrows, hwhole]
    exact r.window.length_cut_le (htally.length_le hmore hsub.subset)
  · obtain ⟨t, ht, hrow⟩ := exists_entry hentries hrow
    obtain ⟨u, hu, hrow'⟩ := exists_entry hentries' hrow'
    rw [hrow, hrow'] at he ⊢
    have hlabel : t.1 = u.1 := (htally.isLabel t ht).eq_of_toJson_eq (hmore.isLabel u hu)
      (Option.some.inj he)
    exact ⟨t.2, u.2, rfl, rfl, htally.count_le hmore hsub ht hu hlabel⟩

/-- Under any criteria the exhaustive reports count each posting that matches and holds what they
require in exactly one row, and their numbers add up to the number of these postings. No report
has more rows under criteria than without, nor a row with more postings. -/
theorem counts_each_once (hdb : db.Conforms) (hc : c.Normal) (hfields : c.Filterable)
    (hn : c.Countable) :
    (∀ r ∈ exhaustive, ∃ rows tally, r.Yields db c rows ∧ r.CountsOnce db c rows tally) ∧
      ∀ r ∈ all, ∃ rows whole, r.Yields db c rows ∧ r.Yields db .empty whole ∧
        r.NoMore rows whole :=
  ⟨fun _ hr => exhaustive_once hdb hc hfields hn hr, fun _ hr => filtered_le hdb hc hfields hn hr⟩

/-- The jobs of the small dataset are counted three in all, whatever their arrangement of work. -/
theorem counts_each_once_sample : ∃ rows tally,
    flexibility.Yields Dataset.sample.database .sample rows ∧
      flexibility.CountsOnce Dataset.sample.database .sample rows tally ∧
      (tally.map (·.2)).sum = 3 := by
  have hthree : ((Dataset.sample.database.matching .sample "" .any).filter fun j =>
      flexibility.Requires j).length = 3 := by decide +kernel
  obtain ⟨rows, tally, hyields, honce⟩ := (counts_each_once Dataset.storable_sample.conforms
    Criteria.normal_sample Criteria.filterable_sample Criteria.countable_sample).1
    flexibility (by simp [exhaustive])
  exact ⟨rows, tally, hyields, honce, honce.total.trans hthree⟩

end StandingReport

end JobSearch
