import JobSearch.Proofs.Posting.Document
import JobSearch.Proofs.Report.Rows
import JobSearch.Report.Answer
import Mathlib.Data.Set.List

/-!
# What reports count

A row of a standing report stands for a label and has the number of postings that are counted
under it (`StandingReport.exists_tally`): those that match the criteria and have a row with the
label that holds what the report requires. Criteria leave fewer postings, so they leave fewer
labels and no label with more postings.

Four of the reports show every posting that holds what they require, and show it once: a posting
has one row in them, and there is a label for those without one. Their numbers add up to the
number of all such postings (`StandingReport.counts_each_once`). The others show some labels only,
or count a posting under each of its skills.

## Main definitions

* `StandingReport.labelOf` — what a row is counted under.
* `StandingReport.counted` — the postings that are counted under a label.
* `StandingReport.Tally` — the labels that occur, with their numbers of postings.
* `StandingReport.Yields` — the rows of the answer of a report.
-/

namespace JobSearch

open Query

/-! ### Labels -/

namespace Cell.IsLabel

variable {a b : Cell}

/-- Labels of one group are one label. -/
theorem eq_of_key_eq (ha : a.IsLabel) (hb : b.IsLabel) (h : a.key = b.key) : a = b := by
  rcases ha with rfl | ⟨s, rfl⟩ <;> rcases hb with rfl | ⟨t, rfl⟩
  · rfl
  · cases h
  · cases h
  · exact congrArg text (Key.text.inj h)

theorem eq_of_toJson_eq (ha : a.IsLabel) (hb : b.IsLabel) (h : a.toJson = b.toJson) : a = b := by
  rcases ha with rfl | ⟨s, rfl⟩ <;> rcases hb with rfl | ⟨t, rfl⟩
  · rfl
  · cases h
  · cases h
  · exact congrArg text (Json.text.inj h)

/-- A label, or a text in place of none, is text. -/
theorem exists_text_of_orElse (ha : a.IsLabel) (fallback : String) :
    ∃ l, (if a.isNull then .text fallback else a.plain) = Cell.text l := by
  rcases ha with rfl | ⟨s, rfl⟩
  · exact ⟨fallback, rfl⟩
  · exact ⟨s, rfl⟩

end Cell.IsLabel

namespace Query

/-- A value of one row depends on the columns that the expression looks at. -/
theorem Expression.value_single_congr {e : Expression} {x y : Joined}
    (h : ∀ col ∈ e.columns, y.cell col = x.cell col) : e.value [y] = e.value [x] := by
  have hcell {c : Column} (hc : c ∈ e.columns) {α : Type} (f : Cell → α) :
      f (y.cell c) = f (x.cell c) := congrArg f (h c hc)
  cases e with
  | column c => exact hcell List.mem_cons_self id
  | orElse c fallback =>
    exact hcell List.mem_cons_self fun a => if a.isNull then .text fallback else a.plain
  | bucket c buckets otherwise =>
    exact hcell List.mem_cons_self fun a => Cell.text (bucketLabel buckets otherwise a)
  | countRows => rfl
  | countDistinct c =>
    exact hcell List.mem_cons_self fun a => Cell.int (Carriers.countDistinct [a])
  | roundedMean c place =>
    have hsame : [y].filterMap (fun r => (r.cell c).addend?) =
        [x].filterMap fun r => (r.cell c).addend? := by
      simp only [List.filterMap_cons, h c List.mem_cons_self]
    simp only [value, inOrderOf, List.mergeSort_singleton, hsame]

/-- If the columns of a result have different names, each is found in a document by its own. -/
theorem find?_document {outputs : List Output} (hn : (outputs.map (·.name)).Nodup) {o : Output}
    (ho : o ∈ outputs) (g : List Joined) :
    Ordered.find? o.name (document outputs g) = some (o.expression.value g).toJson := by
  obtain ⟨v, hv⟩ := exists_member? (g := g) ho
  obtain ⟨o', ho', hname, rfl⟩ := exists_of_member? hv
  obtain rfl := List.inj_on_of_nodup_map hn ho' ho hname
  exact hv

theorem mem_extend_inner {j : Join} (hj : j.kind = .inner) {rows : List Row} {r x : Joined}
    (h : x ∈ j.extend rows r) : ∃ row ∈ rows, x = (j.qualifier, row) :: r := by
  rw [Join.extend_inner hj] at h
  obtain ⟨row, hrow, rfl⟩ := List.mem_map.mp (List.mem_filter.mp h).1
  exact ⟨row, hrow, rfl⟩

end Query

namespace StandingReport

variable {db : Database} {r : StandingReport} {c d : Criteria} {p : Predicate} {j : Row}
  {x y : Joined} {v : Cell}

/-- What a row is counted under in a report. -/
def labelOf (r : StandingReport) (x : Joined) : Cell := r.group.expression.value [x]

/-- The columns of a report go by different names, of which one is that of the numbers of
postings; a row is grouped by a column that is looked at. -/
theorem outputs_names : ∀ r ∈ all, (r.outputs.map (·.name)).Nodup ∧ jobCount ∈ r.outputs := by
  decide +kernel

/-- A group shows what its first row is counted under. -/
theorem value_group (hr : r ∈ all) (x : Joined) (rest : List Joined) :
    r.group.expression.value (x :: rest) = r.labelOf x := by
  simp only [all, List.mem_cons, List.not_mem_nil, or_false] at hr
  rcases hr with rfl | rfl | rfl | rfl | rfl | rfl | rfl | rfl <;> rfl

theorem labelOf_congr (h : ∀ col ∈ r.columns, y.cell col = x.cell col) :
    r.labelOf y = r.labelOf x := by
  refine Expression.value_single_congr fun col hcol => h col ?_
  exact List.mem_append_left _ (List.mem_append_left _
    (List.mem_flatMap.mpr ⟨r.group, List.mem_cons_self, hcol⟩))

/-- The tables joined for the criteria change neither the label of a row nor its posting. -/
theorem labelOf_extraFields (hr : r ∈ all) (x : Joined) :
    r.labelOf (db.withLookups (r.extraFields p) x) = r.labelOf x :=
  labelOf_congr fun _ hcol => cell_extraFields hr hcol x

theorem posting_extraFields (hr : r ∈ all) (hx : x ∈ r.shownRows db j) :
    (db.withLookups (r.extraFields p) x).posting = j := by
  rw [Database.posting_withLookups]
  exact posting_of_mem_rowsFor hr (List.mem_filter.mp hx).1

/-- A row of a posting has the labels of the fields that the report shows. -/
theorem isLabel_of_field (hdb : db.Conforms) (hx : x ∈ r.rowsFor db j) {f : Field}
    (hf : f ∈ Field.joinedOf r.fields) : (x.cell f.labelColumn).IsLabel := by
  obtain ⟨y, -, rfl⟩ := List.mem_map.mp hx
  rw [Field.labelColumn, Database.cell_withLookups_of_mem hf]
  exact hdb.isLabel_label f y.posting

/-- A row of a posting in the report on skills has a skill. -/
theorem isLabel_skill (hdb : db.Conforms) (hx : x ∈ skills.rowsFor db j) :
    (x.cell skillLabel).IsLabel := by
  obtain ⟨y, hy, rfl⟩ := List.mem_map.mp hx
  obtain ⟨z, -, hy⟩ := List.mem_flatMap.mp hy
  obtain ⟨w, hw, hy⟩ := List.mem_flatMap.mp hy
  obtain ⟨row, hrow, rfl⟩ := mem_extend_inner rfl hw
  obtain rfl := List.mem_singleton.mp hy
  exact hdb.labels .hardSkills row hrow

/-- What a row is counted under is text or nothing. -/
theorem isLabel_labelOf (hdb : db.Conforms) (hr : r ∈ all) (hx : x ∈ r.rowsFor db j) :
    (r.labelOf x).IsLabel := by
  have horElse {a : Cell} (ha : a.IsLabel) (fallback : String) :
      (if a.isNull then Cell.text fallback else a.plain).IsLabel :=
    Or.inr (ha.exists_text_of_orElse fallback)
  simp only [all, List.mem_cons, List.not_mem_nil, or_false] at hr
  rcases hr with rfl | rfl | rfl | rfl | rfl | rfl | rfl | rfl
  · exact Or.inr ⟨_, rfl⟩
  · exact horElse (isLabel_of_field hdb hx (f := .remoteWork) (by decide)) _
  · exact isLabel_of_field hdb hx (f := .city) (by decide)
  · exact horElse (isLabel_of_field hdb hx (f := .industry) (by decide)) _
  · exact horElse (isLabel_of_field hdb hx (f := .employmentType) (by decide)) _
  · exact isLabel_of_field hdb hx (f := .company) (by decide)
  · exact Or.inr ⟨_, rfl⟩
  · exact isLabel_skill hdb hx

/-! ### Groups -/

/-- A posting is counted under a label: one of its rows that the report shows has it. -/
def Counts (r : StandingReport) (db : Database) (j : Row) (v : Cell) : Prop :=
  ∃ x ∈ r.shownRows db j, r.labelOf x = v

instance (r : StandingReport) (db : Database) (j : Row) (v : Cell) : Decidable (r.Counts db j v) :=
  inferInstanceAs (Decidable (∃ x ∈ _, _))

/-- The postings that match criteria and are counted under a label. -/
def counted (r : StandingReport) (db : Database) (c : Criteria) (v : Cell) : List Row :=
  (db.matching c "" .any).filter fun j => r.Counts db j v

/-- Rows of postings that show what the postings are counted under: `kept` has for each of some
postings the rows that a report shows, with further columns perhaps. -/
structure Shown (r : StandingReport) (db : Database) (js : List Row) (kept : List Joined) :
    Prop where
  isLabel : ∀ y ∈ kept, (r.labelOf y).IsLabel
  posting : ∀ y ∈ kept, y.posting ∈ js
  counts : ∀ j ∈ js, ∀ v, (∃ y ∈ kept, y.posting = j ∧ r.labelOf y = v) ↔ r.Counts db j v

theorem shown_kept (hdb : db.Conforms) (hr : r ∈ all) (js : List Row) (p : Predicate) :
    r.Shown db js ((js.flatMap (r.shownRows db)).map (db.withLookups (r.extraFields p))) := by
  refine ⟨fun y hy => ?_, fun y hy => ?_, fun j hj v => ?_⟩
  · obtain ⟨x, hx, rfl⟩ := List.mem_map.mp hy
    obtain ⟨j, -, hx⟩ := List.mem_flatMap.mp hx
    rw [labelOf_extraFields hr]
    exact isLabel_labelOf hdb hr (List.mem_filter.mp hx).1
  · obtain ⟨x, hx, rfl⟩ := List.mem_map.mp hy
    obtain ⟨j, hj, hx⟩ := List.mem_flatMap.mp hx
    rw [posting_extraFields hr hx]
    exact hj
  · constructor
    · rintro ⟨y, hy, rfl, rfl⟩
      obtain ⟨x, hx, rfl⟩ := List.mem_map.mp hy
      obtain ⟨i, -, hx⟩ := List.mem_flatMap.mp hx
      rw [posting_extraFields hr hx]
      exact ⟨x, hx, (labelOf_extraFields hr x).symm⟩
    · rintro ⟨x, hx, rfl⟩
      exact ⟨_, List.mem_map.mpr ⟨x, List.mem_flatMap.mpr ⟨j, hj, hx⟩, rfl⟩,
        posting_extraFields hr hx, labelOf_extraFields hr x⟩

/-- The rows of a list that are counted under the same as one of them. -/
def groupOf (r : StandingReport) (kept : List Joined) (y : Joined) : List Joined :=
  kept.filter fun z => (r.labelOf z).key = (r.labelOf y).key

/-- The label of a group and its number of postings. -/
def entryOf (r : StandingReport) (g : List Joined) : Cell × Nat :=
  (r.group.expression.value g, Carriers.countDistinct (g.map (·.cell postingId)))

namespace Shown

variable {js : List Row} {kept : List Joined}

theorem mem_groupOf (h : r.Shown db js kept) {z : Joined} (hy : y ∈ kept) :
    z ∈ r.groupOf kept y ↔ z ∈ kept ∧ r.labelOf z = r.labelOf y := by
  rw [groupOf, List.mem_filter, decide_eq_true_iff]
  exact and_congr_right fun hz =>
    ⟨(h.isLabel z hz).eq_of_key_eq (h.isLabel y hy), congrArg Cell.key⟩

theorem value_groupOf (h : r.Shown db js kept) (hr : r ∈ all) (hy : y ∈ kept) :
    r.group.expression.value (r.groupOf kept y) = r.labelOf y := by
  have hself := (h.mem_groupOf hy).mpr ⟨hy, rfl⟩
  obtain ⟨z, rest, hg⟩ := List.exists_cons_of_ne_nil (List.ne_nil_of_mem hself)
  rw [hg, value_group hr]
  exact ((h.mem_groupOf hy).mp (hg ▸ List.mem_cons_self)).2

/-- The ids of a group are those of the postings that are counted under its label, each once. -/
theorem countDistinct_groupOf (h : r.Shown db js kept) (hdb : db.Conforms)
    (hjs : ∀ j ∈ js, j ∈ db.postings) (hn : js.Nodup) (hy : y ∈ kept) :
    Carriers.countDistinct ((r.groupOf kept y).map (·.cell postingId)) =
      (js.filter fun j => r.Counts db j (r.labelOf y)).length := by
  have hids : ((js.filter fun j => r.Counts db j (r.labelOf y)).map fun j =>
      (Cell.int (Database.idOf j)).key).Nodup := by
    refine List.Nodup.map_on (fun i hi j hj he => ?_) (hn.filter _)
    have hi := hjs i (List.mem_filter.mp hi).1
    have hj := hjs j (List.mem_filter.mp hj).1
    exact hdb.postings.eq_of_idOf_eq hi hj (Cell.key_int_inj he)
  have hcell : ∀ z ∈ kept, (z.cell postingId).key = (Cell.int (Database.idOf z.posting)).key := by
    intro z hz
    rw [postingId, Joined.cell_posting, hdb.cell_id (hjs _ (h.posting z hz))]
  rw [Carriers.countDistinct, ← List.length_map fun j => (Cell.int (Database.idOf j)).key]
  refine length_distinct_eq hids fun k => ?_
  simp only [List.mem_filter, List.mem_map, decide_eq_true_iff]
  constructor
  · rintro ⟨⟨_, ⟨z, hz, rfl⟩, rfl⟩, -⟩
    obtain ⟨hz, hlabel⟩ := (h.mem_groupOf hy).mp hz
    have hposting := h.posting z hz
    exact ⟨z.posting, ⟨hposting, (h.counts _ hposting _).mp ⟨z, hz, rfl, hlabel⟩⟩,
      (hcell z hz).symm⟩
  · rintro ⟨j, ⟨hj, hcounts⟩, rfl⟩
    obtain ⟨z, hz, rfl, hlabel⟩ := (h.counts j hj _).mpr hcounts
    exact ⟨⟨_, ⟨z, (h.mem_groupOf hy).mpr ⟨hz, hlabel⟩, rfl⟩, hcell z hz⟩, by simp [Cell.key]⟩

theorem entryOf_groupOf (h : r.Shown db (db.matching c "" .any) kept) (hdb : db.Conforms)
    (hr : r ∈ all) (hy : y ∈ kept) : r.entryOf (r.groupOf kept y) =
      (r.labelOf y, (r.counted db c (r.labelOf y)).length) := by
  have hjs : ∀ j ∈ db.matching c "" .any, j ∈ db.postings := fun j hj => (List.mem_filter.mp hj).1
  exact Prod.ext (h.value_groupOf hr hy)
    (h.countDistinct_groupOf hdb hjs (hdb.postings.nodup_rows.filter _) hy)

end Shown

/-! ### The tally of a report -/

/-- The labels that postings are counted under, each once and with the number of postings. -/
structure Tally (r : StandingReport) (db : Database) (c : Criteria) (tally : List (Cell × Nat)) :
    Prop where
  isLabel : ∀ t ∈ tally, t.1.IsLabel
  nodup : (tally.map (·.1)).Nodup
  mem_iff : ∀ v n, (v, n) ∈ tally ↔ 0 < n ∧ n = (r.counted db c v).length

/-- The groups of the rows that a report keeps, in whatever order, make up its tally. -/
theorem tally_of_perm (hdb : db.Conforms) (hr : r ∈ all) {kept : List Joined}
    (hkept : r.Shown db (db.matching c "" .any) kept) {gs : List (List Joined)}
    (hperm : gs.Perm (groupsBy (fun x => (r.labelOf x).key) kept)) :
    r.Tally db c (gs.map r.entryOf) := by
  have hmem (g : List Joined) : g ∈ gs ↔ ∃ y ∈ kept, g = r.groupOf kept y :=
    hperm.mem_iff.trans mem_groupsBy
  have hentry {y : Joined} (hy : y ∈ kept) := hkept.entryOf_groupOf hdb hr hy
  refine ⟨fun t ht => ?_, ?_, fun v n => ⟨fun ht => ?_, ?_⟩⟩
  · obtain ⟨g, hg, rfl⟩ := List.mem_map.mp ht
    obtain ⟨y, hy, rfl⟩ := (hmem g).mp hg
    rw [hentry hy]
    exact hkept.isLabel y hy
  · have hapart : gs.Pairwise fun g h => ∀ x ∈ g, ∀ y ∈ h,
        (r.labelOf x).key ≠ (r.labelOf y).key :=
      (hperm.pairwise_iff fun h x hx y hy he => h y hy x hx he.symm).mpr pairwise_groupsBy
    rw [List.map_map, List.Nodup, List.pairwise_map]
    refine hapart.imp_of_mem fun {g h} hg hh hgh he => ?_
    obtain ⟨x, hx, rfl⟩ := (hmem g).mp hg
    obtain ⟨y, hy, rfl⟩ := (hmem h).mp hh
    refine hgh x ((hkept.mem_groupOf hx).mpr ⟨hx, rfl⟩) y
      ((hkept.mem_groupOf hy).mpr ⟨hy, rfl⟩) ?_
    rw [Function.comp_apply, Function.comp_apply, hentry hx, hentry hy] at he
    exact congrArg Cell.key he
  · obtain ⟨g, hg, he⟩ := List.mem_map.mp ht
    obtain ⟨y, hy, rfl⟩ := (hmem g).mp hg
    rw [hentry hy] at he
    obtain ⟨rfl, rfl⟩ := Prod.mk.inj he
    refine ⟨List.length_pos_of_mem (a := y.posting) (List.mem_filter.mpr ⟨hkept.posting y hy, ?_⟩),
      rfl⟩
    exact decide_eq_true ((hkept.counts _ (hkept.posting y hy) _).mp ⟨y, hy, rfl, rfl⟩)
  · rintro ⟨hpos, rfl⟩
    obtain ⟨j, hj⟩ := List.exists_mem_of_length_pos hpos
    obtain ⟨hj, hcounts⟩ := List.mem_filter.mp hj
    obtain ⟨y, hy, -, rfl⟩ := (hkept.counts j hj v).mpr (of_decide_eq_true hcounts)
    exact List.mem_map.mpr ⟨_, (hmem _).mpr ⟨y, hy, rfl⟩, hentry hy⟩

/-! ### The answer of a report -/

/-- Under criteria the answer of a report has these rows, unless the figures of their columns
cannot be found, in which case there is no answer. -/
def Yields (r : StandingReport) (db : Database) (c : Criteria) (rows : List Record) : Prop :=
  ∃ text params columns, r.run (.readable db) c =
    (columnSummaries rows none).map fun figures => ⟨r.name, text, params, columns, rows, figures⟩

/-- What a row of an answer stands for, and its number of postings. -/
def entry (r : StandingReport) (row : Record) : Option Json × Option Json :=
  (Ordered.find? r.group.name row, Ordered.find? jobCount.name row)

/-- An entry of a tally as it is shown. -/
def shownEntry (t : Cell × Nat) : Option Json × Option Json := (some t.1.toJson, some (.int t.2))

/-- The part of its lines that a report shows. -/
def window (r : StandingReport) : Window :=
  match r.limit with
  | none => .all
  | some n => .first n

theorem fits_statement (hr : r ∈ all) (hp : p.params.all Cell.fits = true) :
    (r.statement p).params.all Cell.fits = true := by
  have hlimit : ∀ r ∈ all, ∀ n ∈ r.limit, (Cell.int n).fits = true := by decide +kernel
  have hcondition : ∀ v ∈ (r.statement p).condition.toList.flatMap Condition.params,
      v.fits = true := by
    intro v hv
    rw [collect_statement (fun _ _ => rfl) fun _ => rfl, List.mem_append] at hv
    rcases hv with hv | hv
    · obtain ⟨t, ht, hv⟩ := List.mem_flatMap.mp hv
      obtain ⟨col, -, rfl⟩ := List.mem_map.mp ht
      cases hv
    · obtain ⟨t, ht, hv⟩ := List.mem_flatMap.mp hv
      refine List.all_eq_true.mp hp v ?_
      rw [Predicate.params, Option.mem_toList.mp ht]
      exact hv
  rw [List.all_eq_true]
  intro v hv
  rw [Statement.params, List.mem_append] at hv
  rcases hv with hv | hv
  · refine hcondition v ?_
    cases hc : (r.statement p).condition with
    | none =>
      rw [hc] at hv
      cases hv
    | some t =>
      rw [hc] at hv
      simpa using hv
  · cases hl : r.limit with
    | none =>
      simp only [statement, hl] at hv
      cases hv
    | some n =>
      simp only [statement, hl, List.mem_singleton] at hv
      exact hv ▸ hlimit r hr n hl

/-- The rows that a report keeps under criteria. -/
def keptRows (r : StandingReport) (db : Database) (c : Criteria) : List Joined :=
  ((db.matching c "" .any).flatMap (r.shownRows db)).map
    (db.withLookups (r.extraFields (c.predicate "" .any)))

/-- The groups of these rows, in the order of the report. -/
def orderedGroups (r : StandingReport) (db : Database) (c : Criteria) : List (List Joined) :=
  (r.statement (c.predicate "" .any)).lines (r.keptRows db c)

/-- The rows of the answer, which are the documents of the groups that are shown. -/
def answerRows (r : StandingReport) (db : Database) (c : Criteria) : List Record :=
  (r.window.cut (r.orderedGroups db c)).map (document r.outputs)

/-- The labels and numbers of the groups. -/
def tallyOf (r : StandingReport) (db : Database) (c : Criteria) : List (Cell × Nat) :=
  (r.orderedGroups db c).map r.entryOf

theorem shown_keptRows (hdb : db.Conforms) (hr : r ∈ all) (c : Criteria) :
    r.Shown db (db.matching c "" .any) (r.keptRows db c) := shown_kept hdb hr _ _

theorem orderedGroups_perm (r : StandingReport) (db : Database) (c : Criteria) :
    (r.orderedGroups db c).Perm (groupsBy (fun x => (r.labelOf x).key) (r.keptRows db c)) :=
  Statement.lines_perm _ _

theorem mem_orderedGroups {g : List Joined} : g ∈ r.orderedGroups db c ↔
    ∃ y ∈ r.keptRows db c, g = r.groupOf (r.keptRows db c) y :=
  (r.orderedGroups_perm db c).mem_iff.trans mem_groupsBy

/-- A report is answered by these rows. -/
theorem yields_answerRows (hdb : db.Conforms) (hr : r ∈ all) (hc : c.Normal)
    (hfields : c.Filterable) (hn : c.Countable) : r.Yields db c (r.answerRows db c) := by
  have hcompile : Report.predicate c = .ok (c.predicate "" .any) :=
    Predicate.compile_eq_ok hfields "" .any
  have hrun := Statement.run_eq_ok (kept_statement hdb hr hc "" .any)
    (fits_statement hr (hn.fits_predicate "" .any))
  have hdocuments := documents_eq r.outputs (r.window.cut (r.orderedGroups db c))
  obtain ⟨text, htext⟩ : ∃ text, r.report.textUnder (c.predicate "" .any) = .ok text :=
    ⟨_, textUnder_report hr c "" .any⟩
  refine ⟨text, (c.predicate "" .any).params, r.outputs.map (·.name), ?_⟩
  rw [answerRows, ← hdocuments, run, hcompile]
  simp only [Except.mapError, bind, Except.bind, htext, Store.runAs, hrun]
  rfl

theorem tally_tallyOf (hdb : db.Conforms) (hr : r ∈ all) (c : Criteria) :
    r.Tally db c (r.tallyOf db c) :=
  tally_of_perm hdb hr (shown_keptRows hdb hr c) (r.orderedGroups_perm db c)

theorem entry_document (hr : r ∈ all) (g : List Joined) :
    r.entry (document r.outputs g) = shownEntry (r.entryOf g) := by
  obtain ⟨hnames, hcount⟩ := outputs_names r hr
  rw [entry, find?_document hnames hcount g, find?_document hnames List.mem_cons_self g]
  rfl

/-- The rows of the answer show the labels and numbers, as far as the report goes. -/
theorem map_entry_answerRows (hr : r ∈ all) :
    (r.answerRows db c).map r.entry = (r.window.cut (r.tallyOf db c)).map shownEntry := by
  rw [answerRows, tallyOf, Window.cut_map, List.map_map, List.map_map]
  exact List.map_congr_left fun g _ => entry_document hr g

/-- The rows of the answer of a report are those of its tally, as far as they are shown. -/
theorem exists_tally (hdb : db.Conforms) (hr : r ∈ all) (hc : c.Normal) (hfields : c.Filterable)
    (hn : c.Countable) :
    ∃ rows tally, r.Yields db c rows ∧ r.Tally db c tally ∧
      rows.map r.entry = (r.window.cut tally).map shownEntry :=
  ⟨_, _, yields_answerRows hdb hr hc hfields hn, tally_tallyOf hdb hr c, map_entry_answerRows hr⟩

end StandingReport

end JobSearch
