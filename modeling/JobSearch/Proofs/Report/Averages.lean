import JobSearch.Proofs.Dataset.StorageOrder
import JobSearch.Proofs.Query.LabelRows
import JobSearch.Proofs.Report.Totals

/-!
# Averages

A row of a report has the number of the postings that are counted under its label, each counted
once. Its means are over the rows of these postings: a posting weighs as often as it has a row with
the label (`StandingReport.rowsUnder`). In all reports but one a posting has at most one row, so the
means are those of the postings that are counted. In the report on skills it has one for each time
that it has the skill, so a posting with the same skill twice weighs twice in the mean of that
skill (`StandingReport.means_weigh_rows`).

## Main definitions

* `StandingReport.times` — how often a posting has a label.
* `StandingReport.rowsUnder` — the postings of the rows with a label.
* `roundedMeanOf` — the rounded mean of what a column of some postings holds.
-/

namespace JobSearch

open Query

/-- The rounded mean of some numbers; nothing if there are none. -/
def roundedMean (xs : List Float) : Cell :=
  match Number.runningMean? xs with
  | some x => .real (Number.roundHalfAway x)
  | none => .null

/-- The rounded mean of what a column of some postings holds, as far as it holds something. -/
def roundedMeanOf (column : String) (js : List Row) : Cell :=
  roundedMean (js.filterMap fun j => (j.cell column).addend?)

theorem Query.Expression.value_roundedMean (c place : Column) (g : List Joined) :
    (roundedMean c place).value g =
      JobSearch.roundedMean ((inOrderOf place g).filterMap fun r => (r.cell c).addend?) := rfl

/-- The column of which an output shows the mean. -/
def Query.Output.averaged? (o : Output) : Option Column :=
  match o.expression with
  | .roundedMean c _ => some c
  | _ => none

/-- The mean of a column of postings over a group of rows is that over the postings of the rows, in
some order. -/
theorem Query.Output.exists_postings {o : Output} {name : String}
    (ho : o.averaged? = some (postingColumn name)) (g : List Joined) :
    ∃ js, js.Perm (g.map Joined.posting) ∧ o.expression.value g = roundedMeanOf name js := by
  obtain ⟨expression, title⟩ := o
  cases expression with
  | roundedMean col place =>
    obtain rfl := Option.some.inj ho
    refine ⟨(inOrderOf place g).map Joined.posting, (List.mergeSort_perm _ _).map _, ?_⟩
    have hcell (x : Joined) : x.cell (postingColumn name) = x.posting.cell name :=
      Joined.cell_posting x name
    have hnumbers : (inOrderOf place g).filterMap (fun x => (x.cell (postingColumn name)).addend?) =
        ((inOrderOf place g).map Joined.posting).filterMap fun j => (j.cell name).addend? := by
      simp only [List.filterMap_map, Function.comp_def, hcell]
    rw [Expression.value_roundedMean, hnumbers, roundedMeanOf]
  | _ => cases ho

namespace StandingReport

variable {db : Database} {r : StandingReport} {c : Criteria} {j : Row} {v : Cell} {y : Joined}

/-! ### The rows of a posting -/

/-- How often a posting has a label in a report. -/
def times (r : StandingReport) (db : Database) (j : Row) (v : Cell) : Nat :=
  ((r.shownRows db j).map r.labelOf).count v

/-- The postings that are counted under a label, each as often as it has the label. -/
def rowsUnder (r : StandingReport) (db : Database) (c : Criteria) (v : Cell) : List Row :=
  (r.counted db c v).flatMap fun j => List.replicate (r.times db j v) j

theorem times_pos : 0 < r.times db j v ↔ r.Counts db j v := by
  rw [times, List.count_pos_iff, List.mem_map, Counts]

/-- A report that joins no table but those of labels shows a posting in one row at most. -/
theorem times_of_plain (hjoins : r.joins = []) (h : r.Counts db j v) : r.times db j v = 1 := by
  have hone : (r.shownRows db j).length ≤ 1 := by
    refine (List.length_filter_le _ _).trans ?_
    rw [rowsFor, hjoins, List.length_map]
    exact Nat.le_refl _
  have hle : r.times db j v ≤ 1 :=
    List.count_le_length.trans ((List.length_map _).trans_le hone)
  exact Nat.le_antisymm hle (times_pos.mpr h)

theorem rowsUnder_of_plain (hjoins : r.joins = []) (db : Database) (c : Criteria) (v : Cell) :
    r.rowsUnder db c v = r.counted db c v := by
  have hone : ∀ j ∈ r.counted db c v, List.replicate (r.times db j v) j = [j] := by
    intro j hj
    rw [times_of_plain hjoins (of_decide_eq_true (List.mem_filter.mp hj).2)]
    rfl
  rw [rowsUnder, List.flatMap_congr hone, List.flatMap_singleton']

theorem joins_of_ne_skills (hr : r ∈ all) (hne : r ≠ skills) : r.joins = [] := by
  simp only [all, List.mem_cons, List.not_mem_nil, or_false] at hr
  rcases hr with rfl | rfl | rfl | rfl | rfl | rfl | rfl | rfl
  all_goals first | rfl | exact absurd rfl hne

/-- The report on skills joins to a posting its pairs, -/
theorem extend_pairs (hdb : db.Conforms) (hj : j ∈ db.postings) :
    Join.extend ⟨.inner, "job_details_hard_skills", "jhs", ⟨"jhs", "job_details_id"⟩, postingId⟩
        (db.stored "job_details_hard_skills") [(postingQualifier, j)] =
      (db.owned "job_details_hard_skills" "job_details_id" j).map
        fun p => [("jhs", p), (postingQualifier, j)] := by
  rw [Join.extend_inner rfl, Join.partners_eq, Database.owned]
  refine congrArg (List.map _) (List.filter_congr fun p _ => ?_)
  have hne : "jhs" ≠ postingQualifier := by decide
  rw [postingId, Joined.cell_cons_self, Joined.cell_cons_of_ne hne, Joined.cell_posting,
    Joined.posting_singleton, hdb.cell_id hj, Cell.holds_equals_int_comm]

/-- and to a pair the skill that it refers to, if the ids of skills are integers. -/
theorem extend_skill
    (hids : ∀ row ∈ db.stored Field.hardSkills.entry.table, ∃ n, row.cell "id" = .int n)
    (p : Row) (rest : Joined) :
    Join.extend ⟨.inner, "hard_skills", "hs", ⟨"hs", "id"⟩, ⟨"jhs", "hard_skills_id"⟩⟩
        (db.stored "hard_skills") (("jhs", p) :: rest) =
      (db.referred .hardSkills (p.cell "hard_skills_id")).map
        fun row => ("hs", row) :: ("jhs", p) :: rest := by
  rw [Join.extend_inner rfl, Join.partners_eq, Database.referred]
  refine congrArg (List.map _) (List.filter_congr fun row hrow => ?_)
  obtain ⟨n, hn⟩ := hids row hrow
  have hne : "hs" ≠ "jhs" := by decide
  rw [Joined.cell_cons_self, Joined.cell_cons_of_ne hne, Joined.cell_cons_self, hn,
    Cell.holds_equals_int_comm]

/-- The report on skills has a row for each skill of a posting. -/
theorem labels_skills (hdb : db.Conforms)
    (hids : ∀ row ∈ db.stored Field.hardSkills.entry.table, ∃ n, row.cell "id" = .int n)
    (hj : j ∈ db.postings) :
    (skills.shownRows db j).map skills.labelOf = db.labels .hardSkills j := by
  have hall (x : Joined) : (skills.present.all fun col => !(x.cell col).isNull) = true := rfl
  have hlabel (row : Row) (rest : Joined) :
      skills.labelOf (("hs", row) :: rest) = row.cell "name" := by
    show Joined.cell (("hs", row) :: rest) ⟨"hs", "name"⟩ = row.cell "name"
    exact Joined.cell_cons_self _ row rest _
  have hrows : skills.rowsFor db j =
      (db.owned "job_details_hard_skills" "job_details_id" j).flatMap fun p =>
        (db.referred .hardSkills (p.cell "hard_skills_id")).map
          fun row => [("hs", row), ("jhs", p), (postingQualifier, j)] := by
    have hnone : db.withLookups (Field.joinedOf skills.fields) = id := rfl
    rw [rowsFor, hnone, List.map_id]
    simp only [skills, Database.extended, extend_pairs hdb hj, List.flatMap_map,
      extend_skill hids, List.flatMap_singleton']
  rw [shownRows, List.filter_eq_self.mpr fun x _ => hall x, hrows, List.map_flatMap]
  simp only [List.map_map, Function.comp_def, hlabel]
  rfl

/-! ### The rows of a group -/

/-- The rows of a posting with a label, as many as the posting has it. -/
theorem map_posting_shownRows (hr : r ∈ all) (p : Predicate) (j : Row) (v : Cell) :
    ((((r.shownRows db j).map (db.withLookups (r.extraFields p))).filter fun z =>
      r.labelOf z = v).map Joined.posting) = List.replicate (r.times db j v) j := by
  rw [List.eq_replicate_iff]
  constructor
  · rw [List.length_map, List.filter_map, List.length_map, ← List.countP_eq_length_filter, times,
      List.count, List.countP_map]
    congr 1
    funext x
    rw [Function.comp_apply, Function.comp_apply, labelOf_extraFields hr]
    rfl
  · intro i hi
    obtain ⟨z, hz, rfl⟩ := List.mem_map.mp hi
    obtain ⟨x, hx, rfl⟩ := List.mem_map.mp (List.mem_filter.mp hz).1
    exact posting_extraFields hr hx

/-- The postings of a group are those that are counted under its label, each as often as it has
the label. -/
theorem map_posting_groupOf (hdb : db.Conforms) (hr : r ∈ all) (hy : y ∈ r.keptRows db c) :
    (r.groupOf (r.keptRows db c) y).map Joined.posting = r.rowsUnder db c (r.labelOf y) := by
  have hshown := shown_keptRows hdb hr c
  have hgroup : r.groupOf (r.keptRows db c) y =
      (r.keptRows db c).filter fun z => r.labelOf z = r.labelOf y := by
    refine List.filter_congr fun z hz => decide_eq_decide.mpr ⟨?_, congrArg Cell.key⟩
    exact (hshown.isLabel z hz).eq_of_key_eq (hshown.isLabel y hy)
  -- A posting that is not counted under the label has no row with it.
  have hnone : ∀ j, List.replicate (r.times db j (r.labelOf y)) j =
      if decide (r.Counts db j (r.labelOf y)) then
        List.replicate (r.times db j (r.labelOf y)) j
      else [] := by
    intro j
    split
    · rfl
    · next h =>
      have hzero := Nat.eq_zero_of_not_pos (mt times_pos.mp (mt decide_eq_true h))
      rw [hzero, List.replicate_zero]
  rw [hgroup, keptRows, List.map_flatMap, List.filter_flatMap, List.map_flatMap]
  simp only [map_posting_shownRows hr]
  rw [List.flatMap_congr fun j _ => hnone j]
  exact flatMap_ite (fun j => decide (r.Counts db j (r.labelOf y))) _ _

/-! ### The means of a report -/

/-- The reports show means of columns of postings. -/
theorem averaged_figures : ∀ r ∈ all, ∀ o ∈ r.figures, ∀ col ∈ o.averaged?,
    col = postingColumn col.name := by
  decide +kernel

/-- A row of an answer stands for a label. It has the number of the postings that are counted under
the label, and its means are over the postings of the rows with the label. -/
structure Describes (r : StandingReport) (db : Database) (c : Criteria) (v : Cell) (row : Record) :
    Prop where
  entry : r.entry row = shownEntry (v, (r.counted db c v).length)
  means : ∀ o ∈ r.figures, ∀ col ∈ o.averaged?, ∃ js : List Row,
    js.Perm (r.rowsUnder db c v) ∧
      Ordered.find? o.name row = some (roundedMeanOf col.name js).toJson

theorem exists_describes (hdb : db.Conforms) (hr : r ∈ all) {row : Record}
    (hrow : row ∈ r.answerRows db c) :
    ∃ y ∈ r.keptRows db c, r.Describes db c (r.labelOf y) row := by
  obtain ⟨g, hg, rfl⟩ := List.mem_map.mp hrow
  obtain ⟨y, hy, rfl⟩ := mem_orderedGroups.mp ((Window.cut_sublist _ _).subset hg)
  refine ⟨y, hy, ?_, fun o ho col hcol => ?_⟩
  · rw [entry_document hr, (shown_keptRows hdb hr c).entryOf_groupOf hdb hr hy]
  · have hmean : o.averaged? = some (postingColumn col.name) := by
      rw [← averaged_figures r hr o ho col hcol]
      exact hcol
    obtain ⟨js, hperm, hvalue⟩ := Output.exists_postings hmean (r.groupOf (r.keptRows db c) y)
    rw [map_posting_groupOf hdb hr hy] at hperm
    refine ⟨js, hperm, ?_⟩
    rw [find?_document (outputs_names r hr).1 (List.mem_cons_of_mem _ ho), hvalue]

/-- Under any criteria each row of a report has the number of the postings that are counted under
its label, and means over the postings of the rows with the label. In all reports but that on
skills these are the postings that are counted; in that one each counts as often as it has the
skill. -/
theorem means_weigh_rows (hdb : db.Conforms) (hc : c.Normal) (hfields : c.Filterable)
    (hn : c.Countable) :
    (∀ r ∈ all, ∃ rows, r.Yields db c rows ∧ ∀ row ∈ rows, ∃ v, r.Describes db c v row) ∧
    (∀ r ∈ all, r ≠ skills → ∀ v, r.rowsUnder db c v = r.counted db c v) ∧
    ((∀ row ∈ db.stored Field.hardSkills.entry.table, ∃ n, row.cell "id" = .int n) →
      ∀ v, skills.rowsUnder db c v = (skills.counted db c v).flatMap fun j =>
        List.replicate ((db.labels .hardSkills j).count v) j) := by
  refine ⟨fun r hr => ⟨_, yields_answerRows hdb hr hc hfields hn, fun row hrow => ?_⟩,
    fun r hr hne v => rowsUnder_of_plain (joins_of_ne_skills hr hne) db c v, fun hids v => ?_⟩
  · obtain ⟨y, -, hy⟩ := exists_describes hdb hr hrow
    exact ⟨_, hy⟩
  · refine List.flatMap_congr fun j hj => ?_
    have hmatching := (List.mem_filter.mp hj).1
    rw [times, labels_skills hdb hids (List.mem_filter.mp hmatching).1]

end StandingReport

/-! ### A skill that is repeated -/

namespace Dataset

/-- A job with a salary and skills. -/
def skilled (id : Int) (salary : Cell) (skills : List String) : Job where
  id
  plain := [("max_salary", salary)]
  label _ := none
  labels f := if f = .hardSkills then skills.map some else []

/-- Two jobs with one skill, which the first one has twice. Their salaries are so large that no
mean of them is rounded. -/
def repeated : Dataset where
  jobs := [skilled 1 (.int 30000000000000000) ["Java", "Java"],
    skilled 2 (.int 10000000000000000) ["Java"]]
  conversion := ⟨false, false⟩
  dropped := []

theorem storable_repeated : repeated.Storable where
  ids := by decide
  nodup := by decide
  few := by decide
  whole := rfl

end Dataset

namespace StandingReport

open Dataset

/-- There is one row for the skill, in which two postings are counted and the first one weighs
twice. -/
theorem means_weigh_rows_repeated :
    ∃ rows, skills.Yields repeated.database .empty rows ∧
      (∀ row ∈ rows, ∃ v, skills.Describes repeated.database .empty v row) ∧
      (skills.counted repeated.database .empty (.text "Java")).map Database.idOf = [1, 2] ∧
      (skills.rowsUnder repeated.database .empty (.text "Java")).map Database.idOf = [1, 1, 2] := by
  obtain ⟨hrows, -, hskills⟩ := means_weigh_rows storable_repeated.conforms Criteria.normal_empty
    Criteria.filterable_empty Criteria.countable_empty
  obtain ⟨rows, hyields, hall⟩ := hrows skills (by simp [all])
  refine ⟨rows, hyields, hall, by decide +kernel, ?_⟩
  have hids := storable_repeated.inStorageOrder.ids .hardSkills
  rw [hskills hids]
  decide +kernel

/-- The salaries of the two postings have one mean and those of the three rows another one, in
whichever order they are added. -/
theorem means_repeated :
    (∀ js ∈ (skills.counted repeated.database .empty (.text "Java")).permutations',
      roundedMeanOf "max_salary" js = .real 20000000000000000) ∧
    ∀ js ∈ (skills.rowsUnder repeated.database .empty (.text "Java")).permutations',
      roundedMeanOf "max_salary" js = .real 23333333333333332 := by
  decide +kernel

/-- The row of the skill has two postings and a mean that is not that of their salaries. -/
theorem repeated_skill_weighs_twice :
    ∃ rows, skills.Yields repeated.database .empty rows ∧ ∃ row ∈ rows,
      skills.entry row = (some (.text "Java"), some (.int 2)) ∧
      (skills.counted repeated.database .empty (.text "Java")).length = 2 ∧
      Ordered.find? "avg_max_salary" row = some (.real 23333333333333332) ∧
      ∀ js : List Row, js.Perm (skills.counted repeated.database .empty (.text "Java")) →
        (roundedMeanOf "max_salary" js).toJson = .real 20000000000000000 := by
  have hskills : skills ∈ all := by simp [all]
  have hkept : skills.keptRows repeated.database .empty ≠ [] := by decide +kernel
  have hjava : ∀ y ∈ skills.keptRows repeated.database .empty,
      skills.labelOf y = .text "Java" := by
    decide +kernel
  have htwo : (skills.counted repeated.database .empty (.text "Java")).length = 2 := by
    decide +kernel
  obtain ⟨x, hx⟩ := List.exists_mem_of_ne_nil _ hkept
  obtain ⟨g, rest, hg⟩ := List.exists_cons_of_ne_nil
    (List.ne_nil_of_mem (mem_orderedGroups.mpr ⟨x, hx, rfl⟩))
  have hrow : document skills.outputs g ∈ skills.answerRows repeated.database .empty := by
    rw [answerRows, hg]
    exact List.mem_cons_self
  obtain ⟨y, hy, hrow'⟩ := exists_describes storable_repeated.conforms hskills hrow
  rw [hjava y hy] at hrow'
  obtain ⟨js, hperm, hmean⟩ := hrow'.means (meanMaxSalaryBy ⟨"jhs", rowNumber⟩) (by simp [skills])
    (postingColumn "max_salary") rfl
  refine ⟨_, yields_answerRows storable_repeated.conforms hskills Criteria.normal_empty
    Criteria.filterable_empty Criteria.countable_empty, _, hrow, ?_, htwo, ?_, fun js hjs => ?_⟩
  · rw [hrow'.entry, htwo]
    rfl
  · have hshown : Ordered.find? "avg_max_salary" (document skills.outputs g) =
        some (roundedMeanOf "max_salary" js).toJson := hmean
    rw [hshown, means_repeated.2 js (List.mem_permutations'.mpr hperm)]
    rfl
  · rw [means_repeated.1 js (List.mem_permutations'.mpr hjs)]
    rfl

end StandingReport

end JobSearch
