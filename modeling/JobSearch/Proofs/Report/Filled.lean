import JobSearch.Proofs.Query.JoinList
import JobSearch.Proofs.Statement.Expressions
import JobSearch.Proofs.Statement.Written
import JobSearch.Proofs.Text.Substitute
import JobSearch.Report.Standing

/-!
# Reports with their gaps filled

The text of a standing report is its template, line by line, with the joins and the condition of
the criteria in the lines of the gaps (`StandingReport.textUnder_report`). The gaps are filled one
after the other, so this needs that nothing filled into a gap looks like a gap: neither the lines
of the template (`StandingReport.isPlain`) nor the joins nor the condition have an opening brace in
them.

## Main definitions

* `StandingReport.linesWith` — the lines of a report with text in its gaps.
* `StandingReport.addedJoins` — the joins that are filled into a report.
-/

namespace JobSearch

open Query Text

/-! ### Gaps -/

/-- The gaps of a template begin with a brace and differ in the next character. -/
theorem toList_gaps :
    joinsGap.toList = '\x7b' :: 'j' :: ['o', 'i', 'n', 's', '\x7d'] ∧
      whereGap.toList = '\x7b' :: 'w' :: ['h', 'e', 'r', 'e', '\x7d'] ∧
      andWhereGap.toList =
        '\x7b' :: 'a' :: ['n', 'd', '_', 'w', 'h', 'e', 'r', 'e', '\x7d'] := by
  decide

/-! ### What is put into gaps -/

namespace Report

theorem plain_joinsWith (fs : List Field) (p : Predicate) :
    Plain (joinsText (joinsWith (lookupJoins fs) p)) := by
  refine Plain.intercalate (by simp) fun t ht => ?_
  obtain ⟨j, hj, rfl⟩ := List.mem_map.mp ht
  have hlookup {fs : List Field} (h : j ∈ lookupJoins fs) : Plain j.text := by
    obtain ⟨f, -, rfl⟩ := List.mem_map.mp h
    exact f.plain_lookupJoin
  rcases List.mem_append.mp hj with hj | hj
  · exact hlookup hj
  · exact hlookup (List.mem_filter.mp hj).1

/-- Nothing that is put in for the condition of criteria has a brace. -/
theorem inserted_no_gap {word : String} (hword : '\x7b' ∉ word.toList) (c : Criteria)
    (search : String) (policy : Policy) :
    '\x7b' ∉ (inserted word (c.predicate search policy)).toList := by
  have hreads := Predicate.reads_predicate c search policy
  rw [inserted]
  generalize (c.predicate search policy).condition = condition at hreads
  generalize c.written search policy = w at hreads
  cases hreads with
  | none => simp
  | some h =>
    have hwords : '\x7b' ∉ " (".toList ∧ '\x7b' ∉ ")".toList := by decide
    simp only [String.toList_append, List.mem_append, hword, hwords, h.no_gap, or_self,
      not_false_eq_true]

end Report

namespace StandingReport

/-- The lines before the joins of the criteria. -/
def frontLines (r : StandingReport) : List String :=
  ["SELECT\n    " ++ ",\n    ".intercalate (r.outputs.map Output.text)] ++
    [(Source.mk postingTable postingQualifier []).head] ++ r.joins.map Join.text

/-- The conditions of the report itself as a line. -/
def requiredLine (r : StandingReport) : String :=
  "WHERE " ++ " AND ".intercalate (r.required.map Condition.text)

/-- The lines behind the condition of the criteria. -/
def backLines (r : StandingReport) : List String :=
  ["GROUP BY " ++ groupText r.group, orderText r.order] ++
    (match r.limit with
      | none => []
      | some n => ["LIMIT " ++ Number.natText n])

/-- The lines of a report with text in its gaps: that for the joins, and that for the condition if
it stands alone or else besides the conditions of the report itself. -/
def linesWith (r : StandingReport) (joins alone besides : String) : List String :=
  r.frontLines ++ [joins] ++
    (if r.present.isEmpty then [alone] else [r.requiredLine, besides]) ++ r.backLines

theorem lines_eq (r : StandingReport) :
    r.lines = r.linesWith joinsGap whereGap andWhereGap := by
  rw [lines, linesWith, frontLines, backLines, requiredLine]
  cases r.limit <;> simp only [List.append_assoc]

/-! ### The lines of the template -/

/-- The columns that a standing report looks at, those of its joins apart. -/
def columns (r : StandingReport) : List Column :=
  r.outputs.flatMap (·.expression.columns) ++ r.present ++ r.order.flatMap (·.key.columns)

/-- The texts that a standing report is made of, names of columns apart. -/
def constants (r : StandingReport) : List String :=
  r.outputs.flatMap (fun o => o.name :: o.expression.constants) ++
    r.order.flatMap (·.key.constants)

/-- The words of templates. -/
@[simp] theorem plain_templateWords : Plain "SELECT\n    " ∧ Plain "ORDER BY\n    " := by
  constructor <;> exact .of_eq ⟨_, rfl, by decide⟩

/-- All that a standing report is made of is plain. -/
structure IsPlain (r : StandingReport) : Prop where
  columns : ∀ c ∈ r.columns, Plain c.text
  constants : ∀ s ∈ r.constants, Plain s
  joins : ∀ j ∈ r.joins, Plain j.text

theorem isPlain {r : StandingReport} (hr : r ∈ all) : r.IsPlain := by
  simp only [all, List.mem_cons, List.not_mem_nil, or_false] at hr
  rcases hr with rfl | rfl | rfl | rfl | rfl | rfl | rfl | rfl
  all_goals
    constructor <;>
    simp only [columns, constants, outputs, experience, flexibility, locations, industries,
      employment, companies, salaries, skills, jobCount, meanMinSalary, meanMaxSalary,
      meanMaxSalaryBy, byCount, byBucket, experienceLevels, salaryRanges, Expression.columns,
      Expression.constants, SortKey.columns, SortKey.constants, postingColumn, skillLabel,
      List.flatMap_cons, List.flatMap_nil, List.map_cons, List.map_nil, List.cons_append,
      List.nil_append, List.append_nil, List.forall_mem_cons, List.not_mem_nil, false_implies,
      implies_true, and_true, plain_columnText (c := ⟨_, _⟩), plain_joinText (j := ⟨_, _, _, _, _⟩),
      plain_postingQualifier, true_and, and_self]
    repeat' apply And.intro
    all_goals exact .of_eq ⟨_, rfl, by decide⟩

namespace IsPlain

variable {r : StandingReport}

theorem output (h : r.IsPlain) {o : Output} (ho : o ∈ r.outputs) : Plain o.text := by
  refine plain_output (fun c hc => h.columns c ?_) (fun s hs => h.constants s ?_)
  · exact List.mem_append_left _ (List.mem_append_left _ (List.mem_flatMap.mpr ⟨o, ho, hc⟩))
  · exact List.mem_append_left _ (List.mem_flatMap.mpr ⟨o, ho, hs⟩)

theorem groupText (h : r.IsPlain) : Plain (groupText r.group) := by
  have hgroup : r.group ∈ r.outputs := List.mem_cons_self
  have hname : Plain r.group.name := h.constants _ (List.mem_append_left _
    (List.mem_flatMap.mpr ⟨r.group, hgroup, List.mem_cons_self⟩))
  rw [StandingReport.groupText]
  split
  · next c hc =>
    refine h.columns c (List.mem_append_left _ (List.mem_append_left _
      (List.mem_flatMap.mpr ⟨r.group, hgroup, ?_⟩)))
    simp [hc, Expression.columns]
  · exact hname

theorem sortKey (h : r.IsPlain) {t : SortTerm} (ht : t ∈ r.order) : Plain t.key.text := by
  refine plain_sortKey (fun c hc => h.columns c ?_) (fun s hs => h.constants s ?_)
  · exact List.mem_append_right _ (List.mem_flatMap.mpr ⟨t, ht, hc⟩)
  · exact List.mem_append_right _ (List.mem_flatMap.mpr ⟨t, ht, hs⟩)

theorem orderText (h : r.IsPlain) : Plain (orderText r.order) := by
  have hterms : Plain (", ".intercalate (r.order.map SortTerm.text)) := by
    refine Plain.intercalate (by simp) fun t ht => ?_
    obtain ⟨u, hu, rfl⟩ := List.mem_map.mp ht
    exact plain_sortTerm (h.sortKey hu)
  rw [StandingReport.orderText.eq_def]
  split
  · next name labels direction ho =>
    have hkey := h.sortKey (t := ⟨.ranked name labels, direction⟩) (by simp [ho])
    simp only [plain_append, plain_templateWords, hkey, and_self]
  · simp only [plain_append, plain_constants, hterms, and_self]

theorem frontLines (h : r.IsPlain) : ∀ l ∈ r.frontLines, Plain l := by
  have houtputs : Plain (",\n    ".intercalate (r.outputs.map Output.text)) := by
    refine Plain.intercalate (by simp) fun t ht => ?_
    obtain ⟨o, ho, rfl⟩ := List.mem_map.mp ht
    exact h.output ho
  intro l hl
  rcases List.mem_append.mp hl with hl | hl
  · rcases List.mem_pair.mp hl with rfl | rfl
    · simp only [plain_append, plain_templateWords, houtputs, and_self]
    · simp [Source.head]
  · obtain ⟨j, hj, rfl⟩ := List.mem_map.mp hl
    exact h.joins j hj

theorem requiredLine (h : r.IsPlain) : Plain r.requiredLine := by
  refine plain_append.mpr ⟨by simp, Plain.intercalate (by simp) fun t ht => ?_⟩
  obtain ⟨u, hu, rfl⟩ := List.mem_map.mp ht
  obtain ⟨c, hc, rfl⟩ := List.mem_map.mp hu
  exact plain_append.mpr
    ⟨h.columns c (List.mem_append_left _ (List.mem_append_right _ hc)), by simp⟩

theorem backLines (h : r.IsPlain) : ∀ l ∈ r.backLines, Plain l := by
  intro l hl
  rcases List.mem_append.mp hl with hl | hl
  · rcases List.mem_pair.mp hl with rfl | rfl
    · exact plain_append.mpr ⟨by simp, h.groupText⟩
    · exact h.orderText
  · split at hl
    · cases hl
    · next n _ =>
      obtain rfl := List.mem_singleton.mp hl
      exact plain_append.mpr ⟨by simp, plain_natText n⟩

end IsPlain

/-! ### Filling the gaps -/

/-- Text without a brace stays when a gap is filled. -/
theorem turns_of_no_gap {gap text s : String} (hgap : ∃ cs, gap.toList = '\x7b' :: cs)
    (h : '\x7b' ∉ s.toList) : Turns gap text s s :=
  .of_not_mem hgap.choose_spec h

/-- Lines are filled one by one. -/
theorem turns_linesWith {r : StandingReport} (hr : r.IsPlain) {gap text : String}
    (hgap : ∃ cs, gap.toList = '\x7b' :: cs) {joins joins' alone alone' besides besides' : String}
    (hjoins : Turns gap text joins joins') (halone : Turns gap text alone alone')
    (hbesides : Turns gap text besides besides') :
    List.Forall₂ (Turns gap text) (r.linesWith joins alone besides)
      (r.linesWith joins' alone' besides') := by
  have hplain {ls : List String} (h : ∀ l ∈ ls, Plain l) : List.Forall₂ (Turns gap text) ls ls :=
    List.forall₂_same.mpr fun l hl => turns_of_no_gap hgap (h l hl).no_gap
  refine List.rel_append (List.rel_append (List.rel_append (hplain hr.frontLines)
    (.cons hjoins .nil)) ?_) (hplain hr.backLines)
  split
  · exact .cons halone .nil
  · exact .cons (turns_of_no_gap hgap hr.requiredLine.no_gap) (.cons hbesides .nil)

/-- A template with its gaps filled is made of the lines of the report with the joins and the
condition in them. -/
theorem fill_template {r : StandingReport} (hr : r.IsPlain) {joins : List Join} {p : Predicate}
    (hjoins : '\x7b' ∉ (joinsText joins).toList)
    (hcondition : ∀ word : String, '\x7b' ∉ word.toList →
      '\x7b' ∉ (Report.inserted word p).toList) :
    Report.fill r.template joins p =
      String.join ((r.linesWith (joinsText joins) (Report.inserted "WHERE" p)
        (Report.inserted "AND" p)).map (· ++ "\n")) := by
  obtain ⟨hj, hw, ha⟩ := toList_gaps
  have hend (gap text : String) (hgap : ∃ cs, gap.toList = '\x7b' :: cs) :
      Turns gap text "\n" "\n" := turns_of_no_gap hgap (by decide)
  have hfilled (gap text : String) (hgap : ∃ cs, gap.toList = '\x7b' :: cs) {ls ms : List String}
      (h : List.Forall₂ (Turns gap text) ls ms) :
      substitute gap text (String.join (ls.map (· ++ "\n"))) =
        String.join (ms.map (· ++ "\n")) :=
    (Turns.lines (hend gap text hgap) h).substitute_eq
  have hjgap : ∃ cs, joinsGap.toList = '\x7b' :: cs := ⟨_, hj⟩
  have hwgap : ∃ cs, whereGap.toList = '\x7b' :: cs := ⟨_, hw⟩
  have hagap : ∃ cs, andWhereGap.toList = '\x7b' :: cs := ⟨_, ha⟩
  rw [Report.fill, template, lines_eq]
  rw [hfilled joinsGap _ hjgap (turns_linesWith hr hjgap (.part_self (by decide) _)
    (.of_other hj hw (by decide) (by decide)) (.of_other hj ha (by decide) (by decide)))]
  rw [hfilled whereGap _ hwgap (turns_linesWith hr hwgap (turns_of_no_gap hwgap hjoins)
    (.part_self (by decide) _) (.of_other hw ha (by decide) (by decide)))]
  rw [hfilled andWhereGap _ hagap (turns_linesWith hr hagap (turns_of_no_gap hagap hjoins)
    (turns_of_no_gap hagap (hcondition "WHERE" (by decide))) (.part_self (by decide) _))]

/-! ### The text of a report -/

/-- The joins that are filled into a report under a predicate. -/
def addedJoins (r : StandingReport) (p : Predicate) : List Join :=
  Report.joinsWith (lookupJoins r.fields) p

theorem joinsUnder_report (r : StandingReport) (p : Predicate) :
    r.report.joinsUnder p = .ok (r.addedJoins p) := by
  rw [Report.joinsUnder, report, lookupJoinsOf_map_key]
  rfl

theorem plain_addedJoins (r : StandingReport) (p : Predicate) :
    Plain (joinsText (r.addedJoins p)) := Report.plain_joinsWith r.fields p

/-- The text of a standing report under criteria is made of its lines, with the joins and the
condition that the criteria need in the lines of the gaps. -/
theorem textUnder_report {r : StandingReport} (hr : r ∈ all) (c : Criteria) (search : String)
    (policy : Policy) :
    r.report.textUnder (c.predicate search policy) =
      .ok (String.join ((r.linesWith (joinsText (r.addedJoins (c.predicate search policy)))
        (Report.inserted "WHERE" (c.predicate search policy))
        (Report.inserted "AND" (c.predicate search policy))).map (· ++ "\n"))) := by
  rw [Report.textUnder, joinsUnder_report]
  exact congrArg Except.ok (fill_template (isPlain hr) (r.plain_addedJoins _).no_gap
    fun word hword => Report.inserted_no_gap hword c search policy)

end StandingReport

end JobSearch
