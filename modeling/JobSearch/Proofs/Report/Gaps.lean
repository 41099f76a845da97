import JobSearch.Proofs.Record.Checked
import JobSearch.Proofs.Report.Filled
import JobSearch.Proofs.Sequence
import JobSearch.Proofs.Text.Occurrences

/-!
# Gaps of templates

A template is accepted for the gaps that occur in it, but it is filled in three turns, each of
which reads what the ones before have left (`Report.fill_eq`). Text that is put in forms no gap
where it begins with a character that is in none (`Fills.countOf_substitute`), as joins and
conditions do. Nothing at all begins with no character: a gap that is taken out may leave another
one where it stood (`Report.gap_formed_while_filling`).

So joins and a condition that are there fill a template as they should, whatever it is, and
`Report.render_fills_gaps_iff` says when they do so where one of them is not there. What is always
right are templates without other braces than those of their gaps.

## Main definitions

* `gaps` — the gaps of a template.
* `Fills` — text with which no gap is formed.
* `Report.Accepted` — what a report that was read has in its template.
* `Report.joined`, `Report.criteriaGaps` — a template after the first turn, and its gaps for the
  condition.
* `Report.Filled` — the gaps are filled as they should be.
* `Report.Pieces` — pieces of a template without other braces than those of its gaps.
-/

namespace JobSearch

open Query Text

/-! ### Gaps -/

/-- The gaps of a template. -/
def gaps : List String := [joinsGap, whereGap, andWhereGap]

theorem joinsGap_mem : joinsGap ∈ gaps := by decide

theorem whereGap_mem : whereGap ∈ gaps := by decide

theorem andWhereGap_mem : andWhereGap ∈ gaps := by decide

/-- A gap begins with a brace and has no other one. -/
theorem gap_brace {gap : String} (h : gap ∈ gaps) :
    ∃ t, gap.toList = '\x7b' :: t ∧ '\x7b' ∉ t := by
  have hall : ∀ gap ∈ gaps, gap.toList.head? = some '\x7b' ∧ '\x7b' ∉ gap.toList.tail := by decide
  obtain ⟨hhead, htail⟩ := hall gap h
  exact ⟨gap.toList.tail, (List.cons_head?_tail hhead).symm, htail⟩

theorem gap_ne_nil {gap : String} (h : gap ∈ gaps) : gap.toList ≠ [] := by
  obtain ⟨t, ht, -⟩ := gap_brace h
  exact ht ▸ List.cons_ne_nil _ _

/-- No gap begins in another one. -/
theorem behind?_gap {gap other : String} (hgap : gap ∈ gaps) (hother : other ∈ gaps)
    (hne : other ≠ gap) {c : Char} {cs : List Char} (hsuffix : c :: cs <:+ other.toList)
    (s : List Char) : behind? gap.toList (c :: (cs ++ s)) = none := by
  have hfront : ∀ gap ∈ gaps, ∀ other ∈ gaps, other ≠ gap →
      behind? gap.toList (other.toList ++ s) = none := by
    intro gap hgap other hother hne
    simp only [gaps, List.mem_cons, List.not_mem_nil, or_false] at hgap hother
    rcases hgap with rfl | rfl | rfl <;> rcases hother with rfl | rfl | rfl <;>
      first | rfl | exact absurd rfl hne
  obtain ⟨t, ht, hbrace⟩ := gap_brace hother
  rw [ht] at hsuffix
  rcases List.suffix_cons_iff.mp hsuffix with he | hsuffix
  · have hbehind := hfront gap hgap other hother hne
    rwa [ht, ← he] at hbehind
  · obtain ⟨u, hu, -⟩ := gap_brace hgap
    have hc : '\x7b' ≠ c := fun he => hbrace (he ▸ hsuffix.mem (by simp))
    simp [hu, behind?, hc]

/-- No gap begins in text without a brace. -/
theorem behind?_no_gap {gap : String} (hgap : gap ∈ gaps) {text : List Char}
    (htext : '\x7b' ∉ text) {c : Char} {cs : List Char} (hsuffix : c :: cs <:+ text)
    (s : List Char) : behind? gap.toList (c :: (cs ++ s)) = none := by
  obtain ⟨u, hu, -⟩ := gap_brace hgap
  have hc : '\x7b' ≠ c := fun he => htext (he ▸ hsuffix.mem (by simp))
  simp [hu, behind?, hc]

section occurrences

variable {gap other : String}

theorem occurrences_gap (hgap : gap ∈ gaps) (hother : other ∈ gaps) (s : List Char) :
    occurrences gap.toList (other.toList ++ s) =
      (if other = gap then 1 else 0) + occurrences gap.toList s := by
  split
  · next h => rw [h, occurrences_append (gap_ne_nil hgap), Nat.add_comm]
  · next h =>
    rw [occurrences_append_of_behind? fun c cs hsuffix => behind?_gap hgap hother h hsuffix s,
      Nat.zero_add]

theorem occurrences_no_gap (hgap : gap ∈ gaps) {text : List Char} (htext : '\x7b' ∉ text)
    (s : List Char) : occurrences gap.toList (text ++ s) = occurrences gap.toList s :=
  occurrences_append_of_behind? fun _ _ hsuffix => behind?_no_gap hgap htext hsuffix s

theorem adds_gap (hgap : gap ∈ gaps) (hother : other ∈ gaps) :
    Adds gap.toList (if other = gap then 1 else 0) other.toList := by
  obtain ⟨u, hu, hbrace⟩ := gap_brace hgap
  obtain ⟨t, ht, -⟩ := gap_brace hother
  exact ⟨⟨'\x7b', t, ht, by rwa [hu]⟩, occurrences_gap hgap hother⟩

end occurrences

/-! ### Text put into gaps -/

/-- The text begins with a character that is in no gap. -/
def BeginsApart (text : String) : Prop :=
  ∃ z t, text.toList = z :: t ∧ ∀ gap ∈ gaps, z ∉ gap.toList

theorem BeginsApart.append {s : String} (h : BeginsApart s) (t : String) :
    BeginsApart (s ++ t) := by
  obtain ⟨z, u, hu, hz⟩ := h
  exact ⟨z, u ++ t.toList, by rw [String.toList_append, hu, List.cons_append], hz⟩

/-- Text with which no gap is formed: it has no brace, and begins with a character that is in no
gap. -/
structure Fills (text : String) : Prop where
  no_gap : '\x7b' ∉ text.toList
  begins : BeginsApart text

section substitute

variable {gap other text : String}

theorem Fills.adds (htext : Fills text) (hgap : gap ∈ gaps) : Adds gap.toList 0 text.toList := by
  obtain ⟨z, t, ht, hz⟩ := htext.begins
  exact ⟨⟨z, t, ht, fun hmem => hz gap hgap (List.mem_of_mem_tail hmem)⟩,
    fun y => (occurrences_no_gap hgap htext.no_gap y).trans (Nat.zero_add _).symm⟩

/-- Text that is put into the occurrences of a gap takes them away and no other gaps. -/
theorem Fills.countOf_substitute (htext : Fills text) (hgap : gap ∈ gaps) (hother : other ∈ gaps)
    (s : String) :
    countOf other (substitute gap text s) = if other = gap then 0 else countOf other s := by
  have hne := splitOn_ne_nil gap.toList s.toList
  have hbefore : occurrences other.toList s.toList =
      ((splitOn gap.toList s.toList).map (occurrences other.toList)).sum +
        occurrences gap.toList s.toList * if gap = other then 1 else 0 :=
    (congrArg _ (replaced_self (gap_ne_nil hgap) s.toList)).symm.trans
      ((adds_gap hother hgap).occurrences_intercalate (gap_ne_nil hother) hne)
  have hafter : countOf other (substitute gap text s) =
      ((splitOn gap.toList s.toList).map (occurrences other.toList)).sum := by
    rw [countOf_eq, Text.substitute_eq, String.toList_ofList]
    exact (htext.adds hother).occurrences_intercalate (gap_ne_nil hother) hne
  rw [hafter]
  split
  · next h =>
    subst h
    rw [if_pos rfl, Nat.mul_one] at hbefore
    omega
  · next h =>
    rw [if_neg (Ne.symm h), Nat.mul_zero, Nat.add_zero] at hbefore
    exact hbefore.symm

/-- Putting text into the occurrences of a gap adds its question marks for each of them. -/
theorem count_substitute (hgap : gap ∈ gaps) (text s : String) :
    (substitute gap text s).toList.count '?' =
      s.toList.count '?' + countOf gap s * text.toList.count '?' := by
  have hmark : ∀ gap ∈ gaps, gap.toList.count '?' = 0 := by decide
  have hcount := count_replaced (gap_ne_nil hgap) '?' text.toList s.toList
  rw [hmark gap hgap, Nat.mul_zero, Nat.add_zero] at hcount
  rw [Text.substitute_eq, String.toList_ofList, hcount, countOf_eq]

theorem substitute_of_countOf_eq_zero (hgap : gap ∈ gaps) {s : String} (h : countOf gap s = 0)
    (text : String) : substitute gap text s = s := by
  rw [Text.substitute_eq, replaced_of_occurrences_eq_zero (gap_ne_nil hgap) h, String.ofList_toList]

/-- What stands before and behind a gap that occurs once stays. -/
theorem exists_of_countOf_eq_one (hgap : gap ∈ gaps) {s : String} (h : countOf gap s = 1) :
    ∃ before after, s = before ++ gap ++ after ∧
      ∀ text, substitute gap text s = before ++ text ++ after := by
  obtain ⟨before, after, hs, hreplaced⟩ := exists_of_occurrences_eq_one (gap_ne_nil hgap) h
  refine ⟨String.ofList before, String.ofList after, ?_, fun text => ?_⟩
  · simpa only [← String.toList_inj, String.toList_append, String.toList_ofList] using hs
  · rw [Text.substitute_eq, hreplaced]
    simp only [← String.toList_inj, String.toList_append, String.toList_ofList]

/-- Gaps before text, in it and behind it. -/
theorem countOf_around {k : Nat} (hgap : gap ∈ gaps) (h : Adds gap.toList k text.toList)
    (before after : String) :
    countOf gap (before ++ text ++ after) = countOf gap before + k + countOf gap after := by
  rw [countOf_eq, String.toList_append, String.toList_append,
    h.occurrences_around (gap_ne_nil hgap), countOf_eq, countOf_eq]

end substitute

/-! ### What is put into gaps -/

theorem beginsApart_word : ∀ word ∈ ["JOIN ", "LEFT JOIN ", "WHERE", "AND"], BeginsApart word := by
  have hfirst : ∀ word ∈ ["JOIN ", "LEFT JOIN ", "WHERE", "AND"], word.toList ≠ [] ∧
      ∀ gap ∈ gaps, word.toList.headD ' ' ∉ gap.toList := by decide
  intro word hword
  obtain ⟨hne, hgap⟩ := hfirst word hword
  obtain ⟨z, t, ht⟩ := List.exists_cons_of_ne_nil hne
  exact ⟨z, t, ht, by simpa [ht] using hgap⟩

theorem beginsApart_joinText (j : Join) : BeginsApart j.text := by
  have happend {word : String} (hword : word ∈ ["JOIN ", "LEFT JOIN ", "WHERE", "AND"])
      (s t u v w x y : String) : BeginsApart (word ++ s ++ t ++ u ++ v ++ w ++ x ++ y) :=
    (((((((beginsApart_word word hword).append _).append _).append _).append _).append _).append
      _).append _
  rcases j with ⟨kind, table, qualifier, first, second⟩
  cases kind <;> exact happend (by simp) _ _ _ _ _ _ _

theorem fills_joinsText {joins : List Join} (hne : joins ≠ [])
    (hjoins : '\x7b' ∉ (joinsText joins).toList) : Fills (joinsText joins) := by
  refine ⟨hjoins, ?_⟩
  obtain ⟨j, rest, rfl⟩ := List.exists_cons_of_ne_nil hne
  rw [joinsText, List.map_cons]
  by_cases hrest : rest.map Join.text = []
  · rw [hrest, String.intercalate_singleton]
    exact beginsApart_joinText j
  · rw [String.intercalate_cons_of_ne_nil hrest]
    exact ((beginsApart_joinText j).append _).append _

namespace Report

variable {c : Criteria} {search : String} {policy : Policy}

/-- The condition of criteria behind a word forms no gap. -/
theorem fills_inserted {word : String} (hword : word ∈ ["WHERE", "AND"])
    (h : (c.predicate search policy).condition ≠ none) :
    Fills (inserted word (c.predicate search policy)) := by
  have hbrace : ∀ word ∈ ["WHERE", "AND"], '\x7b' ∉ word.toList := by decide
  refine ⟨inserted_no_gap (hbrace word hword) c search policy, ?_⟩
  obtain ⟨t, ht⟩ := Option.ne_none_iff_exists'.mp h
  rw [inserted, ht]
  exact (((beginsApart_word word (by simp_all)).append _).append _).append _

/-- The condition of criteria has as many question marks as values, behind any word without one. -/
theorem count_inserted {word : String} (hword : '?' ∉ word.toList) (c : Criteria) (search : String)
    (policy : Policy) : (inserted word (c.predicate search policy)).toList.count '?' =
      (c.predicate search policy).params.length := by
  have hreads := Predicate.reads_predicate c search policy
  rw [inserted, Predicate.params]
  generalize (c.predicate search policy).condition = condition at hreads
  generalize c.written search policy = w at hreads
  cases hreads with
  | none => rfl
  | some h =>
    have hwords : " (".toList.count '?' = 0 ∧ ")".toList.count '?' = 0 := by decide
    simp only [String.toList_append, List.count_append, List.count_eq_zero.mpr hword, hwords,
      h.count_eq, Option.map_some, Option.getD_some]
    omega

/-! ### Reports that are accepted -/

theorem checkTemplate_eq_ok_iff {s t : String} : checkTemplate s = .ok t ↔
    countOf whereGap s + countOf andWhereGap s = 1 ∧ countOf joinsGap s ≠ 0 ∧ s = t := by
  rw [checkTemplate]
  split
  · next h => simp [h]
  · next h =>
    split
    · next hjoins => simp [hjoins]
    · next hjoins => simp [not_not.mp h, hjoins]

theorem exists_resolveFields {keys : List String} (h : checkJoins keys = .ok none) :
    ∃ fs, resolveFields keys = .ok fs := by
  induction keys with
  | nil => exact ⟨[], rfl⟩
  | cons key rest ih =>
    rw [checkJoins] at h
    rw [resolveFields]
    cases hkey : Field.resolve key with
    | error u => simp [hkey] at h
    | ok f =>
      simp only [hkey] at h
      split at h
      · cases h
      · obtain ⟨fs, hfs⟩ := ih h
        exact ⟨f :: fs, by simp only [hfs]⟩

theorem ensures_readJoins {entry : Json} {joins : Checked (List String)}
    (h : readJoins entry = .ok joins) : joins.Ensures fun keys => checkJoins keys = .ok none := by
  rw [readJoins] at h
  split at h
  · rw [← Except.ok.inj h]
    exact Checked.ensures_valid.mpr rfl
  · split at h
    · rw [← Except.ok.inj h]
      rintro keys ⟨⟩
    · next keys _ =>
      split at h
      · cases h
      · next hkeys =>
        rw [← Except.ok.inj h]
        exact Checked.ensures_valid.mpr hkeys
      · rw [← Except.ok.inj h]
        rintro keys ⟨⟩

theorem ensures_readTemplate (entry : Json) :
    (Checked.required readTemplate "sql" entry).Ensures fun s => checkTemplate s = .ok s := by
  intro s hs
  rw [Checked.required] at hs
  split at hs
  · next v _ =>
    cases hread : readTemplate v with
    | error r => simp [hread, Checked.ofExcept, Checked.refuse] at hs
    | ok t =>
      obtain rfl : t = s := by simpa [hread, Checked.ofExcept] using hs
      rw [readTemplate] at hread
      split at hread
      · obtain ⟨hgaps, hjoins, rfl⟩ := checkTemplate_eq_ok_iff.mp hread
        exact hread
      · cases hread
  · cases hs

/-- A report that is accepted. -/
structure Accepted (r : Report) : Prop where
  criteria : countOf whereGap r.template + countOf andWhereGap r.template = 1
  joins : countOf joinsGap r.template ≠ 0
  fields : ∃ fs, resolveFields r.joins = .ok fs

theorem accepted_of_read {entry : Json} {r : Report} (h : Report.read entry = .ok r) :
    r.Accepted := by
  obtain ⟨joins, hjoins, h⟩ := bind_eq_ok_iff.mp h
  refine Checked.Ensures.of_toExcept (P := Accepted) ?_ h
  simp only [Checked.ensures_seq, Checked.ensures_map]
  intro name _ description _ category _ chart _ keys hkeys template htemplate
  obtain ⟨hcriteria, hgaps, -⟩ :=
    checkTemplate_eq_ok_iff.mp (ensures_readTemplate entry template htemplate)
  exact ⟨hcriteria, hgaps, exists_resolveFields (ensures_readJoins hjoins keys hkeys)⟩

/-! ### Filling the gaps -/

/-- A template with its gaps for joins filled. -/
def joined (r : Report) (joins : List Join) : String :=
  substitute joinsGap (joinsText joins) r.template

/-- The number of gaps for criteria. -/
def criteriaGaps (s : String) : Nat := countOf whereGap s + countOf andWhereGap s

/-- The gaps of a report are filled as they should be: none is left, the condition stands in the
place of one of them, and there are as many question marks more as there are values. -/
structure Filled (r : Report) (joins : List Join) (p : Predicate) (text : String) : Prop where
  no_gap : ∀ gap ∈ gaps, countOf gap text = 0
  once : p.condition ≠ none → ∃ before after, ∃ g ∈ [(whereGap, "WHERE"), (andWhereGap, "AND")],
    r.joined joins = before ++ g.1 ++ after ∧ text = before ++ inserted g.2 p ++ after
  marks : text.toList.count '?' = r.template.toList.count '?' + p.params.length

section fill

variable {r : Report} {joins : List Join} {c : Criteria} {search : String} {policy : Policy}

theorem fill_eq (r : Report) (joins : List Join) (p : Predicate) : fill r.template joins p =
    substitute andWhereGap (inserted "AND" p) (substitute whereGap (inserted "WHERE" p)
      (r.joined joins)) := rfl

/-- Filling the gaps for joins neither adds question marks nor takes any away. -/
theorem count_joined (hmark : '?' ∉ (joinsText joins).toList) :
    (r.joined joins).toList.count '?' = r.template.toList.count '?' := by
  rw [joined, count_substitute joinsGap_mem, List.count_eq_zero.mpr hmark, Nat.mul_zero,
    Nat.add_zero]

/-- Joins that are put in leave one gap for criteria and none for joins. -/
theorem Accepted.criteriaGaps_joined (hr : r.Accepted) (hne : joins ≠ [])
    (hbrace : '\x7b' ∉ (joinsText joins).toList) :
    countOf joinsGap (r.joined joins) = 0 ∧ criteriaGaps (r.joined joins) = 1 := by
  have hcount {gap : String} (hgap : gap ∈ gaps) :=
    (fills_joinsText hne hbrace).countOf_substitute joinsGap_mem hgap r.template
  rw [criteriaGaps, joined, hcount joinsGap_mem, hcount whereGap_mem, hcount andWhereGap_mem,
    if_pos rfl, if_neg (by decide), if_neg (by decide)]
  exact ⟨rfl, hr.criteria⟩

/-- Where criteria have a condition, none of their gaps is left, and gaps for joins stay. -/
theorem countOf_fill (h : (c.predicate search policy).condition ≠ none) {gap : String}
    (hgap : gap ∈ gaps) : countOf gap (fill r.template joins (c.predicate search policy)) =
      if gap = joinsGap then countOf joinsGap (r.joined joins) else 0 := by
  have halone : Fills (inserted "WHERE" (c.predicate search policy)) := fills_inserted (by simp) h
  have hbesides : Fills (inserted "AND" (c.predicate search policy)) := fills_inserted (by simp) h
  rw [fill_eq, hbesides.countOf_substitute andWhereGap_mem hgap,
    halone.countOf_substitute whereGap_mem hgap]
  simp only [gaps, List.mem_cons, List.not_mem_nil, or_false] at hgap
  rcases hgap with rfl | rfl | rfl
  · rw [if_neg (by decide), if_neg (by decide), if_pos rfl]
  · rw [if_neg (by decide), if_pos rfl, if_neg (by decide)]
  · rw [if_pos rfl, if_neg (by decide)]

/-- Every gap for criteria brings as many question marks as there are values. -/
theorem count_fill (hmark : '?' ∉ (joinsText joins).toList) (c : Criteria) (search : String)
    (policy : Policy) :
    (fill r.template joins (c.predicate search policy)).toList.count '?' =
      r.template.toList.count '?' +
        criteriaGaps (r.joined joins) * (c.predicate search policy).params.length := by
  rw [fill_eq, count_substitute andWhereGap_mem, count_substitute whereGap_mem,
    count_joined hmark, count_inserted (by decide), count_inserted (by decide), criteriaGaps]
  by_cases h : (c.predicate search policy).condition = none
  · simp [Predicate.params, h]
  · have halone : Fills (inserted "WHERE" (c.predicate search policy)) :=
      fills_inserted (by simp) h
    rw [halone.countOf_substitute whereGap_mem andWhereGap_mem, if_neg (by decide), Nat.add_mul,
      Nat.add_assoc]

/-- The condition of criteria stands in the place of the only gap for it. -/
theorem exists_of_criteriaGaps_eq_one (h : (c.predicate search policy).condition ≠ none)
    (hone : criteriaGaps (r.joined joins) = 1) :
    ∃ before after, ∃ g ∈ [(whereGap, "WHERE"), (andWhereGap, "AND")],
      r.joined joins = before ++ g.1 ++ after ∧ fill r.template joins (c.predicate search policy) =
        before ++ inserted g.2 (c.predicate search policy) ++ after := by
  have halone : Fills (inserted "WHERE" (c.predicate search policy)) := fills_inserted (by simp) h
  rw [criteriaGaps] at hone
  rw [fill_eq]
  rcases Nat.eq_zero_or_pos (countOf whereGap (r.joined joins)) with hwhere | hwhere
  · obtain ⟨before, after, hjoined, hreplaced⟩ := exists_of_countOf_eq_one andWhereGap_mem
      (s := r.joined joins) (by omega)
    refine ⟨before, after, (andWhereGap, "AND"), by simp, hjoined, ?_⟩
    rw [substitute_of_countOf_eq_zero whereGap_mem hwhere, hreplaced]
  · obtain ⟨before, after, hjoined, hreplaced⟩ := exists_of_countOf_eq_one whereGap_mem
      (s := r.joined joins) (by omega)
    refine ⟨before, after, (whereGap, "WHERE"), by simp, hjoined, ?_⟩
    have hbesides := halone.countOf_substitute whereGap_mem andWhereGap_mem (r.joined joins)
    rw [if_neg (by decide)] at hbesides
    rw [substitute_of_countOf_eq_zero andWhereGap_mem (by omega), hreplaced]

/-- Criteria with a condition fill the gaps of a report as they should if and only if the joins
leave one gap for criteria and none for joins. -/
theorem filled_iff (hmark : '?' ∉ (joinsText joins).toList)
    (h : (c.predicate search policy).condition ≠ none) :
    r.Filled joins (c.predicate search policy)
        (fill r.template joins (c.predicate search policy)) ↔
      countOf joinsGap (r.joined joins) = 0 ∧ criteriaGaps (r.joined joins) = 1 := by
  constructor
  · intro hfilled
    have hjoins := hfilled.no_gap joinsGap joinsGap_mem
    rw [countOf_fill h joinsGap_mem, if_pos rfl] at hjoins
    refine ⟨hjoins, ?_⟩
    obtain ⟨before, after, g, hg, hjoined, htext⟩ := hfilled.once h
    have hfills : Fills (inserted g.2 (c.predicate search policy)) :=
      fills_inserted (by
        rcases List.mem_pair.mp hg with rfl | rfl <;> simp) h
    -- no gap stands around the condition, so there is no other one than that which it was put in
    have haround {gap : String} (hgap : gap ∈ gaps) :
        countOf gap before = 0 ∧ countOf gap after = 0 := by
      have hcount := countOf_around hgap (hfills.adds hgap) before after
      rw [← htext, hfilled.no_gap gap hgap] at hcount
      omega
    obtain ⟨hwhere, hwhere'⟩ := haround whereGap_mem
    obtain ⟨hand, hand'⟩ := haround andWhereGap_mem
    have hgap : g.1 ∈ gaps := by
      rcases List.mem_pair.mp hg with rfl | rfl
      · exact whereGap_mem
      · exact andWhereGap_mem
    rw [criteriaGaps, hjoined, countOf_around whereGap_mem (adds_gap whereGap_mem hgap),
      countOf_around andWhereGap_mem (adds_gap andWhereGap_mem hgap), hwhere, hwhere', hand, hand']
    rcases List.mem_pair.mp hg with rfl | rfl <;> decide
  · rintro ⟨hjoins, hone⟩
    refine ⟨fun gap hgap => ?_, fun _ => exists_of_criteriaGaps_eq_one h hone, ?_⟩
    · rw [countOf_fill h hgap, hjoins, ite_self]
    · rw [count_fill hmark, hone, Nat.one_mul]

/-- Criteria without a condition fill the gaps as they should if none is left. -/
theorem filled_iff_of_none (hmark : '?' ∉ (joinsText joins).toList)
    (h : (c.predicate search policy).condition = none) :
    r.Filled joins (c.predicate search policy)
        (fill r.template joins (c.predicate search policy)) ↔
      ∀ gap ∈ gaps, countOf gap (fill r.template joins (c.predicate search policy)) = 0 := by
  refine ⟨fun hfilled => hfilled.no_gap, fun hgaps => ⟨hgaps, fun hne => absurd h hne, ?_⟩⟩
  rw [count_fill hmark]
  simp [Predicate.params, h]

/-! ### Templates without other braces -/

/-- Pieces of a template each of which is a gap or has no brace. -/
def Pieces (pieces : List String) : Prop := ∀ s ∈ pieces, s ∈ gaps ∨ '\x7b' ∉ s.toList

/-- Gaps of such a template are filled piece by piece. -/
theorem substitute_join {pieces : List String} (hpieces : Pieces pieces) {gap : String}
    (hgap : gap ∈ gaps) (text : String) : substitute gap text (String.join pieces) =
      String.join (pieces.map fun s => if s = gap then text else s) := by
  refine Turns.substitute_eq (.join ?_)
  refine List.forall₂_map_right_iff.mpr (List.forall₂_same.mpr fun s hs => ?_)
  split
  · next h =>
    subst h
    exact .part_self (fun he => gap_ne_nil hgap (by rw [he]; rfl)) text
  · next h =>
    refine .of_behind? fun d ds t hsuffix => ?_
    rcases hpieces s hs with hs | hs
    · exact behind?_gap hgap hs h hsuffix t
    · exact behind?_no_gap hgap hs hsuffix t

theorem Pieces.map {pieces : List String} (h : Pieces pieces) {text : String}
    (htext : '\x7b' ∉ text.toList) (gap : String) :
    Pieces (pieces.map fun s => if s = gap then text else s) := by
  intro s hs
  obtain ⟨t, ht, rfl⟩ := List.mem_map.mp hs
  split
  · exact Or.inr htext
  · exact h t ht

/-- The gaps of such a template are counted piece by piece. -/
theorem countOf_join {pieces : List String} (h : Pieces pieces) {gap : String}
    (hgap : gap ∈ gaps) : countOf gap (String.join pieces) = pieces.count gap := by
  rw [countOf_eq]
  induction pieces with
  | nil => simp [occurrences_nil]
  | cons s rest ih =>
    obtain ⟨hs, hrest⟩ := List.forall_mem_cons.mp h
    rw [String.join_cons, String.toList_append, List.count_cons]
    rcases hs with hs | hs
    · rw [occurrences_gap hgap hs, ih hrest, Nat.add_comm]
      simp only [beq_iff_eq]
    · have hne : (s == gap) = false := by
        rw [beq_eq_false_iff_ne]
        rintro rfl
        obtain ⟨t, ht, -⟩ := gap_brace hgap
        exact hs (ht ▸ List.mem_cons_self)
      rw [occurrences_no_gap hgap hs, ih hrest, hne]
      rfl

/-- Filling the gaps of such a template takes them away and no other ones, whatever is put in. -/
theorem Pieces.countOf_substitute {pieces : List String} (h : Pieces pieces) {text : String}
    (htext : '\x7b' ∉ text.toList) {gap other : String} (hgap : gap ∈ gaps)
    (hother : other ∈ gaps) :
    countOf other (substitute gap text (String.join pieces)) =
      if other = gap then 0 else countOf other (String.join pieces) := by
  have hne : text ≠ other := by
    rintro rfl
    obtain ⟨t, ht, -⟩ := gap_brace hother
    exact htext (ht ▸ List.mem_cons_self)
  rw [substitute_join h hgap, countOf_join (h.map htext gap) hother, countOf_join h hother,
    List.count_eq_countP, List.countP_map, List.count_eq_countP]
  split
  · next he =>
    refine List.countP_eq_zero.mpr fun s _ => ?_
    subst he
    simp only [Function.comp_apply, beq_iff_eq]
    split
    · exact hne
    · next hs => exact hs
  · next he =>
    refine List.countP_congr fun s _ => ?_
    simp only [Function.comp_apply, beq_iff_eq]
    split
    · next hs => exact iff_of_false hne fun hso => he (hso.symm.trans hs)
    · exact Iff.rfl

/-- A report whose template has no other brace than those of its gaps has them filled as they
should be. -/
theorem Accepted.filled_of_pieces (hr : r.Accepted) {pieces : List String}
    (hpieces : Pieces pieces) (htemplate : r.template = String.join pieces)
    (hplain : Plain (joinsText joins)) (c : Criteria) (search : String) (policy : Policy) :
    r.Filled joins (c.predicate search policy)
      (fill r.template joins (c.predicate search policy)) := by
  have hjoined (gap : String) (hgap : gap ∈ gaps) : countOf gap (r.joined joins) =
      if gap = joinsGap then 0 else countOf gap r.template := by
    rw [joined, htemplate]
    exact hpieces.countOf_substitute hplain.no_gap joinsGap_mem hgap
  by_cases h : (c.predicate search policy).condition = none
  · refine (filled_iff_of_none hplain.no_mark h).mpr fun gap hgap => ?_
    have hwhere : '\x7b' ∉ (inserted "WHERE" (c.predicate search policy)).toList :=
      inserted_no_gap (by decide) c search policy
    have hand : '\x7b' ∉ (inserted "AND" (c.predicate search policy)).toList :=
      inserted_no_gap (by decide) c search policy
    have hpieces' := hpieces.map hplain.no_gap joinsGap
    have heq : r.joined joins = _ :=
      htemplate ▸ substitute_join hpieces joinsGap_mem (joinsText joins)
    rw [fill_eq, heq, substitute_join hpieces' whereGap_mem,
      (hpieces'.map hwhere whereGap).countOf_substitute hand andWhereGap_mem hgap,
      ← substitute_join hpieces' whereGap_mem,
      hpieces'.countOf_substitute hwhere whereGap_mem hgap, ← heq, hjoined gap hgap]
    simp only [gaps, List.mem_cons, List.not_mem_nil, or_false] at hgap
    rcases hgap with rfl | rfl | rfl
    · rw [if_neg (by decide), if_neg (by decide), if_pos rfl]
    · rw [if_neg (by decide), if_pos rfl]
    · rw [if_pos rfl]
  · refine (filled_iff hplain.no_mark h).mpr ⟨?_, ?_⟩
    · rw [hjoined _ joinsGap_mem, if_pos rfl]
    · rw [criteriaGaps, hjoined _ whereGap_mem, hjoined _ andWhereGap_mem, if_neg (by decide),
        if_neg (by decide)]
      exact hr.criteria

end fill

/-! ### The statement of a report -/

theorem render_eq_ok {r : Report} {c : Criteria} (hc : c.Filterable) {joins : List Join}
    (hjoins : r.joinsUnder (c.predicate "" .any) = .ok joins) :
    r.render c =
      .ok (fill r.template joins (c.predicate "" .any), (c.predicate "" .any).params) := by
  rw [render, show predicate c = _ from Predicate.compile_eq_ok hc "" .any]
  simp only [textUnder, hjoins, Except.map]

/-- The statement of a report that was accepted, under criteria by which postings can be filtered.
It has the question marks of its template, and those of the condition for each gap that the joins
leave for it. If there is a condition, the gaps are filled as they should be if and only if the
joins leave one gap for it and none for joins; if there is none, they are if and only if no gap is
left. The first holds if joins are put in, and both hold for a template without other braces than
those of its gaps. -/
theorem render_fills_gaps_iff {entry : Json} {r : Report} (hr : Report.read entry = .ok r)
    {c : Criteria} (hc : c.Filterable) : ∃ p joins text, Report.predicate c = .ok p ∧
      r.joinsUnder p = .ok joins ∧ r.render c = .ok (text, p.params) ∧
      text.toList.count '?' =
        r.template.toList.count '?' + criteriaGaps (r.joined joins) * p.params.length ∧
      (p.condition ≠ none → (r.Filled joins p text ↔
        countOf joinsGap (r.joined joins) = 0 ∧ criteriaGaps (r.joined joins) = 1)) ∧
      (p.condition = none → (r.Filled joins p text ↔ ∀ gap ∈ gaps,
        countOf gap (substitute andWhereGap "" (substitute whereGap "" (r.joined joins))) = 0)) ∧
      (joins ≠ [] → countOf joinsGap (r.joined joins) = 0 ∧ criteriaGaps (r.joined joins) = 1) ∧
      ∀ pieces, Pieces pieces → r.template = String.join pieces → r.Filled joins p text := by
  have haccepted := accepted_of_read hr
  have hp : Report.predicate c = .ok (c.predicate "" .any) := Predicate.compile_eq_ok hc "" .any
  obtain ⟨fs, hfs⟩ := haccepted.fields
  have hjoins : r.joinsUnder (c.predicate "" .any) =
      .ok (joinsWith (lookupJoins fs) (c.predicate "" .any)) := by
    rw [joinsUnder, lookupJoinsOf, hfs]
    rfl
  have hplain := plain_joinsWith fs (c.predicate "" .any)
  refine ⟨_, _, _, hp, hjoins, render_eq_ok hc hjoins, count_fill hplain.no_mark c "" .any,
    filled_iff hplain.no_mark, fun hnone => ?_,
    fun hne => haccepted.criteriaGaps_joined hne hplain.no_gap,
    fun pieces hpieces htemplate => haccepted.filled_of_pieces hpieces htemplate hplain c "" .any⟩
  have hinserted (word : String) : inserted word (c.predicate "" .any) = "" := by
    rw [inserted, hnone]
  have hiff := filled_iff_of_none (r := r) hplain.no_mark hnone
  rwa [fill_eq, hinserted, hinserted] at hiff ⊢

/-- A report of which no more is given than its name and its template. -/
theorem read_template (name : String) {template : String}
    (h : checkTemplate template = .ok template) :
    Report.read (.object [("name", .text name), ("sql", .text template)]) =
      .ok ⟨name, "", "general", "bar", [], template⟩ := by
  have hrequired : Checked.required readTemplate "sql"
      (.object [("name", .text name), ("sql", .text template)]) = .valid template := by
    change Checked.ofExcept ["sql"] (readTemplate (.text template)) = _
    rw [show readTemplate (.text template) = .ok template from h]
    rfl
  rw [Report.read, hrequired]
  rfl

/-- A template without other braces than those of its gaps. -/
theorem render_fills_gaps_of_sample : ∃ r p joins text,
    Report.read (.object [("name", .text "r"),
      ("sql", .text "SELECT 1 \x7bjoins\x7d\n\x7bwhere\x7d")]) = .ok r ∧
    Criteria.sample.Filterable ∧ Report.predicate .sample = .ok p ∧ r.joinsUnder p = .ok joins ∧
    r.render .sample = .ok (text, p.params) ∧ r.Filled joins p text := by
  have hread : Report.read (.object [("name", .text "r"),
      ("sql", .text "SELECT 1 \x7bjoins\x7d\n\x7bwhere\x7d")]) = _ :=
    read_template "r" (checkTemplate_eq_ok_iff.mpr (by decide +kernel))
  obtain ⟨p, joins, text, hp, hjoins, hrender, -, -, -, -, hpieces⟩ :=
    render_fills_gaps_iff hread Criteria.filterable_sample
  refine ⟨_, p, joins, text, hread, Criteria.filterable_sample, hp, hjoins, hrender, ?_⟩
  refine hpieces ["SELECT 1 ", joinsGap, "\n", whereGap] ?_ (by decide +kernel)
  unfold Pieces
  decide

/-- Filling the gaps one after the other may form a gap. Taking out a gap for joins forms a second
gap for the condition, which is put in twice with its values once; and taking out the gap for the
condition, if there is none, forms a gap for joins that stays. -/
theorem gap_formed_while_filling :
    (∃ r text, Report.read (.object [("name", .text "r"),
        ("sql", .text "\x7bjoins\x7d\x7bwhere\x7d\x7bwh\x7bjoins\x7dere\x7d")]) = .ok r ∧
      r.render ⟨[("hard_skills", ["Java"])], fun _ => none⟩ =
        .ok (text, [.text "Java", .int 1]) ∧
      r.template.toList.count '?' = 0 ∧ text.toList.count '?' = 4) ∧
    ∃ r text, Report.read (.object [("name", .text "r"),
        ("sql", .text "SELECT 1 \x7bjoins\x7d\x7bjo\x7bwhere\x7dins\x7d")]) = .ok r ∧
      r.render .empty = .ok (text, []) ∧ countOf joinsGap text = 1 := by
  have hread (template : String) (h : checkTemplate template = .ok template) :=
    read_template "r" h
  constructor
  · have hc : Criteria.Filterable ⟨[("hard_skills", ["Java"])], fun _ => none⟩ := by
      intro key hkey
      obtain rfl : key = "hard_skills" := by simpa [Criteria.activeFields] using hkey
      exact ⟨_, rfl⟩
    have hmark : '?' ∉ (joinsText []).toList := by decide
    have hcount := count_fill (r := ⟨"r", "", "general", "bar", [],
      "\x7bjoins\x7d\x7bwhere\x7d\x7bwh\x7bjoins\x7dere\x7d"⟩) hmark
      ⟨[("hard_skills", ["Java"])], fun _ => none⟩ "" .any
    have hgaps : criteriaGaps (joined ⟨"r", "", "general", "bar", [],
      "\x7bjoins\x7d\x7bwhere\x7d\x7bwh\x7bjoins\x7dere\x7d"⟩ []) = 2 := by decide +kernel
    have hparams : (Criteria.predicate ⟨[("hard_skills", ["Java"])], fun _ => none⟩ ""
        .any).params = [.text "Java", .int 1] := by decide +kernel
    rw [hgaps, hparams] at hcount
    refine ⟨_, _, hread _ (checkTemplate_eq_ok_iff.mpr (by decide +kernel)), ?_, by decide, hcount⟩
    rw [← hparams]
    exact render_eq_ok hc (by decide +kernel)
  · exact ⟨_, "SELECT 1 \x7bjoins\x7d", hread _ (checkTemplate_eq_ok_iff.mpr (by decide +kernel)),
      by decide +kernel, by decide +kernel⟩

end Report

end JobSearch
