import JobSearch.Proofs.Statement.Accepted
import JobSearch.Proofs.Statement.Expressions
import JobSearch.Proofs.Statement.Written

/-!
# Values in their places

Every statement has as many question marks as values, and each value stands where it belongs: the
values of the condition with the column they are compared with, then the limit and the offset
(`values_in_place`). Apart from its condition and the part of the result that is given, a
statement is made of names of the catalog, which have no question mark in them
(`Statement.IsPlain`), so reading it comes down to reading its condition (`IsPlain.readsAs`).

## Main definitions

* `Statement.front`, `Statement.back` — a statement before and behind its condition.
* `Statement.ReadsAs` — how a statement reads with its values put in.
* `facetsWritten`, `ownedWritten` — the conditions of statements about labels.
-/

namespace JobSearch

open Query

/-! ### Reading a statement -/

namespace Query

/-- The limit and the offset of a statement. -/
def Window.written : Window → List (List Token)
  | .all => []
  | .first limit => [words "LIMIT " ++ [.value (.int limit)]]
  | .slice limit offset =>
    [words "LIMIT " ++ [.value (.int limit)] ++ words " OFFSET " ++ [.value (.int offset)]]

/-- The limit and the offset of a statement as text. -/
def Window.texts : Window → List String
  | .all => []
  | .first _ => ["LIMIT ?"]
  | .slice _ _ => ["LIMIT ? OFFSET ?"]

/-- The values of the limit and the offset. -/
def Window.params : Window → List Cell
  | .all => []
  | .first limit => [.int limit]
  | .slice limit offset => [.int limit, .int offset]

theorem Window.reads (w : Window) : ReadsEach w.texts w.params w.written := by
  have hlimit (limit : Int) :
      Reads "LIMIT ?" [.int limit] (words "LIMIT " ++ [.value (.int limit)]) :=
    (Reads.plain (s := "LIMIT ") (by simp)).append (.mark _)
  have hoffset (offset : Int) :
      Reads " OFFSET ?" [.int offset] (words " OFFSET " ++ [.value (.int offset)]) :=
    (Reads.plain (s := " OFFSET ") (by simp)).append (.mark _)
  cases w with
  | all => exact .nil
  | first limit => exact .single (hlimit limit)
  | slice limit offset =>
    rw [written, List.append_assoc]
    exact .single ((hlimit limit).append (hoffset offset))

namespace Statement

/-- The parts of a statement before its condition. -/
def front (s : Statement) : List String := ("SELECT " ++ outputsText s.outputs) :: s.source.parts

/-- The parts of a statement behind its condition that have no values. -/
def back (s : Statement) : List String :=
  (match s.grouping with
    | .keyed e => ["GROUP BY " ++ e.text]
    | _ => []) ++
  (match s.order with
    | [] => []
    | terms => ["ORDER BY " ++ ", ".intercalate (terms.map SortTerm.text)])

/-- A statement has as many question marks as values and, with its values put in, its condition
and its window read as given. -/
structure ReadsAs (s : Statement) (condition : Option (List Token)) (window : Window) : Prop where
  count_eq : s.text.toList.count '?' = s.params.length
  reads : Reads s.text s.params (listed "\n" (s.front.map words ++
    (condition.map (words "WHERE " ++ ·)).toList ++ s.back.map words ++ window.written))

/-- Only the condition and the window of a statement have question marks. -/
structure IsPlain (s : Statement) : Prop where
  outputs : ∀ o ∈ s.outputs, Plain o.text
  source : ∀ p ∈ s.source.parts, Plain p
  grouping : ∀ e, s.grouping = .keyed e → Plain e.text
  order : ∀ t ∈ s.order, Plain t.text

variable {s : Statement}

theorem IsPlain.front (hs : s.IsPlain) : ∀ p ∈ s.front, Plain p := by
  have houtputs : Plain (outputsText s.outputs) := by
    refine Plain.intercalate (by split <;> simp) fun t ht => ?_
    obtain ⟨o, ho, rfl⟩ := List.mem_map.mp ht
    exact hs.outputs o ho
  exact List.forall_mem_cons.mpr ⟨plain_append.mpr ⟨by simp, houtputs⟩, hs.source⟩

theorem IsPlain.back (hs : s.IsPlain) : ∀ p ∈ s.back, Plain p := by
  have horder : Plain (", ".intercalate (s.order.map SortTerm.text)) := by
    refine Plain.intercalate (by simp) fun t ht => ?_
    obtain ⟨o, ho, rfl⟩ := List.mem_map.mp ht
    exact hs.order o ho
  intro p hp
  rcases List.mem_append.mp hp with hp | hp
  · split at hp
    · next e he =>
      obtain rfl := List.mem_singleton.mp hp
      exact plain_append.mpr ⟨by simp, hs.grouping e he⟩
    · cases hp
  · split at hp
    · cases hp
    · next h =>
      obtain rfl := List.mem_singleton.mp hp
      exact plain_append.mpr ⟨by simp, horder⟩

/-- The parts of a statement are those before its condition, the condition, those behind it and the
window. -/
theorem parts_eq (s : Statement) :
    s.parts = s.front ++ (s.condition.map fun c => "WHERE " ++ c.text).toList ++ s.back ++
      s.window.texts := by
  obtain ⟨_, _, condition, grouping, order, window⟩ := s
  cases condition <;> cases grouping <;> cases order <;> cases window <;>
    simp [parts, front, back, Window.texts]

theorem params_eq (s : Statement) :
    s.params = (s.condition.map Condition.params).getD [] ++ s.window.params := by
  obtain ⟨_, _, condition, _, _, window⟩ := s
  cases condition <;> cases window <;> rfl

/-- A statement reads as its condition does. -/
theorem IsPlain.readsAs (hs : s.IsPlain) {w : Option (List Token)}
    (h : Option.Rel Condition.ReadsAs s.condition w) : s.ReadsAs w s.window := by
  have hcondition : ReadsEach (s.condition.map fun c => "WHERE " ++ c.text).toList
      ((s.condition.map Condition.params).getD []) (w.map (words "WHERE " ++ ·)).toList := by
    generalize s.condition = condition at h
    cases h with
    | none => exact .nil
    | some hc => exact .single ((Reads.plain (s := "WHERE ") (by simp)).append hc)
  have hparts := (((ReadsEach.plain hs.front).append hcondition).append (.plain hs.back)).append
    s.window.reads
  rw [← s.parts_eq, List.nil_append, List.append_nil, ← s.params_eq] at hparts
  have hreads : Reads s.text s.params _ := hparts.intercalate "\n" (by simp)
  exact ⟨hreads.count_eq, hreads⟩

end Statement

end Query

/-! ### The statements of the catalog -/

/-- The names of columns of a result. -/
@[simp] theorem plain_outputNames : Plain "total" ∧ Plain "count" ∧ Plain "label" ∧
    Plain "value" ∧ Plain "entity_id" ∧ Plain rowNumber := by
  repeat' apply And.intro
  all_goals exact .of_eq ⟨_, rfl, by decide⟩

namespace Query.Statement

theorem isPlain_count (p : Predicate) : (count p).IsPlain where
  outputs := by
    rintro o ho
    obtain rfl := List.mem_singleton.mp ho
    exact plain_output (by simp [Expression.columns]) (by simp [Expression.constants])
  source := plain_postingSource _
  grouping := by simp [count]
  order := by simp [count]

theorem isPlain_slice (p : Predicate) (sort : SortChoice) (converted : Bool) (limit offset : Int) :
    (slice p sort converted limit offset).IsPlain where
  outputs := plain_shownColumns converted
  source := plain_postingSource _
  grouping := by simp [slice]
  order := by
    intro t ht
    rcases List.mem_pair.mp ht with rfl | rfl
    · exact plain_sortTerm (plain_sortColumn sort)
    · exact plain_sortTerm plain_postingId

theorem isPlain_posting (id : Int) (converted : Bool) : (posting id converted).IsPlain where
  outputs := plain_shownColumns converted
  source := plain_postingSource _
  grouping := by simp [posting]
  order := by simp [posting]

theorem isPlain_labels (f : Field) {name : String} (hname : Plain name) (others : List Field)
    (condition : Term) (window : Window) : (labels f name others condition window).IsPlain where
  outputs := by
    intro o ho
    rcases List.mem_pair.mp ho with rfl | rfl
    · exact plain_columnOutput f.plain_labelColumn hname
    · exact plain_output (by simpa [Expression.columns] using plain_columnText.mp plain_postingId)
        (by simp [Expression.constants])
  source := plain_labelSource f others
  grouping := by
    intro e he
    obtain rfl := Grouping.keyed.inj he
    exact f.plain_labelColumn
  order := by
    intro t ht
    rcases List.mem_pair.mp ht with rfl | rfl
    · exact plain_sortTerm plain_outputNames.2.1
    · exact plain_sortTerm f.plain_labelColumn

theorem isPlain_attributesOf (f : Field) (ids : List Int) : (attributesOf f ids).IsPlain where
  outputs := by
    intro o ho
    rcases List.mem_pair.mp ho with rfl | rfl
    · exact plain_columnOutput f.plain_ownerSource.1 (by simp)
    · exact plain_columnOutput f.plain_labelColumn (by simp)
  source := f.plain_ownerSource.2.2
  grouping := by simp [attributesOf]
  order := by
    intro t ht
    rcases List.mem_pair.mp ht with rfl | rfl
    · exact plain_sortTerm f.plain_ownerSource.1
    · exact plain_sortTerm (plain_columnText.mpr ⟨f.plain_ownerSource.2.1, by simp⟩)

end Query.Statement

/-! ### The conditions of statements about labels -/

/-- The condition for the labels of a field: there is a label, and the criteria on the other
fields hold. -/
def facetsWritten (f : Field) (others : Option (List Token)) : List Token :=
  words (f.labelColumn.text ++ " IS NOT NULL") ++
    (others.elim [] fun w => words " AND " ++ parenthesized w)

/-- The condition that a column holds one of some numbers. -/
def ownedWritten (column : Column) : List Int → List Token
  | [id] => compared column " = " (.int id)
  | ids => words (column.text ++ " IN (") ++
      listed ", " (ids.map fun id => [.value (.int id)]) ++ words ")"

theorem reads_facetsUnder (f : Field) {p : Predicate} {w : Option (List Token)}
    (h : Option.Rel Condition.ReadsAs p.condition w) :
    Option.Rel Condition.ReadsAs (Statement.facetsUnder f p).condition
      (some (facetsWritten f w)) := by
  have hpresent : (Condition.present f.labelColumn : Term).ReadsAs
      (words (f.labelColumn.text ++ " IS NOT NULL")) :=
    .plain (plain_append.mpr ⟨f.plain_labelColumn, by simp⟩)
  rw [Statement.facetsUnder, Statement.labels, facetsWritten]
  generalize p.condition = condition at h
  cases h with
  | none => exact .some (by simpa using hpresent)
  | some hc =>
    refine .some ?_
    have hall := Reads.joined " AND " (by simp) hpresent
      (Condition.readsAs_grouped hc)
    rw [List.append_assoc] at hall
    exact hall

theorem reads_ownedBy {column : Column} (h : Plain column.text) (ids : List Int) :
    (ownedBy column ids).ReadsAs (ownedWritten column ids) := by
  have hseveral : (Condition.oneOf column (ids.map .int) : Term).ReadsAs
      (words (column.text ++ " IN (") ++ listed ", " (ids.map fun id => [.value (.int id)]) ++
        words ")") := by
    have hmarks := reads_marks (ids.map .int)
    rw [List.map_map] at hmarks
    exact hmarks.between (plain_append.mpr ⟨h, by simp⟩) (by simp)
  rcases ids with _ | ⟨id, _ | ⟨id', rest⟩⟩
  · exact hseveral
  · exact reads_compared h (by simp) " = ?" rfl _
  · exact hseveral

/-! ### All statements -/

namespace Query.Statement

section readsAs

variable (c : Criteria) (search : String) (policy : Policy) (f : Field)

theorem readsAs_count :
    (count (c.predicate search policy)).ReadsAs (c.written search policy) .all :=
  (isPlain_count _).readsAs (Predicate.reads_predicate c search policy)

theorem readsAs_slice (sort : SortChoice) (converted : Bool) (limit offset : Int) :
    (slice (c.predicate search policy) sort converted limit offset).ReadsAs
      (c.written search policy) (.slice limit offset) :=
  (isPlain_slice _ _ _ _ _).readsAs (Predicate.reads_predicate c search policy)

theorem readsAs_facetsUnder :
    (facetsUnder f (c.predicate search policy)).ReadsAs
      (some (facetsWritten f (c.written search policy))) .all :=
  (isPlain_labels f (by simp) _ _ _).readsAs
    (reads_facetsUnder f (Predicate.reads_predicate c search policy))

theorem readsAs_posting (id : Int) (converted : Bool) :
    (posting id converted).ReadsAs (some (compared postingId " = " (.int id))) .all :=
  (isPlain_posting id converted).readsAs
    (.some (reads_compared plain_postingId (by simp) " = ?" rfl _))

theorem readsAs_suggestionsOf (term : String) (limit : Int) :
    (suggestionsOf f term limit).ReadsAs
      (some (liked ("LOWER(" ++ f.labelColumn.text ++ ")")
        (.text (Text.containing (Text.lower term))))) (.first limit) := by
  have hsubject : Plain ("LOWER(" ++ f.labelColumn.text ++ ")") := by
    simp only [plain_append, f.plain_labelColumn, plain_constants, and_self]
  exact (isPlain_labels f (by simp) _ _ _).readsAs (.some (reads_liked hsubject _))

theorem readsAs_attributesOf (ids : List Int) :
    (attributesOf f ids).ReadsAs (some (ownedWritten f.ownerSource.1 ids)) .all :=
  (isPlain_attributesOf f ids).readsAs (.some (reads_ownedBy f.plain_ownerSource.1 ids))

end readsAs

/-- Each statement has as many question marks as values, and with its values put in it reads as
the criteria, the search text and the policy say, without the field that is left out, followed by
its limit and its offset. -/
theorem values_in_place (c : Criteria) (search : String) (policy : Policy) :
    (∀ exclude p, Predicate.compile c search policy exclude = .ok p →
      (count p).ReadsAs ((c.without exclude).written search policy) .all ∧
      ∀ sortKey number size converted s, page p sortKey number size converted = .ok s →
        s.ReadsAs ((c.without exclude).written search policy)
          (.slice size ((number - 1) * size))) ∧
    (∀ key s, facets key c search policy = .ok s → ∃ f, Field.resolve key = .ok f ∧
      s.ReadsAs (some (facetsWritten f ((c.withoutField key).written search policy))) .all) ∧
    (∀ id converted, (posting id converted).ReadsAs (some (compared postingId " = " (.int id)))
      .all) ∧
    (∀ key term limit s, suggestions key term limit = .ok s → ∃ f, Field.resolve key = .ok f ∧
      s.ReadsAs (some (liked ("LOWER(" ++ f.labelColumn.text ++ ")")
        (.text (Text.containing (Text.lower term))))) (.first limit)) ∧
    ∀ key ids s, attributes key ids = .ok s → ∃ f, Field.resolve key = .ok f ∧
      s.ReadsAs (some (ownedWritten f.ownerSource.1 ids)) .all := by
  refine ⟨?_, ?_, readsAs_posting, ?_, ?_⟩
  · intro exclude p hp
    obtain ⟨-, -, rfl⟩ := Predicate.compile_eq_ok_iff.mp hp
    refine ⟨readsAs_count _ search policy, fun sortKey number size converted s hs => ?_⟩
    obtain ⟨-, -, rfl⟩ := page_eq_ok_iff.mp hs
    exact readsAs_slice _ search policy _ converted size _
  · intro key s hs
    obtain ⟨-, f, hf, rfl⟩ := facets_eq_ok_iff.mp hs
    obtain rfl := (Field.resolveFilterable_eq_ok_iff.mp hf).1
    exact ⟨f, f.resolve_key, readsAs_facetsUnder _ search policy f⟩
  · intro key term limit s hs
    obtain ⟨f, hf, rfl⟩ := suggestions_eq_ok_iff.mp hs
    exact ⟨f, hf, readsAs_suggestionsOf f term limit⟩
  · intro key ids s hs
    obtain ⟨f, hf, -, -, rfl⟩ := attributes_eq_ok_iff.mp hs
    exact ⟨f, hf, readsAs_attributesOf f ids⟩

/-- The pages under the sample with search text, and statements about labels. -/
theorem values_in_place_sample :
    (∃ p s, Predicate.compile .sample "50%" .all none = .ok p ∧ page p none 2 20 false = .ok s ∧
      (count p).ReadsAs (Criteria.sample.written "50%" .all) .all ∧
      s.ReadsAs (Criteria.sample.written "50%" .all) (.slice 20 20)) ∧
    (∃ f s, facets "city" .sample "50%" .all = .ok s ∧ Field.resolve "city" = .ok f ∧
      s.ReadsAs (some (facetsWritten f ((Criteria.sample.withoutField "city").written "50%" .all)))
        .all) ∧
    (∃ f s, suggestions "company" "A_b" 5 = .ok s ∧ Field.resolve "company" = .ok f ∧
      s.ReadsAs (some (liked ("LOWER(" ++ f.labelColumn.text ++ ")")
        (.text (Text.containing (Text.lower "A_b"))))) (.first 5)) ∧
    ∃ f s, attributes "hard_skills" [1, 2] = .ok s ∧ Field.resolve "hard_skills" = .ok f ∧
      s.ReadsAs (some (ownedWritten f.ownerSource.1 [1, 2])) .all := by
  obtain ⟨hpages, hfacets, -, hsuggestions, hattributes⟩ := values_in_place .sample "50%" .all
  refine ⟨?_, ?_, ?_, ?_⟩
  · have hp := Predicate.compile_eq_ok Criteria.filterable_sample "50%" .all
    obtain ⟨hcount, hpage⟩ := hpages none _ hp
    obtain ⟨s, hs⟩ : ∃ s, page (Criteria.sample.predicate "50%" .all) none 2 20 false = .ok s :=
      ⟨_, page_eq_ok_iff.mpr ⟨by decide, by decide, rfl⟩⟩
    exact ⟨_, s, hp, hs, hcount, hpage _ _ _ _ _ hs⟩
  · have hcity : Field.resolveFilterable "city" = .ok .city :=
      Field.resolveFilterable_eq_ok_iff.mpr ⟨rfl, rfl⟩
    obtain ⟨s, hs⟩ : ∃ s, facets "city" .sample "50%" .all = .ok s :=
      ⟨_, facets_eq_ok_iff.mpr ⟨Criteria.filterable_sample, _, hcity, rfl⟩⟩
    obtain ⟨f, hf, hreads⟩ := hfacets "city" s hs
    exact ⟨f, s, hs, hf, hreads⟩
  · obtain ⟨s, hs⟩ : ∃ s, suggestions "company" "A_b" 5 = .ok s :=
      ⟨_, suggestions_eq_ok_iff.mpr ⟨_, Field.resolve_key .company, rfl⟩⟩
    obtain ⟨f, hf, hreads⟩ := hsuggestions "company" "A_b" 5 s hs
    exact ⟨f, s, hs, hf, hreads⟩
  · obtain ⟨s, hs⟩ : ∃ s, attributes "hard_skills" [1, 2] = .ok s :=
      ⟨_, attributes_eq_ok_iff.mpr
        ⟨_, Field.resolve_key .hardSkills, rfl, List.cons_ne_nil _ _, rfl⟩⟩
    obtain ⟨f, hf, hreads⟩ := hattributes "hard_skills" [1, 2] s hs
    exact ⟨f, s, hs, hf, hreads⟩

end Query.Statement

end JobSearch
