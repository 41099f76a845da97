import JobSearch.Proofs.Report.Filled
import JobSearch.Proofs.Statement.Accepted
import JobSearch.Proofs.Statement.Comparisons
import JobSearch.Proofs.Statement.Placement

/-!
# Grouping survives in the text

Criteria, search text and policy are compiled to one text. Brackets stand around alternatives and
around two bounds of one quantity, but not around a condition that is alone. The text is grouped as
it should be all the same: its brackets are balanced, no OR stands outside of them, and between its
outer ANDs stand the conditions that must all hold (`Criteria.conjunctsWritten`), each in one piece.
Read with precedence it means what the criteria say (`Criteria.valued`), be it alone, beside another
condition, in the statement for the labels of a field or in a standing report
(`grouping_survives`).

## Main definitions

* `Criteria.valued` — what criteria, search text and policy say.
* `Criteria.conjunctsWritten` — the conditions that must all hold, as text.
* `Query.Says` — a text is one operand with a given meaning.
* `Predicate.Grouped` — what is promised of the text of a predicate.
-/

namespace JobSearch

open Query

/-! ### What criteria say -/

section valued

variable (v : List Lexeme → Truth)

/-- One of the selected labels is the label of a posting; a field with several labels is compared
with all of them at once. -/
def Field.valued (f : Field) (labels : List String) : Truth :=
  if f.isMultiValued then v (lexemes (f.written labels))
  else .any (labels.map fun l => v (lexemes (compared f.labelColumn " = " (.text l))))

/-- All bounds on a quantity hold. -/
def Criteria.rangeValued (c : Criteria) (q : Quantity) : Truth :=
  .all ((c.setBounds.filter fun p => p.1.quantity = q).map fun p =>
    v (lexemes (boundWritten p.1 p.2)))

/-- One of the searched columns contains the text. -/
def searchValued (text : String) : Truth :=
  .any (Predicate.searchedColumns.map fun c =>
    v (lexemes (liked c.text (.text (Text.containing text)))))

/-- What the single terms of criteria say. -/
def Criteria.termsValued (c : Criteria) : List Truth :=
  c.chosen.map (fun f => f.valued v (c.labelsFor f.key)) ++ c.ranges.map (c.rangeValued v)

/-- All terms hold, or one of them. -/
def Policy.valued : Policy → List Truth → Truth
  | .all, ts => .all ts
  | .any, ts => .any ts

/-- The terms hold as the policy says, if there are any, and the search text is found, if there is
one. -/
def Criteria.valued (c : Criteria) (search : String) (policy : Policy) : Truth :=
  .all ((if c.termsWritten = [] then [] else [policy.valued (c.termsValued v)]) ++
    if Text.trim search = "" then [] else [searchValued v (Text.trim search)])

end valued

/-- The conditions that must all hold: the terms one by one, or all of them in brackets as
alternatives, and then the search text. -/
def Criteria.conjunctsWritten (c : Criteria) (search : String) (policy : Policy) :
    List (List Token) :=
  (match policy with
    | .all => c.termsWritten
    | .any => if c.termsWritten = [] then [] else [enclosed " OR " c.termsWritten]) ++
  if Text.trim search = "" then [] else [searchWritten (Text.trim search)]

namespace Query

/-! ### Operands and what they say -/

variable {v : List Lexeme → Truth} {w : List Token} {ws : List (List Token)} {t : Truth}
  {ts : List Truth}

/-- The text is one operand, with a given meaning. -/
structure Says (v : List Lexeme → Truth) (w : List Token) (t : Truth) : Prop where
  operand : Operand (lexemes w)
  meaning_eq : meaning v (lexemes w) = t

theorem Comparison.says_self (h : Comparison (lexemes w)) : Says v w (v (lexemes w)) :=
  ⟨h.toOperand, h.meaning_eq⟩

theorem lexemes_parenthesized (w : List Token) :
    lexemes (parenthesized w) = bracketed (lexemes w) := by
  rw [parenthesized, lexemes_append (.inr (by decide)), lexemes_append (.inl (by decide))]
  rfl

/-- Brackets around a text make it an operand. -/
theorem says_parenthesized (h : depth? 0 (lexemes w) = some 0) :
    Says v (parenthesized w) (meaning v (lexemes w)) := by
  constructor <;> rw [lexemes_parenthesized]
  · exact operand_bracketed h
  · exact meaning_bracketed h

theorem operand_of_forall₂ (h : List.Forall₂ (Says v) ws ts) :
    ∀ xs ∈ ws.map lexemes, Operand xs := by
  induction h with
  | nil => simp
  | cons hw _ ih => exact List.forall_mem_cons.mpr ⟨hw.operand, ih⟩

theorem meanings_of_forall₂ (h : List.Forall₂ (Says v) ws ts) :
    (ws.map lexemes).map (meaning v) = ts := by
  induction h with
  | nil => rfl
  | cons hw _ ih => rw [List.map_cons, List.map_cons, hw.meaning_eq, ih]

theorem depth?_listed_and (h : List.Forall₂ (Says v) ws ts) :
    depth? 0 (lexemes (listed " AND " ws)) = some 0 := by
  rw [lexemes_listed_and]
  exact depth?_conjunction (operand_of_forall₂ h)

theorem depth?_listed_or (h : List.Forall₂ (Says v) ws ts) :
    depth? 0 (lexemes (listed " OR " ws)) = some 0 := by
  rw [lexemes_listed_or]
  exact depth?_disjunction (operand_of_forall₂ h)

theorem meaning_listed_and (h : List.Forall₂ (Says v) ws ts) (hne : ws ≠ []) :
    meaning v (lexemes (listed " AND " ws)) = .all ts := by
  rw [lexemes_listed_and, meaning_all (by simpa using hne) (operand_of_forall₂ h),
    meanings_of_forall₂ h]

theorem meaning_listed_or (h : List.Forall₂ (Says v) ws ts) (hne : ws ≠ []) :
    meaning v (lexemes (listed " OR " ws)) = .any ts := by
  rw [lexemes_listed_or, meaning_any (by simpa using hne) (operand_of_forall₂ h),
    meanings_of_forall₂ h]

theorem says_alternatives (h : List.Forall₂ (Says v) ws ts) (hne : ws ≠ []) :
    Says v (parenthesized (listed " OR " ws)) (.any ts) :=
  meaning_listed_or h hne ▸ says_parenthesized (depth?_listed_or h)

/-- Alternatives are one operand, in brackets unless there is only one. -/
theorem says_enclosed_or (h : List.Forall₂ (Says v) ws ts) (hne : ws ≠ []) :
    Says v (enclosed " OR " ws) (.any ts) := by
  rcases h with _ | @⟨w, t, _, _, hw, _ | ⟨hx, hrest⟩⟩
  · exact absurd rfl hne
  · exact (Truth.any_singleton t).symm ▸ hw
  · exact says_alternatives (.cons hw (.cons hx hrest)) hne

/-- Conditions that hold together are one operand, in brackets unless there is only one. -/
theorem says_enclosed_and (h : List.Forall₂ (Says v) ws ts) (hne : ws ≠ []) :
    Says v (enclosed " AND " ws) (.all ts) := by
  rcases h with _ | @⟨w, t, _, _, hw, _ | ⟨hx, hrest⟩⟩
  · exact absurd rfl hne
  · exact (Truth.all_singleton t).symm ▸ hw
  · have hall : List.Forall₂ (Says v) _ _ := .cons hw (.cons hx hrest)
    exact meaning_listed_and hall hne ▸ says_parenthesized (depth?_listed_and hall)

/-- Operands made of the same things say what they say one by one. -/
theorem says_map {α : Type} {as : List α} {f : α → List Token} {g : α → Truth}
    (h : ∀ a ∈ as, Says v (f a) (g a)) : List.Forall₂ (Says v) (as.map f) (as.map g) := by
  rw [List.forall₂_map_left_iff, List.forall₂_map_right_iff]
  exact List.forall₂_same.mpr h

end Query

/-! ### The conditions of criteria -/

section conditions

variable {v : List Lexeme → Truth} {c : Criteria}

theorem Field.says_written (f : Field) {labels : List String} (hne : labels ≠ []) :
    Says v (f.written labels) (f.valued v labels) := by
  cases hmulti : f.isMultiValued with
  | true =>
    have hcomparison : Comparison (lexemes (f.written labels)) := by
      rw [Field.written, if_pos hmulti]
      exact comparison_among isNamed_postingId (depth?_writtenFor f _)
    rw [Field.valued, if_pos hmulti]
    exact hcomparison.says_self
  | false =>
    rw [Field.written, Field.valued, hmulti]
    refine says_alternatives (says_map fun l _ => ?_) (by simpa using hne)
    have hequal : Operand (lexemes (words " = ")) :=
      operand_nil.cons (x := .sign '=') rfl rfl rfl
    exact (comparison_compared f.isNamed_labelColumn (by decide) (by decide) hequal _).says_self

theorem comparison_boundWritten (b : Bound) (x : Float) :
    Comparison (lexemes (boundWritten b x)) := by
  have hequal : Operand [.sign '='] := operand_nil.cons rfl rfl rfl
  have hgreater : Operand (lexemes (words " >= ")) := hequal.cons (x := .sign '>') rfl rfl rfl
  have hless : Operand (lexemes (words " <= ")) := hequal.cons (x := .sign '<') rfl rfl rfl
  rw [boundWritten]
  cases b.isLower with
  | true => exact comparison_compared (isNamed_boundColumn b) (by decide) (by decide) hgreater _
  | false => exact comparison_compared (isNamed_boundColumn b) (by decide) (by decide) hless _

theorem Criteria.says_rangeWritten {q : Quantity} (hq : q ∈ c.ranges) :
    Says v (c.rangeWritten q) (c.rangeValued v q) :=
  says_enclosed_and (says_map fun p _ => (comparison_boundWritten p.1 p.2).says_self)
    (by simpa using Criteria.bounds_ne_nil hq)

theorem says_searchWritten (text : String) : Says v (searchWritten text) (searchValued v text) :=
  says_alternatives
    (says_map fun d hd => (comparison_liked (isNamed_searchedColumns d hd) _).says_self)
    (by simp [Predicate.searchedColumns, searchColumns])

theorem Criteria.says_termsWritten (c : Criteria) :
    List.Forall₂ (Says v) c.termsWritten (c.termsValued v) :=
  List.rel_append (says_map fun f hf => f.says_written (c.labelsFor_ne_nil hf))
    (says_map fun _ hq => c.says_rangeWritten hq)

/-- The conditions that must all hold are operands, and together they say what the criteria say. -/
theorem Criteria.says_conjunctsWritten (c : Criteria) (search : String) (policy : Policy) :
    ∃ ts, List.Forall₂ (Says v) (c.conjunctsWritten search policy) ts ∧
      .all ts = c.valued v search policy := by
  have hterms := c.says_termsWritten (v := v)
  have hsearch : List.Forall₂ (Says v)
      (if Text.trim search = "" then [] else [searchWritten (Text.trim search)])
      (if Text.trim search = "" then [] else [searchValued v (Text.trim search)]) := by
    split
    · exact .nil
    · exact .cons (says_searchWritten _) .nil
  cases policy with
  | all =>
    refine ⟨_, List.rel_append hterms hsearch, ?_⟩
    rw [Criteria.valued, Truth.all_append, Truth.all_append]
    refine congrArg (Truth.and · _) ?_
    split
    · next hnil =>
      rw [hnil] at hterms
      rw [List.forall₂_nil_left_iff.mp hterms]
    · exact (Truth.all_singleton _).symm
  | any =>
    have hgroup : List.Forall₂ (Says v)
        (if c.termsWritten = [] then [] else [enclosed " OR " c.termsWritten])
        (if c.termsWritten = [] then [] else [.any (c.termsValued v)]) := by
      split
      · exact .nil
      · next hne => exact .cons (says_enclosed_or hterms hne) .nil
    exact ⟨_, List.rel_append hgroup hsearch, rfl⟩

/-- The condition of criteria is the conjunction of the conditions that must all hold. -/
theorem Criteria.written_eq (c : Criteria) (search : String) (policy : Policy) :
    c.written search policy = conjoined (c.conjunctsWritten search policy) := by
  cases policy with
  | any => rfl
  | all =>
    rw [Criteria.written, Criteria.conjunctsWritten]
    by_cases hterms : c.termsWritten = []
    · rw [if_pos hterms, hterms]
    · rw [if_neg hterms, Policy.written, List.singleton_append, conjoined.eq_2 _ (by simp),
        listed_listed hterms, conjoined.eq_2 _ (by simp [hterms])]

end conditions

/-! ### The texts around a predicate -/

/-- The column holds something. -/
def presentValued (v : List Lexeme → Truth) (c : Column) : Truth :=
  v (lexemes (words (c.text ++ " IS NOT NULL")))

/-- What a standing report and the criteria require, as the lines of the report. -/
def StandingReport.whereText (r : StandingReport) (p : Predicate) : String :=
  "\n".intercalate (if r.present.isEmpty then [Report.inserted "WHERE" p]
    else [r.requiredLine, Report.inserted "AND" p])

/-- What standing reports require is in columns whose names are words. -/
theorem StandingReport.isNamed_present {r : StandingReport} (hr : r ∈ all) :
    ∀ c ∈ r.present, c.IsNamed := by
  have hcolumns : ∀ r ∈ all, ∀ c ∈ r.present, c = postingColumn "experience_years" ∨
      c = postingColumn "max_salary" ∨ c = Field.city.labelColumn ∨
      c = Field.company.labelColumn := by decide
  intro c hc
  rcases hcolumns r hr c hc with rfl | rfl | rfl | rfl
  · exact isNamed_posting (.of_eq ⟨_, rfl, by decide⟩)
  · exact isNamed_posting (.of_eq ⟨_, rfl, by decide⟩)
  · exact Field.city.isNamed_labelColumn
  · exact Field.company.isNamed_labelColumn

/-- The lines are those between the joins of a report and its groups. -/
theorem StandingReport.exists_textUnder {r : StandingReport} (hr : r ∈ all) (c : Criteria)
    (search : String) (policy : Policy) :
    ∃ front back, r.report.textUnder (c.predicate search policy) =
      .ok (front ++ r.whereText (c.predicate search policy) ++ "\n" ++ back) := by
  rw [textUnder_report hr, linesWith, whereText]
  refine ⟨String.join ((r.frontLines ++ [joinsText (r.addedJoins (c.predicate search policy))]).map
    (· ++ "\n")), String.join (r.backLines.map (· ++ "\n")), ?_⟩
  rw [List.map_append, String.join_append, List.map_append, String.join_append]
  split <;>
    simp only [List.map_cons, List.map_nil, String.join_cons, String.join_nil,
      String.intercalate_cons_cons, String.intercalate_singleton, String.append_assoc,
      String.append_empty]

/-- In a standing report the condition of the criteria stands in brackets behind those of the
report itself. -/
theorem StandingReport.reads_whereText {r : StandingReport} (hr : r ∈ all) {p : Predicate}
    {t : Term} (hp : p.condition = some t) {w : List Token} (hw : t.ReadsAs w) :
    ∃ x, Reads (r.whereText p) p.params (words "WHERE " ++ x) ∧
      lexemes x = lexemes (listed " AND " (r.present.map (fun c =>
        words (c.text ++ " IS NOT NULL")) ++ [parenthesized w])) := by
  have hparams : p.params = t.params := by
    rw [Predicate.params, hp]
    rfl
  have hinserted : ∀ word, Report.inserted word p = word ++ " (" ++ t.text ++ ")" := fun word => by
    rw [Report.inserted, hp]
  rw [whereText, hparams]
  by_cases hpresent : r.present = []
  · refine ⟨parenthesized w, ?_, by rw [hpresent]; simp⟩
    have hwhere : Plain ("WHERE" ++ " (") :=
      plain_append.mpr ⟨.of_eq ⟨_, rfl, by decide⟩, .of_eq ⟨_, rfl, by decide⟩⟩
    rw [hpresent, List.isEmpty_nil, if_pos rfl, String.intercalate_singleton, hinserted]
    exact Reads.between hwhere hw (by simp)
  · have hwords : r.present.map (fun c => words (c.text ++ " IS NOT NULL")) =
        (r.required.map Condition.text).map words := by
      simp only [required, List.map_map]
      rfl
    have hbefore : Plain (r.requiredLine ++ "\n" ++ ("AND" ++ " (")) :=
      plain_append.mpr ⟨plain_append.mpr ⟨(isPlain hr).requiredLine, by simp⟩,
        plain_append.mpr ⟨.of_eq ⟨_, rfl, by decide⟩, .of_eq ⟨_, rfl, by decide⟩⟩⟩
    refine ⟨words (" AND ".intercalate (r.required.map Condition.text)) ++ words "\nAND " ++
      parenthesized w, ?_, ?_⟩
    · have hafter : Plain ")" := by simp
      have hreads := Reads.between hbefore hw hafter
      rw [if_neg (by simpa using hpresent), String.intercalate_cons_cons,
        String.intercalate_singleton, hinserted]
      simp only [requiredLine, words_append, String.append_assoc, List.append_assoc,
        parenthesized] at hreads ⊢
      exact hreads
    · -- a line break keeps words apart just as a blank does
      have hblank : lexemes (words " AND ") = [.word ['A', 'N', 'D']] := by decide
      have hbreak : lexemes (words "\nAND ") = [.word ['A', 'N', 'D']] := by decide
      rw [lexemes_joined hbreak (by decide) (by decide), words_intercalate, ← hwords,
        ← listed_listed (by simpa using hpresent), listed_cons (by simp), listed_singleton,
        lexemes_joined hblank (by decide) (by decide)]

/-! ### The text of a predicate -/

/-- What is promised of the text of a predicate, given the conditions that must all hold and what
they say together. -/
structure Predicate.Grouped (p : Predicate) (ws : List (List Token))
    (truth : (List Lexeme → Truth) → Truth) : Prop where
  /-- Brackets are balanced. -/
  balanced : depth? 0 (lexemes (words p.text)) = some 0
  /-- No OR stands outside of them. -/
  no_or : ∀ x ∈ outer 0 (lexemes (words p.text)), x.isOr = false
  /-- Without a condition there is no text. -/
  empty : ws = [] → p.text = ""
  /-- Between the outer ANDs stand the conditions, each in one piece. -/
  pieces : ws ≠ [] → p.text = " AND ".intercalate (ws.map rubbed) ∧
    cutAt Lexeme.isAnd 0 (lexemes (words p.text)) = ws.map fun w => lexemes (words (rubbed w))
  /-- With its values put in the text means what the conditions say together, and so it does beside
  any other condition, with brackets around it or without. -/
  beside : ws ≠ [] → ∃ w, Reads p.text p.params w ∧ ∀ v, meaning v (lexemes w) = truth v ∧
    ∀ x, Operand (lexemes x) →
      meaning v (lexemes (x ++ words " AND " ++ w)) = (meaning v (lexemes x)).and (truth v) ∧
      meaning v (lexemes (x ++ words " AND " ++ parenthesized w)) =
        (meaning v (lexemes x)).and (truth v)
  /-- So it does in the statement for the labels of a field. -/
  facets : ∀ f, ∃ t w, (Statement.facetsUnder f p).condition = some t ∧ t.ReadsAs w ∧
    ∀ v, meaning v (lexemes w) = (presentValued v f.labelColumn).and (truth v)
  /-- So it does in the standing reports. -/
  reports : ws ≠ [] → ∀ r ∈ StandingReport.all,
    (∃ front back, r.report.textUnder p = .ok (front ++ r.whereText p ++ "\n" ++ back)) ∧
    ∃ w, Reads (r.whereText p) p.params (words "WHERE " ++ w) ∧
      ∀ v, meaning v (lexemes w) =
        (Truth.all (r.present.map (presentValued v))).and (truth v)

namespace Criteria

variable {v : List Lexeme → Truth} {c : Criteria} {search : String} {policy : Policy}

theorem operand_conjuncts :
    ∀ xs ∈ (c.conjunctsWritten search policy).map lexemes, Operand xs := by
  obtain ⟨ts, hts, -⟩ := c.says_conjunctsWritten (v := fun _ => .yes) search policy
  exact operand_of_forall₂ hts

/-- The conditions that must all hold, with AND between them, mean what the criteria say. -/
theorem meaning_conjuncts (hne : c.conjunctsWritten search policy ≠ []) :
    meaning v (lexemes (listed " AND " (c.conjunctsWritten search policy))) =
      c.valued v search policy := by
  obtain ⟨ts, hts, hall⟩ := c.says_conjunctsWritten (v := v) search policy
  rw [meaning_listed_and hts hne, hall]

/-- And so they do in brackets, as one operand. -/
theorem says_conjuncts (hne : c.conjunctsWritten search policy ≠ []) :
    Says v (parenthesized (listed " AND " (c.conjunctsWritten search policy)))
      (c.valued v search policy) := by
  obtain ⟨ts, hts, -⟩ := c.says_conjunctsWritten (v := v) search policy
  exact meaning_conjuncts hne ▸ says_parenthesized (depth?_listed_and hts)

/-- Beside another condition they hold together with it. -/
theorem meaning_beside (hne : c.conjunctsWritten search policy ≠ []) {x : List Token}
    (hx : Operand (lexemes x)) :
    meaning v (lexemes (x ++ words " AND " ++
        listed " AND " (c.conjunctsWritten search policy))) =
      (meaning v (lexemes x)).and (c.valued v search policy) := by
  obtain ⟨ts, hts, hall⟩ := c.says_conjunctsWritten (v := v) search policy
  rw [← listed_cons hne, meaning_listed_and (.cons ⟨hx, rfl⟩ hts) (by simp), Truth.all_cons, hall]

/-- Behind further conditions they hold in brackets together with these. -/
theorem meaning_behind (hne : c.conjunctsWritten search policy ≠ []) {ws : List (List Token)}
    {ts : List Truth} (h : List.Forall₂ (Says v) ws ts) :
    meaning v (lexemes (listed " AND "
        (ws ++ [parenthesized (listed " AND " (c.conjunctsWritten search policy))]))) =
      (Truth.all ts).and (c.valued v search policy) := by
  have hall := List.rel_append h (.cons (says_conjuncts hne) .nil)
  rw [meaning_listed_and hall (by simp), Truth.all_append, Truth.all_singleton]

/-- Without a condition there is nothing that could fail to hold. -/
theorem valued_eq_yes (hnil : c.conjunctsWritten search policy = []) :
    c.valued v search policy = .yes := by
  obtain ⟨ts, hts, hall⟩ := c.says_conjunctsWritten (v := v) search policy
  rw [hnil] at hts
  rw [← hall, List.forall₂_nil_left_iff.mp hts]
  rfl

/-- In the statement for the labels of a field there is a label, and the criteria hold. -/
theorem meaning_facetsWritten (f : Field) :
    meaning v (lexemes (facetsWritten f (c.written search policy))) =
      (presentValued v f.labelColumn).and (c.valued v search policy) := by
  have hpresent := (comparison_present f.isNamed_labelColumn).says_self (v := v)
  rw [c.written_eq]
  by_cases hnil : c.conjunctsWritten search policy = []
  · rw [hnil, conjoined, facetsWritten, Option.elim_none, List.append_nil, hpresent.meaning_eq,
      valued_eq_yes hnil, Truth.and_yes, presentValued]
  · have hboth := meaning_behind hnil (.cons hpresent .nil)
    rw [List.singleton_append, listed_cons (by simp), listed_singleton, List.append_assoc,
      Truth.all_singleton] at hboth
    rw [conjoined.eq_2 _ hnil]
    exact hboth

/-- The compiled predicate has no condition, or the one in which all conditions stand that must
hold. -/
theorem condition_cases (c : Criteria) (search : String) (policy : Policy) :
    (c.conjunctsWritten search policy = [] ∧ (c.predicate search policy).condition = none) ∨
      c.conjunctsWritten search policy ≠ [] ∧ ∃ t,
        (c.predicate search policy).condition = some t ∧
        t.ReadsAs (listed " AND " (c.conjunctsWritten search policy)) := by
  have hreads := Predicate.reads_predicate c search policy
  rw [c.written_eq] at hreads
  generalize (c.predicate search policy).condition = condition at hreads ⊢
  by_cases hnil : c.conjunctsWritten search policy = []
  · rw [hnil, conjoined] at hreads
    cases hreads
    exact Or.inl ⟨hnil, rfl⟩
  · rw [conjoined.eq_2 _ hnil] at hreads
    cases hreads with
    | some ht => exact Or.inr ⟨hnil, _, rfl, ht⟩

/-- The text has the words of the conditions, with question marks in the places of the values. -/
theorem lexemes_text {t : Term}
    (h : t.ReadsAs (listed " AND " (c.conjunctsWritten search policy))) :
    lexemes (words t.text) =
      (conjunction ((c.conjunctsWritten search policy).map lexemes)).map rub := by
  rw [h.text_eq, lexemes_words_rubbed, lexemes_listed_and]

theorem exists_facets (c : Criteria) (search : String) (policy : Policy) (f : Field) :
    ∃ t w, (Statement.facetsUnder f (c.predicate search policy)).condition = some t ∧
      t.ReadsAs w ∧ ∀ v,
        meaning v (lexemes w) = (presentValued v f.labelColumn).and (c.valued v search policy) := by
  have hreads := reads_facetsUnder f (Predicate.reads_predicate c search policy)
  generalize (Statement.facetsUnder f (c.predicate search policy)).condition = condition at hreads ⊢
  cases hreads with
  | some ht => exact ⟨_, _, rfl, ht, fun v => meaning_facetsWritten f⟩

theorem grouped_predicate (c : Criteria) (search : String) (policy : Policy) :
    (c.predicate search policy).Grouped (c.conjunctsWritten search policy)
      fun v => c.valued v search policy := by
  have hoperands : ∀ xs ∈ (c.conjunctsWritten search policy).map lexemes, Operand xs :=
    operand_conjuncts
  rcases c.condition_cases search policy with ⟨hnil, hcondition⟩ | ⟨hne, t, hcondition, ht⟩
  · have htext : (c.predicate search policy).text = "" := by
      rw [Predicate.text, hcondition]
      rfl
    refine ⟨?_, ?_, fun _ => htext, fun hne => absurd hnil hne, fun hne => absurd hnil hne,
      c.exists_facets search policy, fun hne => absurd hnil hne⟩ <;> rw [htext]
    · rfl
    · exact nofun
  · have htext : (c.predicate search policy).text = t.text := by
      rw [Predicate.text, hcondition]
      rfl
    have hparams : (c.predicate search policy).params = t.params := by
      rw [Predicate.params, hcondition]
      rfl
    refine ⟨?balanced, ?no_or, fun hnil => absurd hnil hne, fun _ => ⟨?text, ?pieces⟩,
      fun _ => ⟨_, htext ▸ hparams ▸ ht, fun v => ⟨meaning_conjuncts hne, fun x hx =>
        ⟨meaning_beside hne hx, ?bracketed⟩⟩⟩, c.exists_facets search policy,
      fun _ r hr => ⟨r.exists_textUnder hr c search policy, ?report⟩⟩
    case balanced =>
      rw [htext, lexemes_text ht, depth?_map_rub]
      exact depth?_conjunction hoperands
    case no_or =>
      rw [htext, lexemes_text ht, outer_map_rub]
      intro x hx
      obtain ⟨y, hy, rfl⟩ := List.mem_map.mp hx
      rw [Lexeme.isOr_rub]
      exact no_or_conjunction hoperands y hy
    case text => rw [htext, ht.text_eq, rubbed_listed]
    case pieces =>
      rw [htext, lexemes_text ht, cutAt_map_rub Lexeme.isAnd_rub,
        cutAt_conjunction (by simpa using hne) hoperands, List.map_map]
      exact List.map_congr_left fun w _ => (lexemes_words_rubbed w).symm
    case bracketed =>
      have hbehind := meaning_behind hne (v := v) (.cons ⟨hx, rfl⟩ .nil)
      rwa [List.singleton_append, listed_cons (by simp), listed_singleton,
        Truth.all_singleton] at hbehind
    case report =>
      obtain ⟨w, hw, hlexemes⟩ := r.reads_whereText hr hcondition ht
      refine ⟨w, hw, fun v => ?_⟩
      rw [hlexemes]
      exact meaning_behind hne
        (says_map fun d hd => (comparison_present (r.isNamed_present hr d hd)).says_self)

end Criteria

/-- The text compiled from criteria, search text and policy, without the field that is left out,
has balanced brackets and no OR outside of them. Cut at its outer ANDs it gives the conditions that
must all hold: if all terms are required those of the chosen fields in catalog order, of the salary
and of the experience, one by one, or else the alternatives as one piece; and then the search text.
So it means what the criteria say, wherever it stands. -/
theorem grouping_survives {c : Criteria} (hc : c.Filterable) {exclude : Option String}
    (hexclude : ∀ key ∈ exclude, ∃ f, Field.resolveFilterable key = .ok f) (search : String)
    (policy : Policy) :
    ∃ p, Predicate.compile c search policy exclude = .ok p ∧
      p.Grouped ((c.without exclude).conjunctsWritten search policy)
        (fun v => (c.without exclude).valued v search policy) ∧
      (policy = .any → ((c.without exclude).conjunctsWritten search policy).length ≤ 2) := by
  refine ⟨_, Predicate.compile_eq_ok_iff.mpr ⟨hc, hexclude, rfl⟩,
    (c.without exclude).grouped_predicate search policy, ?_⟩
  rintro rfl
  rw [Criteria.conjunctsWritten, List.length_append]
  split <;> split <;> simp

/-- The sample with search text: all terms required, and the cities left out under alternatives. -/
theorem grouping_survives_sample :
    (∃ p, Predicate.compile .sample "50%" .all none = .ok p ∧
      p.Grouped (Criteria.sample.conjunctsWritten "50%" .all)
        (fun v => Criteria.sample.valued v "50%" .all) ∧
      (Criteria.sample.conjunctsWritten "50%" .all).length = 3) ∧
    ∃ p, Predicate.compile .sample "50%" .any (some "city") = .ok p ∧
      p.Grouped ((Criteria.sample.withoutField "city").conjunctsWritten "50%" .any)
        (fun v => (Criteria.sample.withoutField "city").valued v "50%" .any) ∧
      ((Criteria.sample.withoutField "city").conjunctsWritten "50%" .any).length = 2 := by
  have hnone : ∀ key ∈ (none : Option String), ∃ f, Field.resolveFilterable key = .ok f := by simp
  have hcity : ∀ key ∈ some "city", ∃ f, Field.resolveFilterable key = .ok f := by
    rintro _ ⟨rfl⟩
    exact ⟨.city, Field.resolveFilterable_eq_ok_iff.mpr ⟨rfl, rfl⟩⟩
  constructor
  · obtain ⟨p, hp, hgrouped, -⟩ := grouping_survives Criteria.filterable_sample hnone "50%" .all
    exact ⟨p, hp, hgrouped, by decide⟩
  · obtain ⟨p, hp, hgrouped, -⟩ := grouping_survives Criteria.filterable_sample hcity "50%" .any
    exact ⟨p, hp, hgrouped, by decide⟩

end JobSearch
