import JobSearch.Proofs.Matching.Predicate
import JobSearch.Proofs.Statement.Names

/-!
# Criteria with their values in place

How the condition compiled from criteria, search text and policy reads once its values stand in
the places of its question marks (`Criteria.written`): the labels selected in a field are compared
with its labels one after the other, those of a field with several are followed by their number,
each bound is compared with its own column, and the search text stands at each searched column.
This is read off the criteria alone. The compiled predicate, whose text and values are collected
apart, reads just so (`reads_predicate`).

## Main definitions

* `Criteria.chosen` — the fields with a selected label, in catalog order.
* `Field.written`, `Criteria.rangeWritten`, `searchWritten` — the conditions, one by one.
* `Criteria.written` — all of them.
-/

namespace JobSearch

open Query

/-! ### The conditions -/

/-- A column compared with a value. -/
def compared (c : Column) (sign : String) (v : Cell) : List Token :=
  words (c.text ++ sign) ++ [.value v]

/-- Text matched with a pattern. -/
def liked (subject : String) (pattern : Cell) : List Token :=
  words (subject ++ " LIKE ") ++ [.value pattern] ++ words " ESCAPE '\\'"

/-- A condition in parentheses. -/
def parenthesized (w : List Token) : List Token := words "(" ++ w ++ words ")"

/-- Several conditions in a row, in parentheses unless there is only one. -/
def enclosed (separator : String) : List (List Token) → List Token
  | [single] => single
  | several => parenthesized (listed separator several)

/-- An inner statement that looks for the owners of some values: the values, then their number. -/
def Query.Carriers.writtenFor (c : Carriers) (values : List Cell) : List Token :=
  words ("SELECT " ++ c.owner.text ++ " " ++ " ".intercalate c.source.parts ++ " WHERE " ++
      c.label.text ++ " IN (") ++
    listed ", " (values.map fun v => [.value v]) ++
    words (")" ++ " GROUP BY " ++ c.owner.text ++ " HAVING COUNT(DISTINCT " ++ c.label.text ++
      ") = ") ++
    [.value (.int values.length)]

/-- The condition on a field: its label is one of the selected ones, or a posting has as many of
the selected ones as there are. -/
def Field.written (f : Field) (labels : List String) : List Token :=
  if f.isMultiValued then
    words (postingId.text ++ " IN (") ++ (f.carriers []).writtenFor (labels.map .text) ++ words ")"
  else
    parenthesized (listed " OR " (labels.map fun l => compared f.labelColumn " = " (.text l)))

/-- A bound compared with the column of its quantity. -/
def boundWritten (b : Bound) (x : Float) : List Token :=
  compared ⟨postingQualifier, b.column⟩ (if b.isLower then " >= " else " <= ") (.real x)

/-- The bounds on a quantity, in parentheses if there are two. -/
def Criteria.rangeWritten (c : Criteria) (q : Quantity) : List Token :=
  enclosed " AND " ((c.setBounds.filter fun p => p.1.quantity = q).map fun p =>
    boundWritten p.1 p.2)

/-- The condition on search text: one of the searched columns contains it. -/
def searchWritten (text : String) : List Token :=
  parenthesized (listed " OR " (Predicate.searchedColumns.map fun c =>
    liked c.text (.text (Text.containing text))))

/-! ### All conditions -/

/-- The fields with a selected label, in catalog order. -/
def Criteria.chosen (c : Criteria) : List Field :=
  Field.all.filter fun f => c.labelsFor f.key ≠ []

/-- The terms of criteria, fields before ranges. -/
def Criteria.termsWritten (c : Criteria) : List (List Token) :=
  c.chosen.map (fun f => f.written (c.labelsFor f.key)) ++ c.ranges.map c.rangeWritten

/-- Terms combined by a policy; alternatives are in parentheses if there are several. -/
def Policy.written : Policy → List (List Token) → List Token
  | .all, ws => listed " AND " ws
  | .any, ws => enclosed " OR " ws

/-- Conditions that must all hold, if there are any. -/
def conjoined : List (List Token) → Option (List Token)
  | [] => none
  | ws => some (listed " AND " ws)

/-- The condition of criteria, search text and policy, if there is one. -/
def Criteria.written (c : Criteria) (search : String) (policy : Policy) : Option (List Token) :=
  conjoined ((if c.termsWritten = [] then [] else [policy.written c.termsWritten]) ++
    if Text.trim search = "" then [] else [searchWritten (Text.trim search)])

/-! ### The selected fields -/

/-- What is made of the elements that pass a test is made of all elements, of the others
nothing. -/
theorem map_filter_eq_flatMap {α β : Type} (as : List α) (p : α → Bool) (g : α → β) :
    (as.filter p).map g = as.flatMap fun a => if p a then [g a] else [] := by
  induction as with
  | nil => rfl
  | cons a rest ih => cases h : p a <;> simp [h, ih]

namespace Criteria

variable {c : Criteria}

/-- What is made of the selections in catalog order is made of the fields with a selected label,
if it is nothing for a field without one. -/
theorem flatMap_inCatalogOrder {β : Type} (c : Criteria) {g : Field → List String → List β}
    (hg : ∀ f, g f [] = []) :
    (Predicate.inCatalogOrder c.active none).flatMap (fun p => g p.1 p.2) =
      c.chosen.flatMap fun f => g f (c.labelsFor f.key) := by
  have hall : Field.all.filter (fun f => (none : Option Field) ≠ some f) = Field.all := by simp
  rw [Predicate.inCatalogOrder, hall, chosen]
  induction Field.all with
  | nil => rfl
  | cons f rest ih =>
    rw [List.filterMap_cons, find?_active, List.filter_cons, labelsFor]
    cases h : Ordered.find? f.key c.selections with
    | none => simpa using ih
    | some labels =>
      cases labels with
      | nil => simpa [hg] using ih
      | cons l ls => simpa [labelsFor, h] using ih

theorem labelsFor_ne_nil (c : Criteria) {f : Field} (hf : f ∈ c.chosen) :
    c.labelsFor f.key ≠ [] := by
  simpa using (List.mem_filter.mp hf).2

/-- The joined fields with a selected label, in catalog order. -/
theorem filtered_inCatalogOrder (c : Criteria) :
    ((Predicate.inCatalogOrder c.active none).filter fun p =>
      !p.1.isMultiValued && !p.2.isEmpty).map (·.1) =
        c.chosen.filter fun f => !f.isMultiValued := by
  rw [map_filter_eq_flatMap, c.flatMap_inCatalogOrder (g := fun f labels =>
    if !f.isMultiValued && !labels.isEmpty then [f] else []) (by simp), ← List.map_id
      (c.chosen.filter _), map_filter_eq_flatMap]
  refine List.flatMap_congr fun f hf => ?_
  simp [c.labelsFor_ne_nil hf]

end Criteria

/-! ### How conditions read -/

/-- With its values put in, a condition reads as given. -/
def Query.Condition.ReadsAs (t : Term) (w : List Token) : Prop := Reads t.text t.params w

/-- A column with a question mark behind a sign reads as compared with the value. -/
theorem reads_compared {c : Column} (hc : Plain c.text) {sign : String} (hs : Plain sign)
    (signed : String) (hsigned : signed = sign ++ "?") (v : Cell) :
    Reads (c.text ++ signed) [v] (compared c sign v) := by
  have h := ((Reads.plain hc).append (Reads.plain hs)).append (Reads.mark v)
  rw [hsigned, ← String.append_assoc, compared, words_append]
  exact h

theorem reads_liked {subject : String} (h : Plain subject) (v : Cell) :
    Reads (Condition.likeText subject) [v] (liked subject v) := by
  have hmark : Reads " LIKE ? ESCAPE '\\'" [v]
      (words " LIKE " ++ [.value v] ++ words " ESCAPE '\\'") :=
    ((Reads.plain (s := " LIKE ") (by simp)).append (.mark v)).append
      (Reads.plain (s := " ESCAPE '\\'") (by simp))
  have hall := (Reads.plain h).append hmark
  rw [List.nil_append, ← List.append_assoc, ← List.append_assoc, ← words_append] at hall
  exact hall

theorem reads_parenthesized {s : String} {vs : List Cell} {w : List Token} (h : Reads s vs w) :
    Reads ("(" ++ s ++ ")") vs (parenthesized w) :=
  Reads.between (by simp) h (by simp)

theorem reads_marks (vs : List Cell) :
    Reads (marks vs.length) vs (listed ", " (vs.map fun v => [.value v])) := by
  have hmarks : ReadsEach (vs.map fun _ => "?") (vs.flatMap fun v => [v])
      (vs.map fun v => [.value v]) := .map fun v _ => Reads.mark v
  simpa [marks] using hmarks.intercalate ", " (by simp)

/-- The labels asked for change nothing else in the inner statement of a field. -/
theorem Field.carriers_eq (f : Field) (labels : List String) :
    f.carriers labels = { f.carriers [] with wanted := labels.map .text } := by
  rw [carriers, carriers]
  split <;> rfl

/-- An inner statement reads as its values and their number. -/
theorem reads_carriers {c : Carriers}
    (hc : Plain c.owner.text ∧ (∀ p ∈ c.source.parts, Plain p) ∧ Plain c.label.text) :
    Reads c.text c.params (c.writtenFor c.wanted) := by
  obtain ⟨howner, hsource, hlabel⟩ := hc
  have hparts : Plain (" ".intercalate c.source.parts) := Plain.intercalate (by simp) hsource
  have hfront : Plain ("SELECT " ++ c.owner.text ++ " " ++ " ".intercalate c.source.parts ++
      " WHERE " ++ c.label.text ++ " IN (") := by
    simp only [plain_append, howner, hparts, hlabel, plain_constants, and_self]
  -- the last question mark stands in one word with the text before it
  have hnumber : Reads ") = ?" [.int c.wanted.length]
      (words ") = " ++ [.value (.int c.wanted.length)]) :=
    (Reads.plain (s := ") = ") (by simp)).append (.mark _)
  have h := ((((((Reads.plain hfront).append (reads_marks c.wanted)).append
    (Reads.plain (s := ")") (by simp))).append (Reads.plain (s := " GROUP BY ") (by simp))).append
    (Reads.plain howner)).append (Reads.plain (s := " HAVING COUNT(DISTINCT ") (by simp))).append
    (Reads.plain hlabel) |>.append hnumber
  simp only [List.append_nil, List.nil_append] at h
  simp only [Carriers.writtenFor, words_append, List.append_assoc] at h ⊢
  exact h

namespace Query.Condition

variable {ts : List Term} {ws : List (List Token)}

/-- Conditions joined two by two, the last ones first, read one after the other with the word that
joins two of them between them. -/
theorem readsAs_several (join : Term → Term → Term) {several? : List Term → Option Term}
    {separator : String}
    (hjoin : ∀ {a b : Term} {w x : List Token}, a.ReadsAs w → b.ReadsAs x →
      (join a b).ReadsAs (w ++ words separator ++ x))
    (hnil : several? [] = none)
    (hcons : ∀ t ts, several? (t :: ts) = some ((several? ts).elim t (join t)))
    (h : List.Forall₂ ReadsAs ts ws) {t : Term} (ht : several? ts = some t) :
    t.ReadsAs (listed separator ws) := by
  induction h generalizing t with
  | nil =>
    rw [hnil] at ht
    cases ht
  | @cons a w rest xs ha hrest ih =>
    obtain rfl := Option.some.inj ((hcons a rest).symm.trans ht)
    cases hrest with
    | nil => simpa [hnil] using ha
    | @cons b x more ys hb hmore =>
      rw [hcons b more] at ih ⊢
      rw [listed_cons (by simp)]
      exact hjoin ha (ih rfl)

theorem readsAs_all? (h : List.Forall₂ ReadsAs ts ws) {t : Term} (ht : all? ts = some t) :
    t.ReadsAs (listed " AND " ws) :=
  readsAs_several .and (.joined " AND " (by simp)) rfl
    (fun t ts => by rw [all?]; cases all? ts <;> rfl) h ht

theorem readsAs_any? (h : List.Forall₂ ReadsAs ts ws) {t : Term} (ht : any? ts = some t) :
    t.ReadsAs (listed " OR " ws) :=
  readsAs_several .or (.joined " OR " (by simp)) rfl
    (fun t ts => by rw [any?]; cases any? ts <;> rfl) h ht

/-- Conditions made of the same things read one by one. -/
theorem readsAs_map {α : Type} {as : List α} {f : α → Term} {g : α → List Token}
    (h : ∀ a ∈ as, (f a).ReadsAs (g a)) : List.Forall₂ ReadsAs (as.map f) (as.map g) := by
  rw [List.forall₂_map_left_iff, List.forall₂_map_right_iff]
  exact List.forall₂_same.mpr h

/-- Several conditions read as the conjunction of all of them, and are none only together. -/
theorem rel_all? (h : List.Forall₂ ReadsAs ts ws) :
    Option.Rel ReadsAs (all? ts) (conjoined ws) := by
  cases h with
  | nil => exact .none
  | @cons t w ts ws ht hrest =>
    obtain ⟨d, hd⟩ := exists_all? (List.cons_ne_nil t ts)
    rw [hd]
    exact .some (readsAs_all? (.cons ht hrest) hd)

theorem readsAs_grouped {t : Term} {w : List Token} (h : t.ReadsAs w) :
    (grouped t).ReadsAs (parenthesized w) := reads_parenthesized h

end Query.Condition

namespace Predicate

/-- The term of a field reads as the selected labels in their places, followed by their number
where the field may have several. -/
theorem reads_fieldTerm (f : Field) {labels : List String} (hne : labels ≠ []) :
    ∃ t, fieldTerm f labels = [t] ∧ t.ReadsAs (f.written labels) := by
  cases hmulti : f.isMultiValued with
  | false =>
    obtain ⟨t, ht⟩ : ∃ t, Condition.any? (labels.map fun l =>
        (Condition.equals f.labelColumn (.text l) : Term)) = some t :=
      Condition.exists_any? (by simpa using hne)
    have hlabels : List.Forall₂ Condition.ReadsAs
        (labels.map fun l => (Condition.equals f.labelColumn (.text l) : Term))
        (labels.map fun l => compared f.labelColumn " = " (.text l)) :=
      Condition.readsAs_map fun l _ =>
        reads_compared f.plain_labelColumn (by simp) " = ?" rfl (.text l)
    refine ⟨.grouped t, by rw [fieldTerm_of_single hmulti, ht]; rfl, ?_⟩
    rw [Field.written, hmulti]
    exact Condition.readsAs_grouped (Condition.readsAs_any? hlabels ht)
  | true =>
    refine ⟨.among postingId (f.carriers labels), fieldTerm_of_several hmulti hne, ?_⟩
    have hinner := reads_carriers (f.plain_carriers labels)
    rw [Field.carriers_eq] at hinner ⊢
    rw [Field.written, hmulti, if_pos rfl]
    have hfront : Plain (postingId.text ++ " IN (") :=
      plain_append.mpr ⟨plain_postingId, by simp⟩
    exact hinner.between hfront (by simp)

/-! ### Bounds and search text -/

theorem reads_boundCondition (b : Bound) (x : Float) :
    (boundCondition b x).ReadsAs (boundWritten b x) := by
  have hcolumn : Plain (Column.mk postingQualifier b.column).text := by simp
  rw [boundCondition, boundWritten]
  cases b.isLower with
  | true => exact reads_compared hcolumn (by simp) " >= ?" rfl _
  | false => exact reads_compared hcolumn (by simp) " <= ?" rfl _

/-- The term of a quantity reads as its bounds, each behind the column it is compared with. -/
theorem reads_quantityTerm {c : Criteria} {q : Quantity} (hq : q ∈ c.ranges) :
    ∃ t, quantityTerm c q = [t] ∧ t.ReadsAs (c.rangeWritten q) := by
  have hne := Criteria.bounds_ne_nil hq
  have hbounds : List.Forall₂ Condition.ReadsAs
      ((c.setBounds.filter fun p => p.1.quantity = q).map fun p => boundCondition p.1 p.2)
      ((c.setBounds.filter fun p => p.1.quantity = q).map fun p => boundWritten p.1 p.2) :=
    Condition.readsAs_map fun p _ => reads_boundCondition p.1 p.2
  rw [quantityTerm, Criteria.rangeWritten]
  generalize c.setBounds.filter (fun p => p.1.quantity = q) = bounds at hne hbounds
  rcases bounds with _ | ⟨b, _ | ⟨b', rest⟩⟩
  · exact absurd rfl hne
  · exact ⟨_, rfl, reads_boundCondition b.1 b.2⟩
  · obtain ⟨t, ht⟩ : ∃ t, Condition.all? ((b :: b' :: rest).map fun p =>
        boundCondition p.1 p.2) = some t := Condition.exists_all? (List.cons_ne_nil _ _)
    refine ⟨.grouped t, ?_, Condition.readsAs_grouped (Condition.readsAs_all? hbounds ht)⟩
    exact congrArg (fun d => (d.map Condition.grouped).toList) ht

/-- The term of search text reads as its pattern at each of the searched columns. -/
theorem reads_searchTerm {text : String} (h : text ≠ "") :
    ∃ t, searchTerm text = [t] ∧ t.ReadsAs (searchWritten text) := by
  obtain ⟨t, ht⟩ : ∃ t, Condition.any? (searchedColumns.map fun c =>
      (Condition.like c (Text.containing text) : Term)) = some t := ⟨_, rfl⟩
  have hcolumns : List.Forall₂ Condition.ReadsAs
      (searchedColumns.map fun c => (Condition.like c (Text.containing text) : Term))
      (searchedColumns.map fun c => liked c.text (.text (Text.containing text))) :=
    Condition.readsAs_map fun c hc => reads_liked (plain_searchedColumns c hc) _
  refine ⟨.grouped t, ?_, Condition.readsAs_grouped (Condition.readsAs_any? hcolumns ht)⟩
  rw [searchTerm, if_neg (by simpa using h), ht]
  rfl

/-! ### The whole predicate -/

/-- Terms combined by a policy, if there are any, read as combined by it. -/
theorem reads_combine {ts : List Term} {ws : List (List Token)}
    (h : List.Forall₂ Condition.ReadsAs ts ws) (policy : Policy) :
    List.Forall₂ Condition.ReadsAs (combine policy ts).toList
      (if ws = [] then [] else [policy.written ws]) := by
  cases policy with
  | all =>
    cases h with
    | nil => exact .nil
    | @cons t w ts ws ht hrest =>
      obtain ⟨d, hd⟩ := Condition.exists_all? (List.cons_ne_nil t ts)
      rw [combine, hd]
      exact .cons (Condition.readsAs_all? (.cons ht hrest) hd) .nil
  | any =>
    rcases h with _ | @⟨t, _, _, _, ht, _ | @⟨u, _, rest, _, hu, hrest⟩⟩
    · exact .nil
    · exact .cons ht .nil
    · obtain ⟨d, hd⟩ := Condition.exists_any? (List.cons_ne_nil t (u :: rest))
      have hall := Condition.readsAs_any? (.cons ht (.cons hu hrest)) hd
      rw [combine, hd]
      · exact .cons (Condition.readsAs_grouped hall) .nil
      · simp

/-- The terms are those of the fields with a selected label and those of the quantities with a
bound. -/
theorem terms_eq (c : Criteria) :
    (inCatalogOrder c.active none).flatMap (fun p => fieldTerm p.1 p.2) ++
        quantityTerm c .salary ++ quantityTerm c .experience =
      c.chosen.flatMap (fun f => fieldTerm f (c.labelsFor f.key)) ++
        c.ranges.flatMap (quantityTerm c) := by
  have hempty : ∀ f : Field, fieldTerm f [] = [] := by
    intro f
    rw [fieldTerm]
    split <;> rfl
  rw [List.append_assoc, quantityTerms_eq, c.flatMap_inCatalogOrder hempty]

/-- The compiled terms read as the terms of the criteria. -/
theorem reads_terms (c : Criteria) :
    List.Forall₂ Condition.ReadsAs
      ((inCatalogOrder c.active none).flatMap (fun p => fieldTerm p.1 p.2) ++
        quantityTerm c .salary ++ quantityTerm c .experience)
      c.termsWritten := by
  rw [terms_eq, Criteria.termsWritten]
  refine List.rel_append ?_ ?_
  · rw [List.forall₂_map_right_iff]
    exact forall₂_flatMap_singleton fun f hf => reads_fieldTerm f (c.labelsFor_ne_nil hf)
  · rw [List.forall₂_map_right_iff]
    exact forall₂_flatMap_singleton fun q hq => reads_quantityTerm hq

/-- The compiled predicate reads as the criteria, the search text and the policy say. -/
theorem reads_predicate (c : Criteria) (search : String) (policy : Policy) :
    Option.Rel Condition.ReadsAs (c.predicate search policy).condition
      (c.written search policy) := by
  have hsearch : List.Forall₂ Condition.ReadsAs (searchTerm (Text.trim search))
      (if Text.trim search = "" then [] else [searchWritten (Text.trim search)]) := by
    split
    · next h => rw [h]; exact .nil
    · next h =>
      obtain ⟨t, ht, hreads⟩ := reads_searchTerm h
      rw [ht]
      exact .cons hreads .nil
  exact Condition.rel_all? (List.rel_append (reads_combine (reads_terms c) policy) hsearch)

end Predicate

end JobSearch
