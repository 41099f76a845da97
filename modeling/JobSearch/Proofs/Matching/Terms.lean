import JobSearch.Proofs.Matching.Basic
import JobSearch.Proofs.Query.Carriers
import Mathlib.Data.List.Forall2

/-!
# What the terms of a predicate say

Each term of criteria is compiled to one condition. A condition *expresses* a property of
postings if it holds of exactly the rows that show a posting with the property, for every row
that shows the fields that the condition looks at. The condition of a field expresses that its
selection admits the posting (`expresses_fieldTerm`), whichever of the three ways its labels are
stored; the bounds on a quantity are one condition (`expresses_quantityTerm`).

## Main definitions

* `Expresses` — a condition says of rows what a property says of postings.
-/

namespace JobSearch

open Query

/-- A condition with answers for its inner statements that holds of the rows that show some
fields of a posting exactly if the posting has a property. -/
structure Expresses (db : Database) (fields : List Field) (t : Term) (P : Row → Prop) : Prop where
  answered : t.Answered db
  holds : ∀ j ∈ db.postings, ∀ r, Shows db fields j r → (t.holdsIn db r = true ↔ P j)

namespace Expresses

variable {db : Database} {fields more : List Field} {t : Term} {P Q : Row → Prop}

theorem mono (h : Expresses db fields t P)
    (hsub : ∀ f ∈ fields, f.entry.shape = .lookup → f ∈ more) : Expresses db more t P :=
  ⟨h.answered, fun j hj r hr => h.holds j hj r (hr.mono hsub)⟩

theorem congr (h : Expresses db fields t P) (hPQ : ∀ j ∈ db.postings, (P j ↔ Q j)) :
    Expresses db fields t Q :=
  ⟨h.answered, fun j hj r hr => (h.holds j hj r hr).trans (hPQ j hj)⟩

theorem grouped (h : Expresses db fields t P) : Expresses db fields (.grouped t) P :=
  ⟨h.answered, h.holds⟩

section several

variable {α : Type} {ts : List Term} {as : List α} {P : α → Row → Prop}

theorem answered_of_forall₂ (h : List.Forall₂ (fun t a => Expresses db fields t (P a)) ts as) :
    ∀ t ∈ ts, t.Answered db := by
  induction h with
  | nil => simp
  | cons ht _ ih => exact List.forall_mem_cons.mpr ⟨ht.answered, ih⟩

/-- Several conditions together express that each of several properties holds. -/
theorem all? (h : List.Forall₂ (fun t a => Expresses db fields t (P a)) ts as) {c : Term}
    (hc : Condition.all? ts = some c) : Expresses db fields c fun j => ∀ a ∈ as, P a j := by
  refine ⟨Condition.answered?_all? (answered_of_forall₂ h) c hc, fun j hj r hr => ?_⟩
  have hall : c.holdsIn db r = ts.all (Condition.holdsIn db r) := by
    rw [← Condition.holdsIn?_all?, hc]
    rfl
  rw [hall]
  clear hc hall
  induction h with
  | nil => simp
  | cons ht _ ih => simp [ht.holds j hj r hr, ih]

/-- One of several conditions expresses that one of several properties holds. -/
theorem any? (h : List.Forall₂ (fun t a => Expresses db fields t (P a)) ts as) {c : Term}
    (hc : Condition.any? ts = some c) : Expresses db fields c fun j => ∃ a ∈ as, P a j := by
  refine ⟨Condition.answered?_any? (answered_of_forall₂ h) c hc, fun j hj r hr => ?_⟩
  rw [Condition.holdsIn_of_any? r hc]
  clear hc
  induction h with
  | nil => simp
  | cons ht _ ih => simp [ht.holds j hj r hr, ih]

end several

end Expresses

/-! ### The terms of criteria -/

namespace Predicate

/-- The term of a field with at most one label: it is one of the selected ones. -/
theorem fieldTerm_of_single {f : Field} (hf : f.isMultiValued = false)
    (selected : List String) : fieldTerm f selected =
      ((Condition.any? (selected.map fun l => .equals f.labelColumn (.text l))).map
        Condition.grouped).toList := by
  rw [fieldTerm, Field.isMultiValued_eq_false_iff.mp hf]

/-- The term of a field that may have several labels: all of the selected ones are carried. -/
theorem fieldTerm_of_several {f : Field} (hf : f.isMultiValued = true)
    {selected : List String} (hne : selected ≠ []) :
    fieldTerm f selected = [.among postingId (f.carriers selected)] := by
  rw [fieldTerm]
  split
  · next h => exact absurd h (Field.isMultiValued_iff.mp hf)
  · rw [if_neg (by simpa using hne)]

end Predicate

/-- A quantity is bounded if one of its bounds is set. -/
theorem Criteria.bounds_ne_nil {c : Criteria} {q : Quantity} (hq : q ∈ c.ranges) :
    (c.setBounds.filter fun p => p.1.quantity = q) ≠ [] := by
  obtain ⟨p, hp, hpq⟩ := List.any_eq_true.mp (List.mem_filter.mp hq).2
  exact List.ne_nil_of_mem (List.mem_filter.mpr ⟨hp, hpq⟩)

/-! ### The condition of a field -/

namespace Database

variable {db : Database}

/-- A condition that compares a label with text expresses that the posting carries it. -/
theorem Conforms.expresses_equals (hdb : db.Conforms) {f : Field} (hf : f.entry.shape = .lookup)
    (l : String) :
    Expresses db [f] (.equals f.labelColumn (.text l)) fun j => db.Carries f j l := by
  refine ⟨fun s hs => by simp [Condition.carriers] at hs, fun j _ r hr => ?_⟩
  rw [Condition.holdsIn, hr.label f (by simp) hf, (hdb.isLabel_label f j).holds_equals, Carries,
    mem_labels_lookup hf hdb]

/-- The condition of a field expresses that its selection admits the posting. -/
theorem Conforms.expresses_fieldTerm (hdb : db.Conforms) (f : Field) {selected : List String}
    (hn : selected.Nodup) (hne : selected ≠ []) :
    ∃ t, Predicate.fieldTerm f selected = [t] ∧
      Expresses db [f] t fun j => db.Admits j f selected := by
  cases hmulti : f.isMultiValued with
  | false =>
    obtain ⟨c, hc⟩ : ∃ c, Condition.any? (selected.map fun l =>
        (Condition.equals f.labelColumn (.text l) : Term)) = some c :=
      Condition.exists_any? (by simpa using hne)
    have hterms : List.Forall₂ (fun t l => Expresses db [f] t fun j => db.Carries f j l)
        (selected.map fun l => (Condition.equals f.labelColumn (.text l) : Term)) selected := by
      rw [List.forall₂_map_left_iff]
      exact List.forall₂_same.mpr fun l _ =>
        hdb.expresses_equals (Field.isMultiValued_eq_false_iff.mp hmulti) l
    refine ⟨.grouped c, ?_, ((Expresses.any? hterms hc).grouped).congr fun j _ => ?_⟩
    · rw [Predicate.fieldTerm_of_single hmulti, hc]
      rfl
    · rw [Admits, hmulti]
      simp
  | true =>
    obtain ⟨owners, hfind, hown⟩ := hdb.find_carriers (Field.isMultiValued_iff.mp hmulti) hn hne
    refine ⟨.among postingId (f.carriers selected), Predicate.fieldTerm_of_several hmulti hne,
      fun s hs => ?_, fun j hj r hr => ?_⟩
    · obtain rfl : s = f.carriers selected := by simpa [Condition.carriers] using hs
      exact ⟨owners, hfind⟩
    · rw [Condition.holdsIn, hfind, postingId]
      simp only
      rw [hr.cell, hown j hj, Admits, hmulti]
      simp

/-! ### The bounds on a quantity -/

theorem expresses_boundCondition (db : Database) (b : Bound) (x : Float) :
    Expresses db [] (Predicate.boundCondition b x) fun j => b.Admits x (j.cell b.column) := by
  refine ⟨fun s hs => ?_, fun j _ r hr => ?_⟩
  · rw [Predicate.boundCondition] at hs
    split at hs <;> simp [Condition.carriers] at hs
  · rw [Predicate.boundCondition, Bound.Admits]
    cases hb : b.isLower with
    | true =>
      simp only [if_true, Condition.holdsIn, hr.cell]
      exact Cell.holds_compare_real _ _ x
    | false =>
      simp only [Bool.false_eq_true, if_false, Condition.holdsIn, hr.cell]
      exact Cell.holds_compare_real _ _ x

/-- The bounds on a quantity are one condition, which expresses that they hold together. -/
theorem expresses_quantityTerm (db : Database) {c : Criteria} {q : Quantity}
    (hq : q ∈ c.ranges) :
    ∃ t, Predicate.quantityTerm c q = [t] ∧
      Expresses db [] t fun j => (ActiveTerm.range q).Holds db c j := by
  have hterms : List.Forall₂ (fun t p => Expresses db [] t fun j =>
      Bound.Admits p.1 p.2 (j.cell p.1.column))
      ((c.setBounds.filter fun p => p.1.quantity = q).map fun p =>
        Predicate.boundCondition p.1 p.2)
      (c.setBounds.filter fun p => p.1.quantity = q) := by
    rw [List.forall₂_map_left_iff]
    exact List.forall₂_same.mpr fun p _ => db.expresses_boundCondition p.1 p.2
  have hne : (c.setBounds.filter fun p => p.1.quantity = q).map (fun p =>
      Predicate.boundCondition p.1 p.2) ≠ [] :=
    fun h => Criteria.bounds_ne_nil hq (List.map_eq_nil_iff.mp h)
  obtain ⟨d, hd⟩ := Condition.exists_all? hne
  have hexp := (Expresses.all? hterms hd).congr (Q := fun j => (ActiveTerm.range q).Holds db c j)
    fun j _ => by simp [ActiveTerm.Holds]
  rw [Predicate.quantityTerm]
  generalize (c.setBounds.filter fun p => p.1.quantity = q).map (fun p =>
    Predicate.boundCondition p.1 p.2) = ts at hd hne
  rcases ts with _ | ⟨t, _ | ⟨u, rest⟩⟩
  · exact absurd rfl hne
  · obtain rfl : t = d := by simpa [Condition.all?] using hd
    exact ⟨t, rfl, hexp⟩
  · refine ⟨.grouped d, ?_, hexp.grouped⟩
    simp only [hd]
    rfl

theorem quantityTerm_of_not_mem {c : Criteria} {q : Quantity} (h : q ∉ c.ranges) :
    Predicate.quantityTerm c q = [] := by
  have hnil : c.setBounds.filter (fun p => p.1.quantity = q) = [] := by
    rw [List.filter_eq_nil_iff]
    intro p hp hpq
    refine h (List.mem_filter.mpr ⟨by cases q <;> simp, List.any_eq_true.mpr ⟨p, hp, hpq⟩⟩)
  rw [Predicate.quantityTerm, hnil]
  rfl

end Database

end JobSearch
