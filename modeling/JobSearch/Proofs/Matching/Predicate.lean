import JobSearch.Proofs.Matching.Terms

/-!
# What a predicate says

The predicate compiled from criteria, search text and policy holds of the rows that show a
matching posting (`Database.Conforms.holdsIn?_predicate`). The terms are compiled in catalog
order and matching does not look at the order of the selections, so the two are compared term by
term up to that order.

## Main definitions

* `Criteria.catalogTerms` — the terms of criteria in catalog order.
* `Criteria.predicate` — the predicate of criteria that postings can be filtered by.
-/

namespace JobSearch

open Query

/-- The terms of criteria in catalog order. -/
def Criteria.catalogTerms (c : Criteria) : List ActiveTerm :=
  (Predicate.inCatalogOrder c.active none).map (fun p => .labels p.1 p.2) ++ c.ranges.map .range

theorem Criteria.mem_catalogTerms {c : Criteria} (hc : c.Normal) (t : ActiveTerm) :
    t ∈ c.catalogTerms ↔ t ∈ c.terms := by
  simp only [catalogTerms, terms, List.mem_append, List.mem_map, Prod.exists,
    Predicate.mem_inCatalogOrder (nodup_active hc)]

/-- The predicate of criteria that postings can be filtered by. -/
def Criteria.predicate (c : Criteria) (search : String) (policy : Policy) : Predicate :=
  Predicate.assemble (Predicate.inCatalogOrder c.active none) c (Text.trim search) policy

theorem Predicate.compile_eq_ok {c : Criteria} (hc : c.Filterable) (search : String)
    (policy : Policy) : compile c search policy none = .ok (c.predicate search policy) := by
  simp only [compile, resolveExcluded, resolveAll_eq_ok hc]
  rfl

/-- The label of a field with a selection is looked at. -/
theorem mem_referenced_of_selected {c : Criteria} {search : String} {policy : Policy}
    {p : Field × List String} (hp : p ∈ Predicate.inCatalogOrder c.active none)
    (hshape : p.1.entry.shape = .lookup) (hne : p.2 ≠ []) :
    p.1 ∈ (c.predicate search policy).referenced := by
  refine List.mem_append_left _ (List.mem_map.mpr ⟨p, List.mem_filter.mpr ⟨hp, ?_⟩, rfl⟩)
  simpa [Field.isMultiValued, hshape] using hne

/-- The labels that are searched are looked at. -/
theorem mem_referenced_of_searched (c : Criteria) {search : String} (policy : Policy)
    (hs : Text.trim search ≠ "") {f : Field} (hf : f ∈ searchFields) :
    f ∈ (c.predicate search policy).referenced := by
  have hne : (Text.trim search).isEmpty = false := by simpa using hs
  simp only [Criteria.predicate, Predicate.assemble, hne, List.mem_append]
  by_cases h : f ∈ ((Predicate.inCatalogOrder c.active none).filter fun p =>
      !p.1.isMultiValued && !p.2.isEmpty).map (·.1)
  · exact Or.inl h
  · exact Or.inr (List.mem_filter.mpr ⟨hf, by simpa using h⟩)

/-- The bounds are compiled quantity by quantity, to nothing for a quantity without a bound. -/
theorem Predicate.quantityTerms_eq (c : Criteria) :
    quantityTerm c .salary ++ quantityTerm c .experience = c.ranges.flatMap (quantityTerm c) := by
  have h : ∀ q, quantityTerm c q =
      if (c.setBounds.any fun p => p.1.quantity = q) = true then quantityTerm c q else [] := by
    intro q
    split
    · rfl
    · next hq => exact Database.quantityTerm_of_not_mem fun hm => hq (List.mem_filter.mp hm).2
  conv_lhs => rw [h .salary, h .experience]
  simp only [Criteria.ranges, List.filter_cons, List.filter_nil]
  split <;> split <;> simp

/-- A relation between the single elements of lists and what they come from. -/
theorem forall₂_flatMap_singleton {α β : Type} {R : β → α → Prop} {g : α → List β} {as : List α}
    (h : ∀ a ∈ as, ∃ b, g a = [b] ∧ R b a) : List.Forall₂ R (as.flatMap g) as := by
  induction as with
  | nil => exact .nil
  | cons a as ih =>
    obtain ⟨b, hb, hr⟩ := h a (by simp)
    rw [List.flatMap_cons, hb]
    exact .cons hr (ih fun a' ha' => h a' (by simp [ha']))

namespace Database

variable {db : Database} {c : Criteria}

/-- Search text that is not blank is one condition, which expresses that the posting mentions
it. -/
theorem Conforms.expresses_searchTerm (hdb : db.Conforms) {search : String} (hs : search ≠ "") :
    ∃ t, Predicate.searchTerm search = [t] ∧
      Expresses db searchFields t fun j => db.Mentions j search := by
  obtain ⟨t, ht⟩ : ∃ t, Condition.any? (Predicate.searchedColumns.map fun c =>
      (Condition.like c (Text.containing search) : Term)) = some t := ⟨_, rfl⟩
  have hlookup : ∀ f ∈ searchFields, f.entry.shape = .lookup := by decide
  refine ⟨.grouped t, ?_, Expresses.grouped ⟨?_, fun j _ r hr => ?_⟩⟩
  · rw [Predicate.searchTerm, if_neg (by simpa using hs), ht]
    rfl
  · refine Condition.answered?_any? (fun d hd s hs' => ?_) t ht
    obtain ⟨_, -, rfl⟩ := List.mem_map.mp hd
    simp [Condition.carriers] at hs'
  · have hlabel : ∀ f ∈ searchFields, (((r.cell f.labelColumn).like (Text.containing search)).holds =
        true ↔ ∃ x ∈ db.labels f j, (x.like (Text.containing search)).holds = true) := by
      intro f hf
      rw [hr.label f hf (hlookup f hf)]
      rcases hdb.labels_lookup (hlookup f hf) j with ⟨hl, hn⟩ | hl
      · simp [hl, hn, Cell.like, Cell.asText?, Cell.isNull, Cell.key, Truth.holds]
      · simp [hl]
    rw [Condition.holdsIn_of_any? r ht, List.any_map, List.any_eq_true, Mentions, searched]
    simp only [Predicate.searchedColumns, List.mem_append, or_and_right, exists_or, List.mem_map,
      List.mem_flatMap, Function.comp, Condition.holdsIn]
    refine or_congr ?_ ?_
    · constructor
      · rintro ⟨_, ⟨name, hname, rfl⟩, h⟩
        exact ⟨_, ⟨name, hname, rfl⟩, hr.cell name ▸ h⟩
      · rintro ⟨_, ⟨name, hname, rfl⟩, h⟩
        exact ⟨_, ⟨name, hname, rfl⟩, (hr.cell name).symm ▸ h⟩
    · constructor
      · rintro ⟨_, ⟨f, hf, rfl⟩, h⟩
        obtain ⟨x, hx, hlike⟩ := (hlabel f hf).mp h
        exact ⟨x, ⟨f, hf, hx⟩, hlike⟩
      · rintro ⟨x, ⟨f, hf, hx⟩, h⟩
        exact ⟨_, ⟨f, hf, rfl⟩, (hlabel f hf).mpr ⟨x, hx, h⟩⟩

/-- The conditions of a predicate express the terms of the criteria in catalog order. -/
theorem Conforms.expresses_catalogTerms (hdb : db.Conforms) (hc : c.Normal) (search : String)
    (policy : Policy) :
    List.Forall₂ (fun t a => Expresses db (c.predicate search policy).referenced t
        fun j => a.Holds db c j)
      ((Predicate.inCatalogOrder c.active none).flatMap (fun p => Predicate.fieldTerm p.1 p.2) ++
        Predicate.quantityTerm c .salary ++ Predicate.quantityTerm c .experience)
      c.catalogTerms := by
  rw [List.append_assoc, Predicate.quantityTerms_eq, Criteria.catalogTerms]
  refine List.rel_append ?_ ?_
  · rw [List.forall₂_map_right_iff]
    refine forall₂_flatMap_singleton fun p hp => ?_
    have hsel := Criteria.mem_active.mp
      ((Predicate.mem_inCatalogOrder (Criteria.nodup_active hc)).mp hp)
    obtain ⟨t, ht, hexp⟩ := hdb.expresses_fieldTerm p.1 (hc.labels_nodup _ hsel)
      (hc.labels_ne_nil _ hsel)
    refine ⟨t, ht, hexp.mono fun f hf hshape => ?_⟩
    obtain rfl : f = p.1 := by simpa using hf
    exact mem_referenced_of_selected hp hshape (hc.labels_ne_nil _ hsel)
  · rw [List.forall₂_map_right_iff]
    refine forall₂_flatMap_singleton fun q hq => ?_
    obtain ⟨t, ht, hexp⟩ := db.expresses_quantityTerm hq
    exact ⟨t, ht, hexp.mono (by simp)⟩

/-- The terms of a predicate, combined by its policy, hold of a row as they do of its posting. -/
theorem holdsIn_combine {fields : List Field} {ts : List Term}
    {as : List ActiveTerm} (has : ∀ a, a ∈ as ↔ a ∈ c.terms)
    (h : List.Forall₂ (fun t a => Expresses db fields t fun j => a.Holds db c j) ts as)
    (policy : Policy) :
    (∀ t ∈ (Predicate.combine policy ts).toList, t.Answered db) ∧
      ∀ j ∈ db.postings, ∀ r, Shows db fields j r →
        ((Predicate.combine policy ts).toList.all (Condition.holdsIn db r) = true ↔
          c.Hold db policy j) := by
  have hnil : ts = [] ↔ c.terms = [] := by
    rw [← List.length_eq_zero_iff, h.length_eq, List.length_eq_zero_iff,
      List.eq_nil_iff_forall_not_mem, List.eq_nil_iff_forall_not_mem]
    simp only [has]
  by_cases hts : ts = []
  · have hnone : Predicate.combine policy ts = none := by
      subst hts
      cases policy <;> rfl
    rw [hnone]
    exact ⟨by simp, fun j _ r _ => by simp [Criteria.Hold, hnil.mp hts]⟩
  · have hterms : c.terms ≠ [] := fun he => hts (hnil.mpr he)
    suffices hsome : ∃ d, Predicate.combine policy ts = some d ∧
        Expresses db fields d fun j => c.Hold db policy j by
      obtain ⟨d, hd, hexp⟩ := hsome
      rw [hd]
      exact ⟨by simpa using hexp.answered, fun j hj r hr => by simpa using hexp.holds j hj r hr⟩
    cases policy with
    | all =>
      obtain ⟨d, hd⟩ := Condition.exists_all? hts
      refine ⟨d, hd, (Expresses.all? h hd).congr fun j _ => ?_⟩
      simp [Criteria.Hold, hterms, has]
    | any =>
      obtain ⟨d, hd⟩ := Condition.exists_any? hts
      have hexp := (Expresses.any? h hd).congr (Q := fun j => c.Hold db .any j)
        fun j _ => by simp [Criteria.Hold, hterms, has]
      rcases ts with _ | ⟨t, _ | ⟨u, rest⟩⟩
      · exact absurd rfl hts
      · obtain rfl : t = d := by simpa [Condition.any?] using hd
        exact ⟨t, rfl, hexp⟩
      · exact ⟨.grouped d, congrArg (Option.map Condition.grouped) hd, hexp.grouped⟩

/-- The predicate of criteria has answers for its inner statements, and holds of the rows that
show a matching posting. -/
theorem Conforms.holdsIn?_predicate (hdb : db.Conforms) (hc : c.Normal) (search : String)
    (policy : Policy) :
    Condition.Answered? db (c.predicate search policy).condition ∧
      ∀ j ∈ db.postings, ∀ r, Shows db (c.predicate search policy).referenced j r →
        (Condition.holdsIn? db r (c.predicate search policy).condition = true ↔
          db.Matches c search policy j) := by
  obtain ⟨hanswered, hholds⟩ := holdsIn_combine (c.mem_catalogTerms hc)
    (hdb.expresses_catalogTerms hc search policy) policy
  have hsearch : (∀ t ∈ Predicate.searchTerm (Text.trim search), t.Answered db) ∧
      ∀ j ∈ db.postings, ∀ r, Shows db (c.predicate search policy).referenced j r →
        ((Predicate.searchTerm (Text.trim search)).all (Condition.holdsIn db r) = true ↔
          Text.trim search = "" ∨ db.Mentions j (Text.trim search)) := by
    by_cases hs : Text.trim search = ""
    · simp [hs, Predicate.searchTerm]
    · obtain ⟨t, ht, hexp⟩ := hdb.expresses_searchTerm hs
      have hexp := hexp.mono fun f hf _ =>
        mem_referenced_of_searched c policy hs hf
      rw [ht]
      exact ⟨by simpa using hexp.answered,
        fun j hj r hr => by simpa [hs] using hexp.holds j hj r hr⟩
  refine ⟨Condition.answered?_all? fun t ht => ?_, fun j hj r hr => ?_⟩
  · rcases List.mem_append.mp ht with ht | ht
    · exact hanswered t ht
    · exact hsearch.1 t ht
  · rw [Criteria.predicate, Predicate.assemble, Condition.holdsIn?_all?, List.all_append,
      Bool.and_eq_true, Matches]
    exact and_congr (hholds j hj r hr) (hsearch.2 j hj r hr)

end Database

end JobSearch
