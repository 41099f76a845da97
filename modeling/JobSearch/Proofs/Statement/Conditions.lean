import JobSearch.Proofs.Statement.Written

/-!
# The conditions in a predicate

A predicate is put together from single conditions: one for each label selected in a field with at
most one, one for each other field, one for each bound, and one for each searched column
(`Criteria.conditions`). Whatever is collected from the conditions in a predicate is collected from
these (`Predicate.collect_condition`): the qualifiers it uses and its inner statements.

## Main definitions

* `Field.conditions` — the single conditions on a field.
* `Criteria.conditions` — the single conditions in the predicate of criteria and search text.
-/

namespace JobSearch

open Query

/-- The single conditions on a field. -/
def Field.conditions (f : Field) (labels : List String) : List Term :=
  if f.isMultiValued then [.among postingId (f.carriers labels)]
  else labels.map fun l => .equals f.labelColumn (.text l)

/-- The single conditions in the predicate of criteria and search text. -/
def Criteria.conditions (c : Criteria) (search : String) : List Term :=
  c.chosen.flatMap (fun f => f.conditions (c.labelsFor f.key)) ++
    c.ranges.flatMap (fun q => (c.setBounds.filter fun p => p.1.quantity = q).map fun p =>
      Predicate.boundCondition p.1 p.2) ++
    if Text.trim search = "" then []
    else Predicate.searchedColumns.map fun col => .like col (Text.containing (Text.trim search))

namespace Predicate

/-! ### Collecting from conditions -/

section collect

variable {β : Type} {g : Term → List β} (hand : ∀ a b, g (.and a b) = g a ++ g b)
  (hor : ∀ a b, g (.or a b) = g a ++ g b) (hgrouped : ∀ a, g (.grouped a) = g a)

include hand in
theorem collect_all (ts : List Term) : (Condition.all? ts).toList.flatMap g = ts.flatMap g := by
  cases h : Condition.all? ts with
  | none => simp [(Condition.all?_eq_none_iff ts).mp h]
  | some t => simp [Condition.collect_all? hand h]

include hor in
theorem collect_any (ts : List Term) : (Condition.any? ts).toList.flatMap g = ts.flatMap g := by
  cases h : Condition.any? ts with
  | none => simp [(Condition.any?_eq_none_iff ts).mp h]
  | some t => simp [Condition.collect_any? hor h]

include hgrouped in
theorem collect_grouped (t : Option Term) :
    (t.map Condition.grouped).toList.flatMap g = t.toList.flatMap g := by
  cases t <;> simp [hgrouped]

include hor hgrouped in
theorem collect_fieldTerm (f : Field) {labels : List String} (hne : labels ≠ []) :
    (fieldTerm f labels).flatMap g = (f.conditions labels).flatMap g := by
  cases hmulti : f.isMultiValued with
  | false =>
    rw [fieldTerm_of_single hmulti, collect_grouped hgrouped, collect_any hor]
    simp [Field.conditions, hmulti]
  | true =>
    rw [fieldTerm_of_several hmulti hne]
    simp [Field.conditions, hmulti]

include hand hgrouped in
theorem collect_quantityTerm (c : Criteria) (q : Quantity) :
    (quantityTerm c q).flatMap g =
      ((c.setBounds.filter fun p => p.1.quantity = q).map fun p =>
        boundCondition p.1 p.2).flatMap g := by
  rw [quantityTerm]
  split
  · next h => rw [h]
  · next h => rw [h]
  · next h => rw [collect_grouped hgrouped, collect_all hand]

include hor hgrouped in
theorem collect_searchTerm (text : String) :
    (searchTerm text).flatMap g = (if text = "" then [] else searchedColumns.map fun col =>
      (Condition.like col (Text.containing text) : Term)).flatMap g := by
  rw [searchTerm]
  by_cases h : text = ""
  · simp [h]
  · rw [if_neg (by simpa using h), if_neg h, collect_grouped hgrouped, collect_any hor]

include hand hor hgrouped in
theorem collect_combine (policy : Policy) (ts : List Term) :
    (combine policy ts).toList.flatMap g = ts.flatMap g := by
  rw [combine.eq_def]
  split
  · exact collect_all hand _
  · simp
  · rw [collect_grouped hgrouped, collect_any hor]

include hand hor hgrouped in
/-- What is collected from a predicate is collected from its single conditions. -/
theorem collect_condition (c : Criteria) (search : String) (policy : Policy) :
    (c.predicate search policy).condition.toList.flatMap g =
      (c.conditions search).flatMap g := by
  have hfields : c.chosen.flatMap (fun f => (fieldTerm f (c.labelsFor f.key)).flatMap g) =
      c.chosen.flatMap fun f => (f.conditions (c.labelsFor f.key)).flatMap g :=
    List.flatMap_congr fun f hf => collect_fieldTerm hor hgrouped f (c.labelsFor_ne_nil hf)
  rw [Criteria.predicate, assemble]
  simp only [terms_eq, collect_all hand, List.flatMap_append,
    collect_combine hand hor hgrouped, collect_searchTerm hor hgrouped, Criteria.conditions,
    List.flatMap_assoc, hfields, collect_quantityTerm hand hgrouped]

end collect

end Predicate

/-! ### The qualifiers and inner statements of a predicate -/

namespace Criteria

/-- The inner statements of a predicate are those of the selected fields with several labels. -/
theorem carriers_predicate (c : Criteria) (search : String) (policy : Policy) :
    (c.predicate search policy).condition.toList.flatMap Condition.carriers =
      (c.chosen.filter Field.isMultiValued).map fun f => f.carriers (c.labelsFor f.key) := by
  have hfield (f : Field) (labels : List String) :
      (f.conditions labels).flatMap Condition.carriers =
        if f.isMultiValued then [f.carriers labels] else [] := by
    rw [Field.conditions]
    split <;> simp [Condition.carriers]
  have hbound (b : Bound) (x : Float) : (Predicate.boundCondition b x).carriers = [] := by
    rw [Predicate.boundCondition]
    split <;> rfl
  rw [Predicate.collect_condition (fun _ _ => rfl) (fun _ _ => rfl) fun _ => rfl, conditions,
    map_filter_eq_flatMap]
  simp only [List.flatMap_append, List.flatMap_assoc, List.flatMap_map, hfield, hbound]
  split <;> simp [Condition.carriers]

/-- A selected field with at most one label is looked at. -/
theorem mem_referenced_of_chosen {c : Criteria} {search : String} {policy : Policy} {f : Field}
    (hf : f ∈ c.chosen) (hmulti : f.isMultiValued = false) :
    f ∈ (c.predicate search policy).referenced := by
  refine List.mem_append_left _ ?_
  rw [filtered_inCatalogOrder]
  exact List.mem_filter.mpr ⟨hf, by simp [hmulti]⟩

/-- A predicate uses the qualifiers of postings and of the joined fields that it looks at. -/
theorem qualifiers_predicate {c : Criteria} {search : String} {policy : Policy} {q : String}
    (hq : q ∈ (c.predicate search policy).condition.toList.flatMap Condition.qualifiers) :
    q = postingQualifier ∨ ∃ f ∈ (c.predicate search policy).referenced,
      f.entry.shape = .lookup ∧ q = f.entry.qualifier := by
  rw [Predicate.collect_condition (fun _ _ => rfl) (fun _ _ => rfl) fun _ => rfl] at hq
  obtain ⟨t, ht, hq⟩ := List.mem_flatMap.mp hq
  rcases List.mem_append.mp ht with ht | ht
  · rcases List.mem_append.mp ht with ht | ht
    · obtain ⟨f, hf, ht⟩ := List.mem_flatMap.mp ht
      rw [Field.conditions] at ht
      split at ht
      · obtain rfl := List.mem_singleton.mp ht
        exact Or.inl (List.mem_singleton.mp hq)
      · next hmulti =>
        obtain ⟨l, -, rfl⟩ := List.mem_map.mp ht
        have hmulti : f.isMultiValued = false := by simpa using hmulti
        exact Or.inr ⟨f, mem_referenced_of_chosen hf hmulti,
          Field.isMultiValued_eq_false_iff.mp hmulti, List.mem_singleton.mp hq⟩
    · obtain ⟨r, -, ht⟩ := List.mem_flatMap.mp ht
      obtain ⟨p, -, rfl⟩ := List.mem_map.mp ht
      rw [Predicate.boundCondition] at hq
      split at hq <;> exact Or.inl (List.mem_singleton.mp hq)
  · split at ht
    · cases ht
    · next hs =>
      obtain ⟨col, hcol, rfl⟩ := List.mem_map.mp ht
      obtain rfl := List.mem_singleton.mp hq
      rcases List.mem_append.mp hcol with hcol | hcol
      · obtain ⟨name, -, rfl⟩ := List.mem_map.mp hcol
        exact Or.inl rfl
      · obtain ⟨f, hf, rfl⟩ := List.mem_map.mp hcol
        have hlookup : ∀ f ∈ searchFields, f.entry.shape = .lookup := by decide
        exact Or.inr ⟨f, mem_referenced_of_searched c policy hs hf, hlookup f hf, rfl⟩

end Criteria

end JobSearch
