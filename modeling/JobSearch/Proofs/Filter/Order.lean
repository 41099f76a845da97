import JobSearch.Proofs.Filter.Normal

/-!
# The order of selections

Criteria may list the same selections in another order (`Criteria.Same`). The predicate does not
know: it takes the selections in catalog order, and what it looks up is found wherever it stands
(`Predicate.inCatalogOrder_perm`). So criteria that are the same but for the order of their fields
have one predicate, or none of them has one, and leaving a field out while compiling is compiling
without a selection in it (`selections_compile_in_any_order`).

## Main definitions

* `Criteria.Same` — criteria that are the same up to the order of their fields.
-/

namespace JobSearch

/-- Criteria that are the same up to the order of their fields. -/
structure Criteria.Same (c d : Criteria) : Prop where
  selections : c.selections.Perm d.selections
  bounds : c.bounds = d.bounds

namespace Criteria

variable {c d : Criteria}

theorem Same.activeFields (h : c.Same d) : c.activeFields.Perm d.activeFields :=
  h.selections.map _

/-- Whether postings can be filtered by criteria does not depend on the order of their fields. -/
theorem Same.filterable_iff (h : c.Same d) : c.Filterable ↔ d.Filterable := by
  simp only [Filterable, h.activeFields.mem_iff]

/-- Postings cannot be filtered by criteria if one of their fields is unknown or not
filterable. -/
theorem not_filterable_iff :
    ¬c.Filterable ↔ ∃ key ∈ c.activeFields, ∃ u, Field.resolveFilterable key = .error u := by
  simp only [Filterable, not_forall, exists_prop]
  refine exists_congr fun key => and_congr_right fun _ => ?_
  cases Field.resolveFilterable key <;> simp

end Criteria

namespace Predicate

variable {c d : Criteria}

/-- Keys cannot be resolved if postings cannot be filtered by one of them. -/
theorem exists_resolveAll_eq_error (hc : ¬c.Filterable) :
    ∃ u, resolveAll c.selections = .error u := by
  cases h : resolveAll c.selections with
  | error u => exact ⟨u, rfl⟩
  | ok selected => exact absurd (filterable_of_resolveAll h) hc

/-- Selections are taken in catalog order, whatever order they were in. -/
theorem inCatalogOrder_perm (hn : c.activeFields.Nodup) (h : c.selections.Perm d.selections)
    (exclude : Option Field) :
    inCatalogOrder c.active exclude = inCatalogOrder d.active exclude := by
  rw [inCatalogOrder, inCatalogOrder]
  refine List.filterMap_congr fun f _ => ?_
  rw [c.find?_active, d.find?_active, Ordered.find?_perm hn h]

/-- Of criteria, a predicate looks at the bounds beside the selections that it is given. -/
theorem assemble_congr (h : c.bounds = d.bounds) (selected : List (Field × List String))
    (search : String) (policy : Policy) :
    assemble selected c search policy = assemble selected d search policy := by
  have hset : c.setBounds = d.setBounds := by rw [Criteria.setBounds, h, Criteria.setBounds]
  have hquantity (q : Quantity) : quantityTerm c q = quantityTerm d q := by
    rw [quantityTerm, hset, quantityTerm]
  simp only [assemble, hquantity]

/-- Criteria compile unless postings cannot be filtered by the field that is left out or by one of
their own. -/
theorem compile_eq (c : Criteria) (search : String) (policy : Policy) {exclude : Option String}
    {excluded : Option Field} (hexclude : resolveExcluded exclude = .ok excluded) :
    compile c search policy exclude = (resolveAll c.selections).map fun selected =>
      assemble (inCatalogOrder selected excluded) c (Text.trim search) policy := by
  simp only [compile, hexclude]
  cases resolveAll c.selections <;> rfl

/-- A predicate fails to compile if and only if postings cannot be filtered by one of the fields
of the criteria, provided that they can be filtered by the field that is left out. -/
theorem exists_compile_eq_error_iff (c : Criteria) (search : String) (policy : Policy)
    {exclude : Option String} {excluded : Option Field}
    (hexclude : resolveExcluded exclude = .ok excluded) :
    (∃ u, compile c search policy exclude = .error u) ↔ ¬c.Filterable := by
  rw [compile_eq c search policy hexclude]
  constructor
  · rintro ⟨u, hu⟩ hc
    rw [resolveAll_eq_ok hc] at hu
    cases hu
  · intro hc
    obtain ⟨u, hu⟩ := exists_resolveAll_eq_error hc
    exact ⟨u, by rw [hu]; rfl⟩

/-- Criteria that are the same but for the order of their fields have the same predicate, if they
have one. -/
theorem toOption_compile_same (hn : c.activeFields.Nodup) (h : c.Same d) (search : String)
    (policy : Policy) (exclude : Option String) :
    (compile c search policy exclude).toOption = (compile d search policy exclude).toOption := by
  cases hexclude : resolveExcluded exclude with
  | error u => simp only [compile, hexclude]
  | ok excluded =>
    rw [compile_eq c search policy hexclude, compile_eq d search policy hexclude]
    by_cases hc : c.Filterable
    · rw [resolveAll_eq_ok hc, resolveAll_eq_ok (h.filterable_iff.mp hc)]
      simp only [Except.map, inCatalogOrder_perm hn h.selections, assemble_congr h.bounds]
    · obtain ⟨u, hu⟩ := exists_resolveAll_eq_error hc
      obtain ⟨v, hv⟩ := exists_resolveAll_eq_error fun hd => hc (h.filterable_iff.mpr hd)
      rw [hu, hv]
      rfl

end Predicate

/-- Criteria compile to the same predicate whatever the order of their fields, or not at all. To
leave out a field that postings can be filtered by is to compile the criteria without it. Compiling
fails if and only if one of the fields of the criteria is unknown or not filterable. -/
theorem selections_compile_in_any_order {c : Criteria} (hn : c.activeFields.Nodup)
    (search : String) (policy : Policy) :
    (∀ d, c.Same d → ∀ exclude, (Predicate.compile c search policy exclude).toOption =
      (Predicate.compile d search policy exclude).toOption) ∧
    (∀ f : Field, f.entry.filterable = true → Predicate.compile c search policy (some f.key) =
      Predicate.compile (c.withoutField f.key) search policy none) ∧
    ∀ exclude excluded, Predicate.resolveExcluded exclude = .ok excluded →
      ((∃ u, Predicate.compile c search policy exclude = .error u) ↔
        ∃ key ∈ c.activeFields, ∃ u, Field.resolveFilterable key = .error u) := by
  refine ⟨fun d h exclude => Predicate.toOption_compile_same hn h search policy exclude,
    fun f hf => Predicate.compile_exclude hf c search policy, fun exclude excluded hexclude => ?_⟩
  rw [Predicate.exists_compile_eq_error_iff c search policy hexclude, Criteria.not_filterable_iff]

/-- A skill before two cities instead of behind them, and the cities left out. -/
theorem sample_compiles_in_any_order :
    ∃ d : Criteria, d.activeFields = ["hard_skills", "city"] ∧
      Criteria.sample.activeFields.Nodup ∧ Criteria.sample.Same d ∧
      (Predicate.compile Criteria.sample "weld" .any none).toOption =
        (Predicate.compile d "weld" .any none).toOption ∧
      Field.city.entry.filterable = true ∧
      Predicate.compile Criteria.sample "weld" .any (some "city") =
        Predicate.compile (Criteria.sample.withoutField "city") "weld" .any none := by
  let d : Criteria := ⟨[("hard_skills", ["welding"]), ("city", ["Bergen", "Oslo"])], fun _ => none⟩
  have hsame : Criteria.sample.Same d := ⟨.swap _ _ _, rfl⟩
  obtain ⟨hsame', hexclude, -⟩ :=
    selections_compile_in_any_order Criteria.normal_sample.fields_nodup "weld" .any
  exact ⟨d, rfl, Criteria.normal_sample.fields_nodup, hsame, hsame' d hsame none, rfl,
    hexclude .city rfl⟩

end JobSearch
