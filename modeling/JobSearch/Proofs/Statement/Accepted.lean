import JobSearch.Proofs.Matching.Statements
import JobSearch.Query.Attributes
import JobSearch.Query.Facets

/-!
# What statements are built for

Each way to build a statement accepts some of what it is asked for, and gives the statement of the
field or predicate that was meant. Criteria are compiled if postings can be filtered by all their
fields, and leaving a field out while compiling is compiling without a selection in it
(`Predicate.compile_eq_ok_iff`).

## Main definitions

* `Criteria.without` — criteria without the field that is left out, if one is.
-/

namespace JobSearch

open Query

/-- The criteria without a selection in the field that is left out, if one is. -/
def Criteria.without (c : Criteria) : Option String → Criteria
  | none => c
  | some key => c.withoutField key

/-- Criteria are compiled if postings can be filtered by all their fields and by the one that is
left out, and then to the predicate of the criteria without it. -/
theorem Predicate.compile_eq_ok_iff {c : Criteria} {search : String} {policy : Policy}
    {exclude : Option String} {p : Predicate} :
    compile c search policy exclude = .ok p ↔
      c.Filterable ∧ (∀ key ∈ exclude, ∃ f, Field.resolveFilterable key = .ok f) ∧
        p = (c.without exclude).predicate search policy := by
  have hfilterable : compile c search policy exclude = .ok p → c.Filterable := by
    intro h
    rw [compile] at h
    split at h
    · cases h
    · split at h
      · cases h
      · next selected hsel => exact filterable_of_resolveAll hsel
  cases exclude with
  | none =>
    refine ⟨fun h => ⟨hfilterable h, by simp, ?_⟩, ?_⟩
    · rw [compile_eq_ok (hfilterable h)] at h
      exact (Except.ok.inj h).symm
    · rintro ⟨hc, -, rfl⟩
      exact compile_eq_ok hc search policy
  | some key =>
    cases hkey : Field.resolveFilterable key with
    | error u => simp [compile, resolveExcluded, hkey, Except.map]
    | ok f =>
      obtain ⟨rfl, hf⟩ := Field.resolveFilterable_eq_ok_iff.mp hkey
      refine ⟨fun h => ⟨hfilterable h, by simp [hkey], ?_⟩, ?_⟩
      · have hc := hfilterable h
        rw [compile_exclude hf, compile_eq_ok (hc.withoutField _)] at h
        exact (Except.ok.inj h).symm
      · rintro ⟨hc, -, rfl⟩
        rw [compile_exclude hf]
        exact compile_eq_ok (hc.withoutField _) search policy

namespace Query.Statement

/-- Facets are built for a field that postings can be filtered by, under the criteria on all other
fields. -/
theorem facets_eq_ok_iff {key : String} {c : Criteria} {search : String} {policy : Policy}
    {s : Statement} :
    facets key c search policy = .ok s ↔ c.Filterable ∧ ∃ f, Field.resolveFilterable key = .ok f ∧
      s = facetsUnder f ((c.withoutField f.key).predicate search policy) := by
  have hresolve : ∀ {f}, Field.resolveFilterable key = .ok f → Field.resolve key = .ok f := by
    intro f hf
    rw [← (Field.resolveFilterable_eq_ok_iff.mp hf).1, Field.resolve_key]
  constructor
  · intro h
    rw [facets] at h
    split at h
    · cases h
    · next p hp =>
      obtain ⟨hc, hkey, rfl⟩ := Predicate.compile_eq_ok_iff.mp hp
      obtain ⟨f, hf⟩ := hkey key rfl
      rw [hresolve hf] at h
      obtain rfl := (Field.resolveFilterable_eq_ok_iff.mp hf).1
      exact ⟨hc, f, hf, (Except.ok.inj h).symm⟩
  · rintro ⟨hc, f, hf, rfl⟩
    obtain rfl := (Field.resolveFilterable_eq_ok_iff.mp hf).1
    have hp : Predicate.compile c search policy (some f.key) =
        .ok ((c.withoutField f.key).predicate search policy) :=
      Predicate.compile_eq_ok_iff.mpr ⟨hc, by simpa using ⟨f, hf⟩, rfl⟩
    rw [facets, hp, hresolve hf]
    rfl

/-- Labels are suggested for every field. -/
theorem suggestions_eq_ok_iff {key term : String} {limit : Int} {s : Statement} :
    suggestions key term limit = .ok s ↔
      ∃ f, Field.resolve key = .ok f ∧ s = suggestionsOf f term limit := by
  rw [suggestions]
  cases Field.resolve key with
  | error u => simp [Except.map]
  | ok f => simp [Except.map, eq_comm]

/-- The labels of postings are asked for in a field that may have several, for at least one
posting. -/
theorem attributes_eq_ok_iff {key : String} {ids : List Int} {s : Statement} :
    attributes key ids = .ok s ↔ ∃ f, Field.resolve key = .ok f ∧ f.isMultiValued = true ∧
      ids ≠ [] ∧ s = attributesOf f ids := by
  rw [attributes]
  cases Field.resolve key with
  | error u => simp
  | ok f =>
    cases hf : f.isMultiValued with
    | false => simp [hf]
    | true =>
      cases ids with
      | nil => simp [hf]
      | cons id rest => simpa [hf] using eq_comm

end Query.Statement

end JobSearch
