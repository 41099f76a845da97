import JobSearch.Proofs.Dataset.Dropped
import JobSearch.Proofs.Query.Joins
import JobSearch.Proofs.Statement.Conditions
import JobSearch.Query.Attributes
import JobSearch.Query.Facets

/-!
# The tables of statements

Every statement about postings names the table of postings, those of the joined fields and those of
its inner statements. Which fields these are follows from the criteria, the search text and what
the statement is about, but neither from the policy nor from the order: the fields that are sorted
by are shown anyway (`Statement.hits_slice`).

## Main definitions

* `Predicate.Hit` — a table that a predicate looks at was dropped.
-/

namespace JobSearch

open Query

variable {names : List String} {f : Field} {c : Criteria} {search : String} {policy : Policy}

/-! ### The tables of fields -/

namespace Field

/-- The labels of a joined field are stored in one table. -/
theorem hits_tables_of_lookup (hf : f.entry.shape = .lookup) :
    Hits names f.tables ↔ Drops names f.entry.table := by
  rw [tables, hf]
  simp

theorem hits_labelJoins (hf : f.isMultiValued = true) :
    Hits names (f.labelJoins.map Join.table) ↔ Hits names f.tables := by
  rw [labelJoins, tables]
  cases hshape : f.entry.shape with
  | lookup => exact absurd hshape (isMultiValued_iff.mp hf)
  | children => rfl
  | junction pairs owner => simp [or_comm]

theorem hits_carriers (labels : List String) :
    Hits names (f.carriers labels).source.tables ↔ Hits names f.tables := by
  rw [carriers, tables]
  cases f.entry.shape <;> simp [Source.tables, or_comm]

theorem hits_ownerSource : Hits names f.ownerSource.2.tables ↔ Hits names f.tables := by
  rw [ownerSource, tables]
  cases f.entry.shape <;> simp [Source.tables]

end Field

/-! ### The tables of statements -/

theorem tables_eq_flatMap (t : Term) : t.tables = t.carriers.flatMap (·.source.tables) := by
  induction t with
  | and a b iha ihb => simp [Condition.tables, Condition.carriers, iha, ihb]
  | or a b iha ihb => simp [Condition.tables, Condition.carriers, iha, ihb]
  | grouped a ih => simpa [Condition.tables, Condition.carriers] using ih
  | _ => simp [Condition.tables, Condition.carriers]

/-- A table that a predicate looks at was dropped: one of a joined field or of an inner
statement. -/
def Predicate.Hit (p : Predicate) (names : List String) : Prop :=
  (∃ g ∈ p.referenced, g.entry.shape = .lookup ∧ Drops names g.entry.table) ∨
    Hits names (p.condition.toList.flatMap Condition.tables)

theorem hits_postingSource (fields : List Field) :
    Hits names (postingSource fields).tables ↔ Drops names postingTable ∨
      ∃ g ∈ fields, g.entry.shape = .lookup ∧ Drops names g.entry.table := by
  have hjoins : (lookupJoins fields).map Join.table =
      (Field.joinedOf fields).map (·.entry.table) := List.map_map
  rw [Source.tables, postingSource, hjoins, hits_cons, hits_map]
  simp only [Field.mem_joinedOf, and_assoc]

/-- Criteria and search text look at the tables of the selected fields and, if there is a search
text, those of the searched fields. -/
theorem hit_predicate : (c.predicate search policy).Hit names ↔
    (∃ g ∈ c.chosen, Hits names g.tables) ∨
      Text.trim search ≠ "" ∧ ∃ g ∈ searchFields, Drops names g.entry.table := by
  have hsearched : ∀ g ∈ searchFields, g.entry.shape = .lookup := by decide
  have hinner : Hits names ((c.predicate search policy).condition.toList.flatMap Condition.tables) ↔
      ∃ g ∈ c.chosen, g.isMultiValued = true ∧ Hits names g.tables := by
    have htables : (c.predicate search policy).condition.toList.flatMap Condition.tables =
        ((c.chosen.filter Field.isMultiValued).map fun f => f.carriers (c.labelsFor f.key)).flatMap
          (·.source.tables) := by
      rw [← c.carriers_predicate search policy, List.flatMap_assoc]
      exact List.flatMap_congr fun t _ => tables_eq_flatMap t
    rw [htables, List.flatMap_map, hits_flatMap]
    simp only [Field.hits_carriers, List.mem_filter, and_assoc]
  rw [Predicate.Hit, hinner]
  constructor
  · rintro (⟨g, hg, hlookup, hdrops⟩ | ⟨g, hg, -, hhits⟩)
    · rcases List.mem_append.mp hg with hg | hg
      · rw [Criteria.filtered_inCatalogOrder] at hg
        exact Or.inl ⟨g, (List.mem_filter.mp hg).1,
          (Field.hits_tables_of_lookup hlookup).mpr hdrops⟩
      · split at hg
        · cases hg
        · next hs => exact Or.inr ⟨by simpa using hs, g, (List.mem_filter.mp hg).1, hdrops⟩
    · exact Or.inl ⟨g, hg, hhits⟩
  · rintro (⟨g, hg, hhits⟩ | ⟨hs, g, hg, hdrops⟩)
    · cases hmulti : g.isMultiValued with
      | false =>
        have hlookup := Field.isMultiValued_eq_false_iff.mp hmulti
        exact Or.inl ⟨g, Criteria.mem_referenced_of_chosen hg hmulti, hlookup,
          (Field.hits_tables_of_lookup hlookup).mp hhits⟩
      | true => exact Or.inr ⟨g, hg, hmulti, hhits⟩
    · exact Or.inl ⟨g, mem_referenced_of_searched c policy hs hg, hsearched g hg, hdrops⟩

/-- Without the selection in a field the other fields stay selected. -/
theorem Criteria.mem_chosen_withoutField {g : Field} :
    g ∈ (c.withoutField f.key).chosen ↔ g ∈ c.chosen ∧ g ≠ f := by
  have hlabels : (c.withoutField f.key).labelsFor g.key =
      if g = f then [] else c.labelsFor g.key := by
    rw [labelsFor, withoutField, Ordered.find?_erase]
    by_cases hg : g = f
    · rw [if_pos (congrArg Field.key hg), if_pos hg]
      rfl
    · rw [if_neg fun h => hg (Field.key_inj h), if_neg hg]
      rfl
  simp only [chosen, List.mem_filter, hlabels]
  split
  · next h => simp [h]
  · next h => simp [h]

namespace Query.Statement

theorem hits_count (p : Predicate) :
    Hits names (count p).tables ↔ Drops names postingTable ∨ p.Hit names := by
  rw [tables, count, hits_append, hits_postingSource, or_assoc]
  rfl

/-- The shown fields are joined whatever the order is. -/
theorem hits_slice (p : Predicate) (sort : SortChoice) (converted : Bool) (limit offset : Int) :
    Hits names (slice p sort converted limit offset).tables ↔ Drops names postingTable ∨
      (∃ g ∈ displayFields, Drops names g.entry.table) ∨ p.Hit names := by
  have hshown : ∀ g ∈ displayFields, g.entry.shape = .lookup := by decide
  have hsorted : ∀ g ∈ sort.field?, g ∈ displayFields := by
    cases sort <;> decide
  rw [tables, slice, hits_append, hits_postingSource]
  constructor
  · rintro ((hposting | ⟨g, hg, hlookup, hdrops⟩) | hcondition)
    · exact Or.inl hposting
    · rcases List.mem_append.mp hg with hg | hg
      · rcases List.mem_append.mp hg with hg | hg
        · exact Or.inr (Or.inl ⟨g, hg, hdrops⟩)
        · exact Or.inr (Or.inr (Or.inl ⟨g, hg, hlookup, hdrops⟩))
      · exact Or.inr (Or.inl ⟨g, hsorted g (Option.mem_toList.mp hg), hdrops⟩)
    · exact Or.inr (Or.inr (Or.inr hcondition))
  · rintro (hposting | ⟨g, hg, hdrops⟩ | ⟨g, hg, hlookup, hdrops⟩ | hcondition)
    · exact Or.inl (Or.inl hposting)
    · exact Or.inl (Or.inr ⟨g, by simp [hg], hshown g hg, hdrops⟩)
    · exact Or.inl (Or.inr ⟨g, by simp [hg], hlookup, hdrops⟩)
    · exact Or.inr hcondition

/-- The labels of a field are joined either like those of the other fields or by tables of their
own. -/
theorem hits_labelSource (f : Field) (others : List Field) :
    Hits names (f.labelSource others).tables ↔ Drops names postingTable ∨ Hits names f.tables ∨
      ∃ g ∈ others, g.entry.shape = .lookup ∧ Drops names g.entry.table := by
  have hsource (fields : List Field) (h : f.labelSource others =
      { postingSource fields with joins := (postingSource fields).joins ++ f.labelJoins }) :
      (f.labelSource others).tables =
        (postingSource fields).tables ++ f.labelJoins.map Join.table := by
    rw [h, Source.tables, Source.tables, List.map_append, List.cons_append]
  rw [hsource _ rfl, hits_append, hits_postingSource]
  cases hmulti : f.isMultiValued with
  | false =>
    have hlookup := Field.isMultiValued_eq_false_iff.mp hmulti
    have hjoins : f.labelJoins = [] := by rw [Field.labelJoins, hlookup]
    simp only [hjoins, Bool.false_eq_true, if_false, List.map_nil, hits_nil, or_false,
      List.mem_append, List.mem_singleton, or_and_right, exists_or, exists_eq_left, hlookup,
      true_and, Field.hits_tables_of_lookup hlookup]
    exact or_congr_right or_comm
  | true =>
    rw [Field.hits_labelJoins hmulti, if_pos rfl, List.append_nil, or_assoc]
    exact or_congr_right or_comm

theorem hits_facetsUnder (f : Field) (p : Predicate) : Hits names (facetsUnder f p).tables ↔
    Drops names postingTable ∨ Hits names f.tables ∨ p.Hit names := by
  have hcondition : (facetsUnder f p).condition.toList.flatMap Condition.tables =
      p.condition.toList.flatMap Condition.tables := by
    rw [facetsUnder, labels]
    cases p.condition <;> simp [Condition.tables]
  rw [tables, hcondition, hits_append, facetsUnder, labels, hits_labelSource, Predicate.Hit,
    or_assoc, or_assoc]

theorem hits_attributesOf (f : Field) (ids : List Int) :
    Hits names (attributesOf f ids).tables ↔ Hits names f.tables := by
  have hcondition : (ownedBy f.ownerSource.1 ids).tables = [] := by
    rw [ownedBy.eq_def]
    split <;> rfl
  rw [tables, attributesOf]
  simp [hcondition, Field.hits_ownerSource]

end Query.Statement

end JobSearch
