import JobSearch.Query.Predicate
import Mathlib.Data.List.Nodup
import Mathlib.Data.List.Pairwise

/-!
# Qualifiers

Every table of a statement goes by a qualifier of its own. The qualifiers are formed from those
of the catalog: the label table of a field has the qualifier of its entry, the table of pairs
beside it and the tables of inner statements have it with an ending. All of them together are
distinct (`nodup_qualifiers`), so a column of one table is never read off another.

## Main definitions

* `Field.pairQualifier`, `Field.qualifiers` — the qualifiers that belong to a field.
-/

namespace JobSearch

/-- The qualifier of the pairs of a field in the statement itself. -/
def Field.pairQualifier (f : Field) : String := f.entry.qualifier ++ "_j"

/-- All qualifiers that statements use for a field. -/
def Field.qualifiers (f : Field) : List String :=
  let q := f.entry.qualifier
  match f.entry.shape with
  | .lookup => [q]
  | .children => [q, q ++ "_f"]
  | .junction _ _ => [q, f.pairQualifier, q ++ "_fj", q ++ "_fl"]

/-- No two tables go by one qualifier, those of inner statements included. -/
theorem nodup_qualifiers : (postingQualifier :: Field.all.flatMap Field.qualifiers).Nodup := by
  decide +kernel

namespace Field

variable {f g : Field}

theorem mem_qualifiers_self (f : Field) : f.entry.qualifier ∈ f.qualifiers := by
  rw [qualifiers]
  split <;> simp

theorem pairQualifier_mem {pairs owner : String} (h : f.entry.shape = .junction pairs owner) :
    f.pairQualifier ∈ f.qualifiers := by
  simp [qualifiers, h]

theorem ne_postingQualifier {q : String} (h : q ∈ f.qualifiers) : q ≠ postingQualifier := by
  rintro rfl
  exact (List.nodup_cons.mp nodup_qualifiers).1 (List.mem_flatMap.mpr ⟨f, f.mem_all, h⟩)

/-- A qualifier belongs to one field only. -/
theorem eq_of_mem_qualifiers {q : String} (hf : q ∈ f.qualifiers) (hg : q ∈ g.qualifiers) :
    f = g := by
  by_contra hne
  have hd := (List.nodup_flatMap.mp (List.nodup_cons.mp nodup_qualifiers).2).2
  have : Std.Symm (Function.onFun List.Disjoint qualifiers) := ⟨fun _ _ h _ hb ha => h ha hb⟩
  exact hd.forall f.mem_all g.mem_all hne hf hg

theorem qualifier_ne_posting (f : Field) : f.entry.qualifier ≠ postingQualifier :=
  ne_postingQualifier f.mem_qualifiers_self

theorem qualifier_inj (h : f.entry.qualifier = g.entry.qualifier) : f = g :=
  eq_of_mem_qualifiers f.mem_qualifiers_self (h ▸ g.mem_qualifiers_self)

theorem pairQualifier_ne_qualifier (f : Field) : f.pairQualifier ≠ f.entry.qualifier := by
  intro h
  have hl := congrArg String.length h
  simp [pairQualifier] at hl

/-- The qualifier of the pairs of a field is not that of a label table. -/
theorem pairQualifier_ne {pairs owner : String} (h : f.entry.shape = .junction pairs owner)
    (g : Field) : f.pairQualifier ≠ g.entry.qualifier := by
  intro he
  obtain rfl := eq_of_mem_qualifiers (pairQualifier_mem h) (he ▸ g.mem_qualifiers_self)
  exact pairQualifier_ne_qualifier f he

theorem isMultiValued_eq_false_iff : f.isMultiValued = false ↔ f.entry.shape = .lookup := by
  simp [isMultiValued]

theorem isMultiValued_iff : f.isMultiValued = true ↔ f.entry.shape ≠ .lookup := by
  simp [isMultiValued]

end Field

end JobSearch
