import JobSearch.Catalog.Resolve
import Mathlib.Data.List.Nodup

/-!
# Keys of fields

Every field has a key of its own, so a key names at most one field and each field is found under
its key.
-/

namespace JobSearch.Field

variable {f g : Field} {key : String}

theorem nodup_keys : (Field.all.map Field.key).Nodup := by decide +kernel

theorem nodup_all : Field.all.Nodup := List.Nodup.of_map _ nodup_keys

theorem key_inj (h : f.key = g.key) : f = g :=
  List.inj_on_of_nodup_map nodup_keys f.mem_all g.mem_all h

theorem key_of_ofKey? (h : ofKey? key = some f) : f.key = key := by
  rw [ofKey?] at h
  simpa using List.find?_some h

/-- A key names the field whose key it is. -/
theorem ofKey?_eq_some_iff : ofKey? key = some f ↔ f.key = key := by
  refine ⟨key_of_ofKey?, ?_⟩
  rintro rfl
  cases h : ofKey? f.key with
  | none => exact absurd (List.find?_eq_none.mp h f f.mem_all) (by simp)
  | some g => rw [key_inj (key_of_ofKey? h)]

theorem ofKey?_key (f : Field) : ofKey? f.key = some f := ofKey?_eq_some_iff.mpr rfl

theorem resolve_key (f : Field) : resolve f.key = .ok f := by
  rw [resolve, ofKey?_key]

theorem key_of_resolve (h : resolve key = .ok f) : f.key = key := by
  rw [resolve] at h
  cases hk : ofKey? key with
  | none => simp [hk] at h
  | some g =>
    obtain rfl : g = f := by simpa [hk] using h
    exact key_of_ofKey? hk

theorem resolveFilterable_eq_ok_iff :
    resolveFilterable key = .ok f ↔ f.key = key ∧ f.entry.filterable = true := by
  rw [resolveFilterable, ← ofKey?_eq_some_iff]
  cases ofKey? key with
  | none => simp
  | some g =>
    cases hg : g.entry.filterable with
    | true =>
      simp only [hg, if_true, Except.ok.injEq, Option.some.injEq]
      exact ⟨fun h => ⟨h, h ▸ hg⟩, fun h => h.1⟩
    | false =>
      simp only [hg, Bool.false_eq_true, if_false, reduceCtorEq, Option.some.injEq, false_iff]
      rintro ⟨rfl, h⟩
      rw [hg] at h
      cases h

theorem resolveFilterable_key (h : f.entry.filterable = true) : resolveFilterable f.key = .ok f :=
  resolveFilterable_eq_ok_iff.mpr ⟨rfl, h⟩

end JobSearch.Field
