import JobSearch.Proofs.Catalog.Keys
import JobSearch.Proofs.Query.Joins
import Mathlib.Data.List.Induction

/-!
# The list of joins

The joins for some keys depend neither on how often nor on the order in which the keys are given.
They can be found by taking the fields of the keys, each once and in catalog order, and by adding
the join of each field with at most one label unless its qualifier is taken already
(`joinsInTurn`). No qualifier ever is, since all of them differ. So what comes out are the joins of
those fields of the catalog that are asked for (`joinsInTurn_eq`).

## Main definitions

* `Field.inCatalogOrder` — fields in catalog order, each once.
* `joinsInTurn` — the joins of fields that are added one after the other.
-/

namespace JobSearch

open Query

/-! ### The order of the catalog -/

namespace Field

variable {f g : Field} {fields : List Field}

theorem pairwise_position : all.Pairwise (·.position < ·.position) := by decide +kernel

theorem position_inj (h : f.position = g.position) : f = g := by
  have hn : (all.map position).Nodup :=
    (pairwise_position.map position fun _ _ hlt => hlt).imp Nat.ne_of_lt
  exact List.inj_on_of_nodup_map hn f.mem_all g.mem_all h

/-- Fields in catalog order, each once. -/
def inCatalogOrder (fields : List Field) : List Field :=
  (distinct fields).mergeSort fun f g => decide (f.position ≤ g.position)

theorem mem_inCatalogOrder : f ∈ inCatalogOrder fields ↔ f ∈ fields := by
  rw [inCatalogOrder, List.mem_mergeSort, mem_distinct]

theorem nodup_inCatalogOrder (fields : List Field) : (inCatalogOrder fields).Nodup :=
  (List.mergeSort_perm _ _).nodup_iff.mpr (nodup_distinct fields)

/-- Putting fields in catalog order is picking them from the catalog. -/
theorem inCatalogOrder_eq (fields : List Field) :
    inCatalogOrder fields = all.filter (· ∈ fields) := by
  have hsorted : (inCatalogOrder fields).Pairwise (·.position ≤ ·.position) := by
    refine (List.pairwise_mergeSort (fun f g k hfg hgk => ?_) (fun f g => ?_) _).imp
      of_decide_eq_true
    · exact decide_eq_true (Nat.le_trans (of_decide_eq_true hfg) (of_decide_eq_true hgk))
    · simpa using Nat.le_total f.position g.position
  have hpicked : (all.filter (· ∈ fields)).Pairwise (·.position ≤ ·.position) :=
    (pairwise_position.sublist List.filter_sublist).imp Nat.le_of_lt
  refine List.Perm.eq_of_pairwise
    (fun f g _ _ hfg hgf => position_inj (Nat.le_antisymm hfg hgf)) hsorted hpicked ?_
  rw [List.perm_ext_iff_of_nodup (nodup_inCatalogOrder fields) (nodup_all.filter _)]
  intro f
  rw [mem_inCatalogOrder, List.mem_filter, decide_eq_true_iff, and_iff_right f.mem_all]

theorem pairwise_joinedOf (fields : List Field) :
    (joinedOf fields).Pairwise (·.position < ·.position) :=
  pairwise_position.sublist List.filter_sublist

end Field

/-! ### Joins one after the other -/

/-- Joins with that of a field behind them, unless its qualifier is taken. -/
def withJoin (joins : List Join) (f : Field) : List Join :=
  if f.entry.qualifier ∈ joins.map Join.qualifier then joins else joins ++ [f.lookupJoin]

/-- The joins of fields that are added one after the other in catalog order. -/
def joinsInTurn (fields : List Field) : List Join :=
  ((Field.inCatalogOrder fields).filter (·.isMultiValued = false)).foldl withJoin []

theorem map_qualifier_lookupJoin (fields : List Field) :
    (fields.map Field.lookupJoin).map Join.qualifier = fields.map (·.entry.qualifier) :=
  List.map_map

/-- Different fields are added with a join each, as their qualifiers differ. -/
theorem foldl_withJoin {fields : List Field} (hn : fields.Nodup) :
    fields.foldl withJoin [] = fields.map Field.lookupJoin := by
  induction fields using List.reverseRecOn with
  | nil => rfl
  | append_singleton fields f ih =>
    obtain ⟨hfields, -, hnew⟩ := List.nodup_append.mp hn
    have hfree : f.entry.qualifier ∉ (fields.map Field.lookupJoin).map Join.qualifier := by
      rw [map_qualifier_lookupJoin, List.mem_map]
      rintro ⟨g, hg, hq⟩
      exact hnew g hg f (List.mem_singleton_self f) (Field.qualifier_inj hq)
    rw [List.foldl_concat, ih hfields, withJoin, if_neg hfree, List.map_append]
    rfl

/-- The joins that are added one after the other are those for the fields. -/
theorem joinsInTurn_eq (fields : List Field) : joinsInTurn fields = lookupJoins fields := by
  rw [joinsInTurn, foldl_withJoin ((Field.nodup_inCatalogOrder fields).filter _),
    Field.inCatalogOrder_eq, List.filter_filter, lookupJoins]
  refine congrArg (List.map _) (List.filter_congr fun f _ => ?_)
  rw [Bool.and_comm, ← Bool.decide_and]

theorem nodup_qualifiers_lookupJoins (fields : List Field) :
    ((lookupJoins fields).map Join.qualifier).Nodup := by
  rw [lookupJoins, map_qualifier_lookupJoin]
  exact (Field.nodup_all.filter _).map fun _ _ => Field.qualifier_inj

/-- The joins depend only on which fields are asked for. -/
theorem lookupJoins_congr {fields fields' : List Field} (h : ∀ f, f ∈ fields' ↔ f ∈ fields) :
    lookupJoins fields' = lookupJoins fields := by
  simp only [lookupJoins, h]

/-! ### The joins for keys -/

namespace Field

/-- The keys of the catalog. -/
def keys : List String := all.map key

theorem key_mem_keys (f : Field) : f.key ∈ keys := List.mem_map_of_mem f.mem_all

theorem key_mem_map_iff {f : Field} {fields : List Field} :
    f.key ∈ fields.map key ↔ f ∈ fields :=
  List.mem_map_of_injective fun _ _ => key_inj

end Field

theorem resolveFields_map_key (fields : List Field) :
    resolveFields (fields.map Field.key) = .ok fields := by
  induction fields with
  | nil => rfl
  | cons f fields ih => rw [List.map_cons, resolveFields, Field.resolve_key, ih]

/-- Keys are those of some fields, or the first one that is not in the catalog is told. -/
theorem resolveFields_cases (keys : List String) :
    (∃ fields : List Field, keys = fields.map Field.key) ∨
      ∃ key ∈ keys, key ∉ Field.keys ∧ resolveFields keys = .error ⟨key, .catalog⟩ := by
  induction keys with
  | nil => exact .inl ⟨[], rfl⟩
  | cons key rest ih =>
    by_cases hkey : key ∈ Field.keys
    · obtain ⟨f, -, rfl⟩ := List.mem_map.mp hkey
      rcases ih with ⟨fields, rfl⟩ | ⟨key, hmem, hunknown, herror⟩
      · exact .inl ⟨f :: fields, rfl⟩
      · refine .inr ⟨key, List.mem_cons_of_mem _ hmem, hunknown, ?_⟩
        rw [resolveFields, Field.resolve_key, herror]
    · have hnone : Field.ofKey? key = none := by
        refine Option.eq_none_iff_forall_ne_some.mpr fun f hf => hkey ?_
        rw [← Field.key_of_ofKey? hf]
        exact f.key_mem_keys
      refine .inr ⟨key, List.mem_cons_self, hkey, ?_⟩
      rw [resolveFields, Field.resolve, hnone]

theorem lookupJoinsOf_map_key (fields : List Field) :
    lookupJoinsOf (fields.map Field.key) = .ok (lookupJoins fields) := by
  rw [lookupJoinsOf, resolveFields_map_key]
  rfl

/-- Keys that are the same but for order and repetition have the same joins. -/
theorem lookupJoinsOf_eq_of_same_keys {fields : List Field} {keys : List String}
    (h : ∀ key, key ∈ keys ↔ key ∈ fields.map Field.key) :
    lookupJoinsOf keys = .ok (lookupJoins fields) := by
  rcases resolveFields_cases keys with ⟨fields', rfl⟩ | ⟨key, hmem, hunknown, -⟩
  · rw [lookupJoinsOf_map_key, lookupJoins_congr fun f => ?_]
    rw [← Field.key_mem_map_iff, h, Field.key_mem_map_iff]
  · obtain ⟨f, -, rfl⟩ := List.mem_map.mp ((h key).mp hmem)
    exact absurd f.key_mem_keys hunknown

/-- Joins are refused if a key is not in the catalog, and the refusal names such a key. Otherwise
there is one join for each field with at most one label whose key is given, and none for other
fields. The joins stand in catalog order with different qualifiers, as if they were added one after
the other, and keys in another order or number have the same joins. -/
theorem join_list_canonical (keys : List String) :
    ((∃ u, lookupJoinsOf keys = .error u) ↔ ∃ key ∈ keys, key ∉ Field.keys) ∧
    (∀ u, lookupJoinsOf keys = .error u →
      u.scope = .catalog ∧ u.key ∈ keys ∧ u.key ∉ Field.keys) ∧
    ((∀ key ∈ keys, key ∈ Field.keys) → ∃ (fields : List Field) (joins : List Join),
      lookupJoinsOf keys = .ok joins ∧
      joins = fields.map Field.lookupJoin ∧
      (∀ f, f ∈ fields ↔ f.key ∈ keys ∧ f.entry.shape = .lookup) ∧
      fields.Pairwise (·.position < ·.position) ∧
      (joins.map Join.qualifier).Nodup ∧
      joins = joinsInTurn (keys.filterMap Field.ofKey?) ∧
      ∀ keys', (∀ key, key ∈ keys' ↔ key ∈ keys) → lookupJoinsOf keys' = .ok joins) := by
  rcases resolveFields_cases keys with ⟨fields, rfl⟩ | ⟨key, hmem, hunknown, herror⟩
  · have hjoins := lookupJoinsOf_map_key fields
    refine ⟨iff_of_false ?_ ?_, ?_, fun _ => ?_⟩
    · rintro ⟨u, hu⟩
      cases hjoins.symm.trans hu
    · rintro ⟨key, hkey, hunknown⟩
      obtain ⟨f, -, rfl⟩ := List.mem_map.mp hkey
      exact hunknown f.key_mem_keys
    · intro u hu
      cases hjoins.symm.trans hu
    · refine ⟨Field.joinedOf fields, _, hjoins, rfl, fun f => ?_, Field.pairwise_joinedOf fields,
        nodup_qualifiers_lookupJoins fields, ?_, fun _ => lookupJoinsOf_eq_of_same_keys⟩
      · rw [Field.key_mem_map_iff, Field.mem_joinedOf]
      · rw [List.filterMap_map, joinsInTurn_eq]
        refine congrArg lookupJoins (Eq.symm ?_)
        exact (List.filterMap_congr fun f _ => f.ofKey?_key).trans List.filterMap_some
  · have hrefused : lookupJoinsOf keys = .error ⟨key, .catalog⟩ := by
      rw [lookupJoinsOf, herror]
      rfl
    refine ⟨iff_of_true ⟨_, hrefused⟩ ⟨key, hmem, hunknown⟩, fun u hu => ?_, fun hknown => ?_⟩
    · obtain rfl := Except.error.inj (hrefused.symm.trans hu)
      exact ⟨rfl, hmem, hunknown⟩
    · exact absurd (hknown key hmem) hunknown

/-- Keys out of order, with a repetition and a field of several labels among them. -/
theorem join_list_of_sample : ∃ joins,
    lookupJoinsOf ["remote_work", "hard_skills", "city", "remote_work", "title"] = .ok joins ∧
      joins.map Join.qualifier = ["t", "ci", "rw"] ∧
      lookupJoinsOf ["title", "city", "remote_work", "hard_skills"] = .ok joins ∧
      ∃ u, lookupJoinsOf ["title", "nope"] = .error u ∧ u.key ∈ ["title", "nope"] := by
  have hknown : ∀ key ∈ ["remote_work", "hard_skills", "city", "remote_work", "title"],
      key ∈ Field.keys := by decide +kernel
  obtain ⟨-, -, hjoins⟩ :=
    join_list_canonical ["remote_work", "hard_skills", "city", "remote_work", "title"]
  obtain ⟨fields, joins, hok, -, -, -, -, hturn, hsame⟩ := hjoins hknown
  obtain ⟨hrefused, hnames, -⟩ := join_list_canonical ["title", "nope"]
  obtain ⟨u, hu⟩ := hrefused.mpr ⟨"nope", by decide, by decide +kernel⟩
  refine ⟨joins, hok, ?_, hsame _ ?_, u, hu, (hnames u hu).2.1⟩
  · rw [hturn, joinsInTurn_eq]
    decide +kernel
  · simp only [List.mem_cons, List.not_mem_nil, or_false]
    grind

end JobSearch
