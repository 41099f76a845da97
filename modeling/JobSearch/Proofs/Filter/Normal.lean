import JobSearch.Filter.Criteria
import JobSearch.Proofs.Catalog.Keys
import JobSearch.Proofs.Ordered
import JobSearch.Query.Predicate

/-!
# Criteria in normal form

Criteria list each field once, with at least one label, each label once and none empty. On
criteria in normal form with fields that postings can be filtered by, resolving the keys gives
the fields with their labels (`Predicate.resolveAll_eq_ok`), and leaving a field out is the same
as having no selection in it (`Predicate.compile_exclude`).

## Main definitions

* `Criteria.Normal` — criteria in normal form.
* `Criteria.Filterable` — postings can be filtered by all fields of the criteria.
* `Criteria.Countable` — the numbers of selected labels fit the storage.
* `Criteria.active` — the fields of the criteria with their labels.
-/

namespace JobSearch

namespace Criteria

/-- Criteria in normal form. -/
structure Normal (c : Criteria) : Prop where
  fields_nodup : c.activeFields.Nodup
  labels_ne_nil : ∀ p ∈ c.selections, p.2 ≠ []
  labels_nodup : ∀ p ∈ c.selections, p.2.Nodup
  label_ne_empty : ∀ p ∈ c.selections, "" ∉ p.2

/-- Postings can be filtered by every field with a selected label. -/
def Filterable (c : Criteria) : Prop :=
  ∀ key ∈ c.activeFields, ∃ f, Field.resolveFilterable key = .ok f

/-- The number of labels selected in a field, which is a value of a statement, fits the
storage. -/
def Countable (c : Criteria) : Prop := ∀ p ∈ c.selections, p.2.length < Number.twoTo 63

/-- The fields with a selected label, with their labels, in the order of the criteria. -/
def active (c : Criteria) : List (Field × List String) :=
  c.selections.filterMap fun p => (Field.ofKey? p.1).map fun f => (f, p.2)

variable {c : Criteria}

theorem mem_active {f : Field} {labels : List String} :
    (f, labels) ∈ c.active ↔ (f.key, labels) ∈ c.selections := by
  rw [active, List.mem_filterMap]
  constructor
  · rintro ⟨⟨key, ls⟩, hp, he⟩
    obtain ⟨g, hg, he⟩ := Option.map_eq_some_iff.mp he
    obtain ⟨rfl, rfl⟩ := Prod.mk.inj he
    rw [Field.ofKey?_eq_some_iff.mp hg]
    exact hp
  · intro h
    exact ⟨_, h, by rw [Field.ofKey?_key]; rfl⟩

/-- A field is active with the labels selected under its key. -/
theorem find?_active (c : Criteria) (f : Field) :
    Ordered.find? f c.active = Ordered.find? f.key c.selections := by
  rw [active]
  induction c.selections with
  | nil => rfl
  | cons p rest ih =>
    obtain ⟨key, labels⟩ := p
    cases h : Field.ofKey? key with
    | none =>
      have hne : key ≠ f.key := by
        rintro rfl
        simp [Field.ofKey?_key] at h
      rw [Ordered.find?, if_neg hne, ← ih, List.filterMap_cons_none (by simp [h])]
    | some g =>
      have hkey := Field.key_of_ofKey? h
      rw [List.filterMap_cons_some (b := (g, labels)) (by simp [h]), Ordered.find?, Ordered.find?,
        ih]
      by_cases hg : g = f
      · simp [hg, ← hkey]
      · have hne : key ≠ f.key := fun he => hg (Field.key_inj (hkey.trans he))
        simp [hg, hne]

theorem nodup_active (hc : c.Normal) : (c.active.map (·.1)).Nodup := by
  refine List.Nodup.of_map Field.key (List.Nodup.sublist ?_ hc.fields_nodup)
  rw [activeFields, active]
  induction c.selections with
  | nil => simp
  | cons p rest ih =>
    cases h : Field.ofKey? p.1 with
    | none => simpa [List.filterMap_cons, h] using ih.cons p.1
    | some f =>
      have hk := Field.ofKey?_eq_some_iff.mp h
      simpa [List.filterMap_cons, h, hk] using ih

theorem selections_select (key : String) {labels : List String} (hne : labels ≠ []) :
    (c.select key labels).selections = Ordered.insert key labels c.selections := by
  cases labels with
  | nil => exact absurd rfl hne
  | cons l rest => rfl

theorem bounds_select (key : String) (labels : List String) :
    (c.select key labels).bounds = c.bounds := by
  cases labels <;> rfl

/-- Criteria stay in normal form without a field. -/
theorem Normal.withoutField (hc : c.Normal) (key : String) : (c.withoutField key).Normal := by
  have hsub : ∀ p ∈ (c.withoutField key).selections, p ∈ c.selections :=
    fun p hp => (Ordered.mem_erase.mp hp).1
  exact ⟨Ordered.nodup_erase hc.fields_nodup key, fun p hp => hc.labels_ne_nil p (hsub p hp),
    fun p hp => hc.labels_nodup p (hsub p hp), fun p hp => hc.label_ne_empty p (hsub p hp)⟩

theorem Filterable.withoutField (hc : c.Filterable) (key : String) :
    (c.withoutField key).Filterable := by
  intro k hk
  obtain ⟨p, hp, rfl⟩ := List.mem_map.mp hk
  exact hc p.1 (List.mem_map.mpr ⟨p, (Ordered.mem_erase.mp hp).1, rfl⟩)

theorem Countable.withoutField (hc : c.Countable) (key : String) :
    (c.withoutField key).Countable :=
  fun p hp => hc p (Ordered.mem_erase.mp hp).1

/-- Criteria stay in normal form when other labels, distinct and none empty, are selected in a
field. -/
theorem Normal.select (hc : c.Normal) (key : String) {labels : List String} (hne : labels ≠ [])
    (hn : labels.Nodup) (hempty : "" ∉ labels) : (c.select key labels).Normal := by
  have hselections := selections_select (c := c) key hne
  refine ⟨?_, fun p hp => ?_, fun p hp => ?_, fun p hp => ?_⟩
  · rw [activeFields, hselections]
    exact Ordered.nodup_insert hc.fields_nodup key labels
  all_goals
    rw [hselections] at hp
    rcases (Ordered.mem_insert hc.fields_nodup).mp hp with rfl | ⟨hp, -⟩
  · exact hne
  · exact hc.labels_ne_nil p hp
  · exact hn
  · exact hc.labels_nodup p hp
  · exact hempty
  · exact hc.label_ne_empty p hp

/-- A field that postings can be filtered by may be added to the criteria. -/
theorem Filterable.select (hfields : c.Filterable) (hc : c.Normal) {f : Field}
    (hf : f.entry.filterable = true) {labels : List String} (hne : labels ≠ []) :
    (c.select f.key labels).Filterable := by
  intro key hkey
  rw [activeFields, selections_select f.key hne] at hkey
  obtain ⟨p, hp, rfl⟩ := List.mem_map.mp hkey
  rcases (Ordered.mem_insert hc.fields_nodup).mp hp with rfl | ⟨hp, -⟩
  · exact ⟨f, Field.resolveFilterable_key hf⟩
  · exact hfields p.1 (List.mem_map.mpr ⟨p, hp, rfl⟩)

theorem Countable.select (hcount : c.Countable) (hc : c.Normal) (key : String)
    {labels : List String} (hne : labels ≠ []) (hlt : labels.length < Number.twoTo 63) :
    (c.select key labels).Countable := by
  intro p hp
  rw [selections_select key hne] at hp
  rcases (Ordered.mem_insert hc.fields_nodup).mp hp with rfl | ⟨hp, -⟩
  · exact hlt
  · exact hcount p hp

/-- Criteria without a field have the same active fields but for that one. -/
theorem active_withoutField (c : Criteria) (f : Field) :
    (c.withoutField f.key).active = c.active.filter fun p => p.1 ≠ f := by
  simp only [active, withoutField, Ordered.erase, List.filter_filterMap, List.filterMap_filter]
  refine List.filterMap_congr fun p _ => ?_
  cases h : Field.ofKey? p.1 with
  | none => simp
  | some g =>
    have hk := Field.ofKey?_eq_some_iff.mp h
    by_cases hg : g = f
    · simp [hg, ← hk, Option.filter]
    · have : p.1 ≠ f.key := fun he => hg (Field.key_inj (hk.trans he))
      simp [hg, this, Option.filter]

/-- Criteria with other labels selected in a field are active in that field, and in all others
as before. -/
theorem mem_active_select (hc : c.Normal) (f : Field) {labels : List String} (hne : labels ≠ [])
    (p : Field × List String) :
    p ∈ (c.select f.key labels).active ↔ p = (f, labels) ∨ p ∈ (c.withoutField f.key).active := by
  obtain ⟨g, ls⟩ := p
  rw [active_withoutField, List.mem_filter, mem_active, mem_active, selections_select f.key hne,
    Ordered.mem_insert hc.fields_nodup, decide_eq_true_iff, Prod.mk.injEq, Prod.mk.injEq]
  have hkey : g.key = f.key ↔ g = f := ⟨Field.key_inj, congrArg Field.key⟩
  simp only [ne_eq, hkey]

/-! ### Some criteria -/

theorem normal_empty : empty.Normal := by
  constructor <;> decide

theorem filterable_empty : empty.Filterable := fun _ hkey => nomatch hkey

theorem countable_empty : empty.Countable := fun _ hp => nomatch hp

/-- Two cities and a skill. -/
def sample : Criteria :=
  ⟨[("city", ["Bergen", "Oslo"]), ("hard_skills", ["welding"])], fun _ => none⟩

theorem normal_sample : sample.Normal := by
  constructor <;> decide

theorem filterable_sample : sample.Filterable := by
  have hcity : Field.resolveFilterable "city" = .ok .city :=
    Field.resolveFilterable_eq_ok_iff.mpr ⟨rfl, rfl⟩
  have hskills : Field.resolveFilterable "hard_skills" = .ok .hardSkills :=
    Field.resolveFilterable_eq_ok_iff.mpr ⟨rfl, rfl⟩
  intro key hkey
  rcases List.mem_pair.mp hkey with rfl | rfl
  · exact ⟨_, hcity⟩
  · exact ⟨_, hskills⟩

theorem countable_sample : sample.Countable := by
  rw [Countable]
  decide

end Criteria

/-! ### Resolving the fields of criteria -/

namespace Predicate

variable {c : Criteria}

theorem resolveAll_eq_ok (hc : c.Filterable) : resolveAll c.selections = .ok c.active := by
  rw [Criteria.Filterable, Criteria.activeFields] at hc
  rw [Criteria.active]
  generalize c.selections = selections at hc ⊢
  induction selections with
  | nil => rfl
  | cons p rest ih =>
    obtain ⟨key, labels⟩ := p
    obtain ⟨f, hf⟩ := hc key (by simp)
    have hk := (Field.resolveFilterable_eq_ok_iff.mp hf).1
    rw [resolveAll, hf, ih fun k hk => hc k (List.mem_cons_of_mem _ hk)]
    simp [← hk, Field.ofKey?_key]

/-- Only the fields of criteria that postings can be filtered by are resolved. -/
theorem filterable_of_resolveAll {selected : List (Field × List String)}
    (h : resolveAll c.selections = .ok selected) : c.Filterable := by
  rw [Criteria.Filterable, Criteria.activeFields]
  generalize c.selections = selections at h ⊢
  induction selections generalizing selected with
  | nil => simp
  | cons p rest ih =>
    rw [resolveAll] at h
    split at h
    · cases h
    · next f hf =>
      split at h
      · cases h
      · next more hmore => exact List.forall_mem_cons.mpr ⟨⟨f, hf⟩, ih hmore⟩

/-- The fields of the catalog with their labels, those without a label left out. -/
theorem mem_inCatalogOrder {selected : List (Field × List String)}
    (hn : (selected.map (·.1)).Nodup) {f : Field} {labels : List String} :
    (f, labels) ∈ inCatalogOrder selected none ↔ (f, labels) ∈ selected := by
  rw [inCatalogOrder, List.mem_filterMap]
  constructor
  · rintro ⟨g, -, hg⟩
    obtain ⟨ls, hls, he⟩ := Option.map_eq_some_iff.mp hg
    obtain ⟨rfl, rfl⟩ := Prod.mk.inj he
    exact Ordered.mem_of_find?_eq_some hls
  · intro h
    refine ⟨f, by simp [f.mem_all], ?_⟩
    rw [(Ordered.find?_eq_some_iff hn).mpr h]
    rfl

theorem find?_filter_ne (selected : List (Field × List String)) (f g : Field) :
    Ordered.find? g (selected.filter fun p => p.1 ≠ f) =
      if g = f then none else Ordered.find? g selected :=
  Ordered.find?_erase f g selected

/-- Leaving a field out of the catalog order is leaving out its selection. -/
theorem inCatalogOrder_exclude (selected : List (Field × List String)) (f : Field) :
    inCatalogOrder selected (some f) = inCatalogOrder (selected.filter fun p => p.1 ≠ f) none := by
  simp only [inCatalogOrder, List.filterMap_filter, find?_filter_ne]
  refine List.filterMap_congr fun g _ => ?_
  by_cases h : f = g
  · simp [h]
  · simp [h, Ne.symm h]

/-- The fields of criteria without one of the fields that postings can be filtered by; a key
that cannot be resolved is met in either case. -/
theorem resolveAll_erase {f : Field} (hf : f.entry.filterable = true) (selections : Selections) :
    resolveAll (Ordered.erase f.key selections) =
      (resolveAll selections).map fun selected => selected.filter fun p => p.1 ≠ f := by
  induction selections with
  | nil => rfl
  | cons p rest ih =>
    obtain ⟨key, labels⟩ := p
    by_cases hk : key = f.key
    · have he : Ordered.erase f.key ((key, labels) :: rest) = Ordered.erase f.key rest := by
        simp [Ordered.erase, hk]
      rw [he, ih, resolveAll, hk, Field.resolveFilterable_key hf]
      cases resolveAll rest with
      | error u => rfl
      | ok more => simp [Except.map]
    · have he : Ordered.erase f.key ((key, labels) :: rest) =
          (key, labels) :: Ordered.erase f.key rest := by
        simp [Ordered.erase, hk]
      rw [he, resolveAll, resolveAll, ih]
      cases hg : Field.resolveFilterable key with
      | error u => rfl
      | ok g =>
        have hne : g ≠ f := by
          rintro rfl
          exact hk (Field.resolveFilterable_eq_ok_iff.mp hg).1.symm
        cases resolveAll rest with
        | error u => rfl
        | ok more => simp [Except.map, hne]

/-- Leaving out a field while compiling is compiling without a selection in it. -/
theorem compile_exclude {f : Field} (hf : f.entry.filterable = true) (c : Criteria)
    (search : String) (policy : Policy) :
    compile c search policy (some f.key) = compile (c.withoutField f.key) search policy none := by
  simp only [compile, resolveExcluded, Field.resolveFilterable_key hf, Except.map,
    Criteria.withoutField, resolveAll_erase hf]
  cases resolveAll c.selections with
  | error u => rfl
  | ok selected => simp only [inCatalogOrder_exclude]; rfl

end Predicate

end JobSearch
