import JobSearch.Proofs.Filter.Updates
import JobSearch.Proofs.Matching.Statements

/-!
# More criteria, fewer or more postings

How the postings that match change with the criteria. Requiring all terms finds no more than
requiring one. One more term leaves fewer postings where all terms are required and more where
one is enough, provided there was one before. Whatever the policy, a label more in a field that
may have several leaves fewer postings, and so does a second bound on a quantity; a label more in
a field with at most one label leaves more.

Criteria are compared term by term: if each term of either has a counterpart in the other and
those of one are stronger, fewer postings satisfy it, under both policies (`Stronger.hold`).

## Main definitions

* `Criteria.AddsTerm`, `Criteria.AddsLabels`, `Criteria.AddsBounds` — criteria with more in them.
* `Criteria.Stronger` — criteria whose terms are stronger, one by one.
* `Database.Finds` — the postings that the statement for some criteria finds.
-/

namespace JobSearch

open Query

namespace Criteria

/-! ### Criteria with more in them -/

/-- Criteria with one term more: labels in a field without a selection, or bounds on a quantity
without one. All else is the same. -/
inductive AddsTerm (c d : Criteria) : Prop where
  | labels {f : Field} {selected : List String} (bounds : d.bounds = c.bounds)
    (new : ∀ p ∈ c.active, p.1 ≠ f)
    (active : ∀ p, p ∈ d.active ↔ p = (f, selected) ∨ p ∈ c.active)
  | range {q : Quantity} (new : q ∉ c.ranges) (bounded : q ∈ d.ranges)
    (bounds : ∀ b, b.quantity ≠ q → d.bounds b = c.bounds b)
    (active : ∀ p, p ∈ d.active ↔ p ∈ c.active)

/-- Criteria with more labels selected in a field that has some, all else being the same. -/
structure AddsLabels (c d : Criteria) (f : Field) : Prop where
  bounds : d.bounds = c.bounds
  others : ∀ p : Field × List String, p.1 ≠ f → (p ∈ d.active ↔ p ∈ c.active)
  labels : ∃ before after, (f, before) ∈ c.active ∧ (f, after) ∈ d.active ∧ before ⊆ after

/-- Criteria with more bounds on a quantity that has one, all else being the same. -/
structure AddsBounds (c d : Criteria) (q : Quantity) : Prop where
  bounded : q ∈ c.ranges
  kept : ∀ b x, c.bounds b = some x → d.bounds b = some x
  others : ∀ b, b.quantity ≠ q → d.bounds b = c.bounds b
  active : ∀ p, p ∈ d.active ↔ p ∈ c.active

variable {c d : Criteria}

/-! ### The terms of criteria -/

theorem mem_setBounds {b : Bound} {x : Float} : (b, x) ∈ c.setBounds ↔ c.bounds b = some x := by
  have hall : b ∈ Bound.all := by cases b <;> decide
  rw [setBounds, List.mem_filterMap]
  constructor
  · rintro ⟨b', -, h⟩
    obtain ⟨y, hy, he⟩ := Option.map_eq_some_iff.mp h
    obtain ⟨rfl, rfl⟩ := Prod.mk.inj he
    exact hy
  · intro h
    exact ⟨b, hall, by rw [h]; rfl⟩

theorem mem_ranges {q : Quantity} :
    q ∈ c.ranges ↔ ∃ b x, b.quantity = q ∧ c.bounds b = some x := by
  have hall : q ∈ [Quantity.salary, Quantity.experience] := by cases q <;> simp
  rw [ranges, List.mem_filter, and_iff_right hall, List.any_eq_true]
  constructor
  · rintro ⟨⟨b, x⟩, hmem, hq⟩
    exact ⟨b, x, of_decide_eq_true hq, mem_setBounds.mp hmem⟩
  · rintro ⟨b, x, hq, hx⟩
    exact ⟨(b, x), mem_setBounds.mpr hx, decide_eq_true hq⟩

theorem labels_mem_terms {f : Field} {selected : List String} :
    .labels f selected ∈ c.terms ↔ (f, selected) ∈ c.active := by
  simp [terms]

theorem range_mem_terms {q : Quantity} : .range q ∈ c.terms ↔ q ∈ c.ranges := by
  simp [terms]

/-- A field is active with one selection only. -/
theorem Normal.selected_unique (hc : c.Normal) {f : Field} {selected others : List String}
    (h : (f, selected) ∈ c.active) (h' : (f, others) ∈ c.active) : selected = others := by
  have hfind := (Ordered.find?_eq_some_iff (nodup_active hc)).mpr h
  rw [(Ordered.find?_eq_some_iff (nodup_active hc)).mpr h'] at hfind
  exact (Option.some.inj hfind).symm

variable {db : Database} {j : Row}

theorem holds_range_iff {q : Quantity} :
    (ActiveTerm.range q).Holds db c j ↔
      ∀ b x, b.quantity = q → c.bounds b = some x → b.Admits x (j.cell b.column) := by
  simp only [ActiveTerm.Holds, Prod.forall, mem_setBounds]
  exact forall₂_congr fun b x => ⟨fun h hq hx => h hx hq, fun h hx hq => h hq hx⟩

/-- Bounds on a quantity are as strong as they were if none was changed. -/
theorem holds_range_congr {q : Quantity} (h : ∀ b, b.quantity = q → d.bounds b = c.bounds b) :
    (ActiveTerm.range q).Holds db d j ↔ (ActiveTerm.range q).Holds db c j := by
  rw [holds_range_iff, holds_range_iff]
  exact forall₂_congr fun b x => imp_congr_right fun hq => by rw [h b hq]

theorem ranges_congr (h : d.bounds = c.bounds) : d.ranges = c.ranges := by
  rw [ranges, setBounds, h, ranges, setBounds]

/-! ### Comparing criteria term by term -/

/-- All terms of some criteria hold if those of others do that are as strong. -/
theorem hold_all_of_terms (h : ∀ t ∈ c.terms, ∃ u ∈ d.terms, u.Holds db d j → t.Holds db c j)
    (hd : d.Hold db .all j) : c.Hold db .all j := by
  refine Or.inr fun t ht => ?_
  obtain ⟨u, hu, hut⟩ := h t ht
  rcases hd with hnil | hall
  · exact absurd (hnil ▸ hu) List.not_mem_nil
  · exact hut (hall u hu)

/-- Some term of criteria holds if one of others does and has one that follows from it. -/
theorem hold_any_of_terms (hne : d.terms ≠ [])
    (h : ∀ u ∈ d.terms, ∃ t ∈ c.terms, u.Holds db d j → t.Holds db c j)
    (hd : d.Hold db .any j) : c.Hold db .any j := by
  obtain ⟨u, hu, hhold⟩ := hd.resolve_left hne
  obtain ⟨t, ht, hut⟩ := h u hu
  exact Or.inr ⟨t, ht, hut hhold⟩

/-- Each term of the criteria `c` has one of `d` that is as strong, and each term of `d` is as
strong as one of `c`, as far as a posting is concerned. -/
structure Stronger (db : Database) (j : Row) (c d : Criteria) : Prop where
  has : ∀ t ∈ c.terms, ∃ u ∈ d.terms, u.Holds db d j → t.Holds db c j
  covers : ∀ u ∈ d.terms, ∃ t ∈ c.terms, u.Holds db d j → t.Holds db c j

/-- Stronger criteria are satisfied by fewer postings, under both policies. -/
theorem Stronger.hold (h : Stronger db j c d) (policy : Policy) (hd : d.Hold db policy j) :
    c.Hold db policy j := by
  cases policy with
  | all => exact hold_all_of_terms h.has hd
  | any =>
    by_cases hne : d.terms = []
    · left
      by_contra hc
      obtain ⟨t, ht⟩ := List.exists_mem_of_ne_nil _ hc
      obtain ⟨u, hu, -⟩ := h.has t ht
      exact absurd (hne ▸ hu) List.not_mem_nil
    · exact hold_any_of_terms hne h.covers hd

/-! ### Both policies -/

theorem hold_any_of_all (h : c.Hold db .all j) : c.Hold db .any j := by
  by_cases hnil : c.terms = []
  · exact Or.inl hnil
  · obtain ⟨t, ht⟩ := List.exists_mem_of_ne_nil _ hnil
    exact Or.inr ⟨t, ht, h.resolve_left hnil t ht⟩

/-- With one term at most the policies do not differ. -/
theorem hold_all_of_any (hone : c.terms.length ≤ 1) (h : c.Hold db .any j) :
    c.Hold db .all j := by
  refine h.imp_right ?_
  rintro ⟨t, ht, hhold⟩ u hu
  obtain ⟨s, hs⟩ := List.length_eq_one_iff.mp
    (Nat.le_antisymm hone (List.length_pos_of_mem ht))
  rw [hs, List.mem_singleton] at ht hu
  exact hu ▸ ht ▸ hhold

/-! ### One term more -/

/-- What was a term stays one, as strong as it was. -/
theorem AddsTerm.kept (h : c.AddsTerm d) {t : ActiveTerm} (ht : t ∈ c.terms) :
    t ∈ d.terms ∧ (t.Holds db d j ↔ t.Holds db c j) := by
  cases h with
  | labels hbounds _ hactive =>
    cases t with
    | labels f selected =>
      have hmem := labels_mem_terms.mp ht
      exact ⟨labels_mem_terms.mpr ((hactive _).mpr (Or.inr hmem)), Iff.rfl⟩
    | range q =>
      have hmem := range_mem_terms.mp ht
      exact ⟨range_mem_terms.mpr (ranges_congr hbounds ▸ hmem),
        holds_range_congr fun b _ => by rw [hbounds]⟩
  | range hnew _ hbounds hactive =>
    cases t with
    | labels f selected =>
      have hmem := labels_mem_terms.mp ht
      exact ⟨labels_mem_terms.mpr ((hactive _).mpr hmem), Iff.rfl⟩
    | range q =>
      have hmem := range_mem_terms.mp ht
      have hother : ∀ b : Bound, b.quantity = q → d.bounds b = c.bounds b := fun b hb =>
        hbounds b fun he => hnew (he ▸ hb ▸ hmem)
      obtain ⟨b, x, hb, hx⟩ := mem_ranges.mp hmem
      exact ⟨range_mem_terms.mpr (mem_ranges.mpr ⟨b, x, hb, (hother b hb).trans hx⟩),
        holds_range_congr hother⟩

theorem AddsTerm.hold_all (h : c.AddsTerm d) (hd : d.Hold db .all j) : c.Hold db .all j := by
  refine hold_all_of_terms (fun t ht => ?_) hd
  have hkept : t ∈ d.terms ∧ (t.Holds db d j ↔ t.Holds db c j) := h.kept ht
  exact ⟨t, hkept.1, hkept.2.mp⟩

theorem AddsTerm.hold_any (h : c.AddsTerm d) (hne : c.terms ≠ []) (hc : c.Hold db .any j) :
    d.Hold db .any j := by
  refine hold_any_of_terms hne (fun t ht => ?_) hc
  have hkept : t ∈ d.terms ∧ (t.Holds db d j ↔ t.Holds db c j) := h.kept ht
  exact ⟨t, hkept.1, hkept.2.mpr⟩

/-! ### More labels in a field -/

/-- A term of criteria, and the one in its place when more labels are selected in a field. -/
def Grown (f : Field) (t u : ActiveTerm) : Prop :=
  t = u ∨ ∃ before after, before ⊆ after ∧ t = .labels f before ∧ u = .labels f after

theorem AddsLabels.has (hc : c.Normal) {f : Field} (h : c.AddsLabels d f) {t : ActiveTerm}
    (ht : t ∈ c.terms) : ∃ u ∈ d.terms, Grown f t u := by
  obtain ⟨before, after, hbefore, hafter, hsub⟩ := h.labels
  cases t with
  | labels g selected =>
    have hmem := labels_mem_terms.mp ht
    by_cases hg : g = f
    · subst hg
      obtain rfl := hc.selected_unique hmem hbefore
      exact ⟨_, labels_mem_terms.mpr hafter, Or.inr ⟨_, after, hsub, rfl, rfl⟩⟩
    · exact ⟨_, labels_mem_terms.mpr ((h.others _ hg).mpr hmem), Or.inl rfl⟩
  | range q =>
    exact ⟨_, range_mem_terms.mpr (ranges_congr h.bounds ▸ range_mem_terms.mp ht), Or.inl rfl⟩

theorem AddsLabels.covers (hd : d.Normal) {f : Field} (h : c.AddsLabels d f) {u : ActiveTerm}
    (hu : u ∈ d.terms) : ∃ t ∈ c.terms, Grown f t u := by
  obtain ⟨before, after, hbefore, hafter, hsub⟩ := h.labels
  cases u with
  | labels g selected =>
    have hmem := labels_mem_terms.mp hu
    by_cases hg : g = f
    · subst hg
      obtain rfl := hd.selected_unique hmem hafter
      exact ⟨_, labels_mem_terms.mpr hbefore, Or.inr ⟨before, _, hsub, rfl, rfl⟩⟩
    · exact ⟨_, labels_mem_terms.mpr ((h.others _ hg).mp hmem), Or.inl rfl⟩
  | range q =>
    exact ⟨_, range_mem_terms.mpr (ranges_congr h.bounds ▸ range_mem_terms.mp hu), Or.inl rfl⟩

theorem holds_congr_of_bounds (h : d.bounds = c.bounds) (t : ActiveTerm) :
    t.Holds db d j ↔ t.Holds db c j := by
  cases t with
  | labels f selected => exact Iff.rfl
  | range q => exact holds_range_congr fun b _ => by rw [h]

/-- In a field that may have several labels, all of the selected ones are required. -/
theorem holds_of_grown {f : Field} (hf : f.isMultiValued = true) (hbounds : d.bounds = c.bounds)
    {t u : ActiveTerm} (h : Grown f t u) (hu : u.Holds db d j) : t.Holds db c j := by
  rcases h with rfl | ⟨before, after, hsub, rfl, rfl⟩
  · exact (holds_congr_of_bounds hbounds t).mp hu
  · simp only [ActiveTerm.Holds, Database.Admits, hf, if_true] at hu ⊢
    exact fun l hl => hu l (hsub hl)

/-- In a field with at most one label, one of the selected ones is enough. -/
theorem grown_holds {f : Field} (hf : f.isMultiValued = false) (hbounds : d.bounds = c.bounds)
    {t u : ActiveTerm} (h : Grown f t u) (ht : t.Holds db c j) : u.Holds db d j := by
  rcases h with rfl | ⟨before, after, hsub, rfl, rfl⟩
  · exact (holds_congr_of_bounds hbounds t).mpr ht
  · simp only [ActiveTerm.Holds, Database.Admits, hf] at ht ⊢
    obtain ⟨l, hl, hcarries⟩ := ht
    exact ⟨l, hsub hl, hcarries⟩

theorem AddsLabels.stronger (hc : c.Normal) (hd : d.Normal) {f : Field} (h : c.AddsLabels d f)
    (hf : f.isMultiValued = true) : Stronger db j c d := by
  refine ⟨fun t ht => ?_, fun u hu => ?_⟩
  · obtain ⟨u, hu, hgrown⟩ := h.has hc ht
    exact ⟨u, hu, holds_of_grown hf h.bounds hgrown⟩
  · obtain ⟨t, ht, hgrown⟩ := h.covers hd hu
    exact ⟨t, ht, holds_of_grown hf h.bounds hgrown⟩

theorem AddsLabels.weaker (hc : c.Normal) (hd : d.Normal) {f : Field} (h : c.AddsLabels d f)
    (hf : f.isMultiValued = false) : Stronger db j d c := by
  refine ⟨fun u hu => ?_, fun t ht => ?_⟩
  · obtain ⟨t, ht, hgrown⟩ := h.covers hd hu
    exact ⟨t, ht, grown_holds hf h.bounds hgrown⟩
  · obtain ⟨u, hu, hgrown⟩ := h.has hc ht
    exact ⟨u, hu, grown_holds hf h.bounds hgrown⟩

/-! ### More bounds on a quantity -/

theorem AddsBounds.mem_ranges_iff {q : Quantity} (h : c.AddsBounds d q) (r : Quantity) :
    r ∈ d.ranges ↔ r ∈ c.ranges := by
  constructor
  · intro hr
    by_cases hrq : r = q
    · exact hrq ▸ h.bounded
    · obtain ⟨b, x, hb, hx⟩ := mem_ranges.mp hr
      exact mem_ranges.mpr ⟨b, x, hb, (h.others b (hb ▸ hrq)) ▸ hx⟩
  · intro hr
    obtain ⟨b, x, hb, hx⟩ := mem_ranges.mp hr
    exact mem_ranges.mpr ⟨b, x, hb, h.kept b x hx⟩

theorem AddsBounds.mem_terms_iff {q : Quantity} (h : c.AddsBounds d q) (t : ActiveTerm) :
    t ∈ d.terms ↔ t ∈ c.terms := by
  cases t with
  | labels f selected => rw [labels_mem_terms, labels_mem_terms, h.active]
  | range r => rw [range_mem_terms, range_mem_terms, h.mem_ranges_iff]

/-- All bounds that there were still have to be kept. -/
theorem AddsBounds.holds {q : Quantity} (h : c.AddsBounds d q) {t : ActiveTerm}
    (ht : t.Holds db d j) : t.Holds db c j := by
  cases t with
  | labels f selected => exact ht
  | range r =>
    rw [holds_range_iff] at ht ⊢
    exact fun b x hb hx => ht b x hb (h.kept b x hx)

theorem AddsBounds.stronger {q : Quantity} (h : c.AddsBounds d q) : Stronger db j c d :=
  ⟨fun t ht => ⟨t, (h.mem_terms_iff t).mpr ht, h.holds⟩,
    fun t ht => ⟨t, (h.mem_terms_iff t).mp ht, h.holds⟩⟩

/-! ### Updates that add -/

theorem addsTerm_select (hc : c.Normal) {f : Field} (hf : f.key ∉ c.activeFields)
    {selected : List String} (hne : selected ≠ []) : c.AddsTerm (c.select f.key selected) := by
  have hnew : ∀ p ∈ c.active, p.1 ≠ f := by
    rintro ⟨g, labels⟩ hp rfl
    exact hf (List.mem_map.mpr ⟨_, mem_active.mp hp, rfl⟩)
  have hactive : ∀ p, p ∈ (c.select f.key selected).active ↔ p = (f, selected) ∨ p ∈ c.active := by
    intro p
    rw [mem_active_select hc f hne, active_withoutField, List.mem_filter, decide_eq_true_iff]
    exact or_congr_right (and_iff_left_of_imp (hnew p))
  exact .labels (bounds_select f.key selected) hnew hactive

theorem addsLabels_select (hc : c.Normal) {f : Field} {before after : List String}
    (hbefore : (f, before) ∈ c.active) (hsub : before ⊆ after) :
    c.AddsLabels (c.select f.key after) f := by
  have hne : after ≠ [] := by
    obtain ⟨l, hl⟩ := List.exists_mem_of_ne_nil _ (hc.labels_ne_nil _ (mem_active.mp hbefore))
    exact List.ne_nil_of_mem (hsub hl)
  refine ⟨bounds_select f.key after, fun p hp => ?_, before, after, hbefore, ?_, hsub⟩
  · rw [mem_active_select hc f hne, active_withoutField, List.mem_filter, decide_eq_true_iff,
      and_iff_left hp, or_iff_right]
    rintro rfl
    exact hp rfl
  · exact (mem_active_select hc f hne _).mpr (Or.inl rfl)

/-- A label in a field without a selection is a term more. -/
theorem addsTerm_withLabel (hc : c.Normal) {f : Field} (hf : f.key ∉ c.activeFields) {v : Json}
    (hv : v.isNoLabel = false) : c.AddsTerm (c.withLabel f.key v) := by
  have hnone : c.labelsFor f.key = [] := by
    by_contra hne
    exact hf ((hc.mem_activeFields_iff f.key).mpr hne)
  refine addsTerm_select hc hf ?_
  rw [hnone]
  simp [labelsOfItems, hv, distinct]

/-- A label in a field with a selection is one label more. -/
theorem addsLabels_withLabel (hc : c.Normal) {f : Field} {before : List String}
    (hbefore : (f, before) ∈ c.active) (v : Json) : c.AddsLabels (c.withLabel f.key v) f := by
  have hmem := mem_active.mp hbefore
  have hlabels : c.labelsFor f.key = before := by
    rw [labelsFor, (Ordered.find?_eq_some_iff hc.fields_nodup).mpr hmem]
    rfl
  refine addsLabels_select hc hbefore fun l hl => ?_
  have hne : l ≠ "" := fun he => hc.label_ne_empty _ hmem (he ▸ hl)
  rw [hlabels, labelsOfItems, mem_distinct, List.mem_map]
  exact ⟨.text l, List.mem_filter.mpr ⟨by simp [hl], by simpa [Json.isNoLabel] using hne⟩, rfl⟩

/-- A bound on a quantity without one is a term more. -/
theorem addsTerm_setBound {b : Bound} (hnew : b.quantity ∉ c.ranges) (x : Float) :
    c.AddsTerm (c.setBound b (some x)) := by
  refine .range hnew (mem_ranges.mpr ⟨b, x, rfl, if_pos rfl⟩) (fun b' hb' => if_neg ?_)
    fun _ => Iff.rfl
  exact fun he => hb' (congrArg Bound.quantity he)

/-- The second bound on a quantity is one bound more. -/
theorem addsBounds_setBound {b : Bound} (hq : b.quantity ∈ c.ranges) (hb : c.bounds b = none)
    (x : Float) : c.AddsBounds (c.setBound b (some x)) b.quantity := by
  refine ⟨hq, fun b' y hy => ?_, fun b' hb' => if_neg ?_, fun _ => Iff.rfl⟩
  · refine (if_neg ?_).trans hy
    rintro rfl
    rw [hb] at hy
    cases hy
  · exact fun he => hb' (congrArg Bound.quantity he)

end Criteria

/-! ### The postings that are found -/

namespace Database

variable {db : Database} {c d : Criteria} {search : String}

/-- The postings found for criteria, search text and policy: those that the statement which
counts them ranges over. -/
def Finds (db : Database) (c : Criteria) (search : String) (policy : Policy) (js : List Row) :
    Prop :=
  ∃ p, Predicate.compile c search policy none = .ok p ∧ (Statement.count p).ranged db = .ok js

theorem Conforms.finds_matching (hdb : db.Conforms) (hc : c.Normal) (hf : c.Filterable)
    (search : String) (policy : Policy) :
    db.Finds c search policy (db.matching c search policy) :=
  ⟨_, Predicate.compile_eq_ok hf search policy, ranged_of_kept (hdb.kept_count hc search policy)⟩

/-- Where criteria are satisfied whenever others are, all postings that match those match them,
in the same order. -/
theorem matching_sublist {policy policy' : Policy}
    (h : ∀ j, c.Hold db policy j → d.Hold db policy' j) :
    (db.matching c search policy).Sublist (db.matching d search policy') := by
  refine List.monotone_filter_right _ fun j hj => ?_
  exact decide_eq_true ((of_decide_eq_true hj).imp_left (h j))

theorem matching_congr {policy policy' : Policy}
    (h : ∀ j, c.Hold db policy j ↔ d.Hold db policy' j) :
    db.matching c search policy = db.matching d search policy' :=
  List.filter_congr fun j _ => decide_eq_decide.mpr (and_congr_left' (h j))

/-- How the postings that are found change with the policy and with the criteria. -/
theorem matching_monotone (hdb : db.Conforms) (hc : c.Normal) (hcf : c.Filterable)
    (hd : d.Normal) (hdf : d.Filterable) (search : String) :
    (∀ policy, db.Finds c search policy (db.matching c search policy) ∧
      db.Finds d search policy (db.matching d search policy)) ∧
    (db.matching c search .all).Sublist (db.matching c search .any) ∧
    (c.terms.length ≤ 1 → db.matching c search .all = db.matching c search .any) ∧
    (c.AddsTerm d → (db.matching d search .all).Sublist (db.matching c search .all) ∧
      (c.terms ≠ [] → (db.matching c search .any).Sublist (db.matching d search .any))) ∧
    (∀ f, c.AddsLabels d f → f.isMultiValued = true → ∀ policy,
      (db.matching d search policy).Sublist (db.matching c search policy)) ∧
    (∀ q, c.AddsBounds d q → ∀ policy,
      (db.matching d search policy).Sublist (db.matching c search policy)) ∧
    ∀ f, c.AddsLabels d f → f.isMultiValued = false → ∀ policy,
      (db.matching c search policy).Sublist (db.matching d search policy) := by
  refine ⟨fun policy => ⟨hdb.finds_matching hc hcf search policy,
      hdb.finds_matching hd hdf search policy⟩, ?_, ?_, ?_, ?_, ?_, ?_⟩
  · exact matching_sublist fun j => Criteria.hold_any_of_all
  · intro hone
    exact matching_congr fun j => ⟨Criteria.hold_any_of_all, Criteria.hold_all_of_any hone⟩
  · intro hadds
    exact ⟨matching_sublist fun j => hadds.hold_all,
      fun hne => matching_sublist fun j => hadds.hold_any hne⟩
  · intro f hadds hf policy
    exact matching_sublist fun j => (hadds.stronger hc hd hf).hold policy
  · intro q hadds policy
    exact matching_sublist fun j => hadds.stronger.hold policy
  · intro f hadds hf policy
    exact matching_sublist fun j => (hadds.weaker hc hd hf).hold policy

/-- A second skill leaves one of the three postings of the small dataset. -/
theorem matching_monotone_sample :
    let d := Criteria.sample.withLabel "hard_skills" (.text "cutting")
    (∀ policy, (Dataset.sample.database.matching d "" policy).Sublist
      (Dataset.sample.database.matching .sample "" policy)) ∧
    (Dataset.sample.database.matching .sample "" .all).length = 3 ∧
    (Dataset.sample.database.matching d "" .all).length = 1 := by
  have hskills : (Field.hardSkills, ["welding"]) ∈ Criteria.sample.active := by decide
  have hd : (Criteria.sample.withLabel Field.hardSkills.key (.text "cutting")).Normal :=
    Criteria.normal_sample.apply (u := .withLabel "hard_skills" (.text "cutting")) rfl
  have hdf : (Criteria.sample.withLabel Field.hardSkills.key (.text "cutting")).Filterable :=
    Criteria.filterable_sample
  obtain ⟨-, -, -, -, hnarrow, -, -⟩ := matching_monotone Dataset.storable_sample.conforms
    Criteria.normal_sample Criteria.filterable_sample hd hdf ""
  refine ⟨hnarrow .hardSkills ?_ rfl, ?_, ?_⟩
  · exact Criteria.addsLabels_withLabel Criteria.normal_sample hskills _
  · decide +kernel
  · decide +kernel

end Database

end JobSearch
