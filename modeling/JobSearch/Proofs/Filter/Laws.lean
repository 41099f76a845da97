import JobSearch.Proofs.Filter.Order
import JobSearch.Proofs.Filter.Updates

/-!
# Laws of updates

Updates of criteria behave like updates of a mapping. A label that is selected already is not
selected again, one that is selected and given up leaves nothing behind, and nor does a bound that
is set and taken back. Updates of different fields may be made in either order, and so may updates
of a field and of a bound: the criteria are equal but for the order in which fields are listed
(`updates_obey_laws`).

Every update of a field selects other labels in it, which depend on no other field
(`Update.Selects.exists_select`), so the laws come down to those of `Criteria.select`.

## Main definitions

* `Criteria.Equal` — equality of criteria.
* `Criteria.Update.Selects` — updates of the labels selected in a field.
* `Criteria.Laws` — the laws.
-/

namespace JobSearch

namespace Criteria

variable {c d : Criteria} {field : String}

/-! ### Equal criteria -/

/-- Criteria are equal if they are the same up to the order of their fields. Comparing them says
so too, unless a bound is no number. -/
structure Equal (c d : Criteria) : Prop where
  same : c.Same d
  agrees : (∀ b x, c.bounds b = some x → x.isNaN = false) → c.agrees d = true

theorem Same.refl (c : Criteria) : c.Same c := ⟨.refl _, rfl⟩

theorem Same.equal (h : c.Same d) (hn : c.activeFields.Nodup) : c.Equal d := by
  refine ⟨h, fun hnumber => ?_⟩
  rw [Criteria.agrees, Bool.and_eq_true, Bool.and_eq_true, ← h.bounds]
  refine ⟨⟨beq_iff_eq.mpr h.selections.length_eq, List.all_eq_true.mpr fun p hp => ?_⟩,
    List.all_eq_true.mpr fun b _ => ?_⟩
  · rw [← Ordered.find?_perm hn h.selections, (Ordered.find?_eq_some_iff hn).mpr hp]
    exact beq_self_eq_true _
  · cases hb : c.bounds b with
    | none => rfl
    | some x => exact beq_self_of_isNaN (hnumber b x hb)

theorem Equal.refl (hn : c.activeFields.Nodup) : c.Equal c := (Same.refl c).equal hn

/-! ### Selecting other labels -/

/-- Selecting labels in a field lists them under the field, if there are any, and leaves all other
fields as they are. -/
theorem mem_selections_select (hn : c.activeFields.Nodup) (field : String) (labels : List String)
    (p : String × List String) :
    p ∈ (c.select field labels).selections ↔
      (labels ≠ [] ∧ p = (field, labels)) ∨ p ∈ c.selections ∧ p.1 ≠ field := by
  cases labels with
  | nil =>
    show p ∈ Ordered.erase field c.selections ↔ _
    simp
  | cons l rest =>
    show p ∈ Ordered.insert field (l :: rest) c.selections ↔ _
    simp [Ordered.mem_insert hn]

theorem nodup_activeFields_select (hn : c.activeFields.Nodup) (field : String)
    (labels : List String) : (c.select field labels).activeFields.Nodup := by
  cases labels with
  | nil => exact Ordered.nodup_erase hn field
  | cons l rest => exact Ordered.nodup_insert hn field (l :: rest)

/-- The labels selected in a field are found under it, and those of other fields stay. -/
theorem labelsFor_select (c : Criteria) (field other : String) (labels : List String) :
    (c.select field labels).labelsFor other =
      if other = field then labels else c.labelsFor other := by
  rw [labelsFor, labelsFor]
  cases labels with
  | nil =>
    show (Ordered.find? other (Ordered.erase field c.selections)).getD [] = _
    rw [Ordered.find?_erase]
    split <;> rfl
  | cons l rest =>
    show (Ordered.find? other (Ordered.insert field (l :: rest) c.selections)).getD [] = _
    split
    · next h => rw [h, Ordered.find?_insert_self, Option.getD_some]
    · next h => rw [Ordered.find?_insert_of_ne h]

/-- Selecting the labels that are selected changes nothing. -/
theorem Normal.select_labelsFor (hc : c.Normal) (field : String) :
    c.select field (c.labelsFor field) = c := by
  rw [labelsFor]
  cases h : Ordered.find? field c.selections with
  | none => exact congrArg (Criteria.mk · c.bounds) (Ordered.erase_eq_self h)
  | some labels =>
    rw [Option.getD_some]
    have hne : labels ≠ [] := hc.labels_ne_nil _ (Ordered.mem_of_find?_eq_some h)
    obtain ⟨l, rest, rfl⟩ := List.exists_cons_of_ne_nil hne
    exact congrArg (Criteria.mk · c.bounds) (Ordered.insert_eq_self h)

/-- Of two selections in one field the second one counts, if the first one was not empty. -/
theorem select_select (c : Criteria) (field : String) {labels : List String} (hne : labels ≠ [])
    (labels' : List String) :
    (c.select field labels).select field labels' = c.select field labels' := by
  obtain ⟨l, rest, rfl⟩ := List.exists_cons_of_ne_nil hne
  cases labels' with
  | nil => exact congrArg (Criteria.mk · c.bounds) (Ordered.erase_insert _ _ _)
  | cons l' rest' => exact congrArg (Criteria.mk · c.bounds) (Ordered.insert_insert _ _ _ _)

/-- Selections in different fields may be made in either order. -/
theorem same_select_comm (hn : c.activeFields.Nodup) {field other : String} (hne : field ≠ other)
    (labels labels' : List String) :
    ((c.select field labels).select other labels').Same
      ((c.select other labels').select field labels) := by
  have hfield := nodup_activeFields_select hn field labels
  have hother := nodup_activeFields_select hn other labels'
  refine ⟨?_, by simp only [bounds_select]⟩
  refine (List.perm_ext_iff_of_nodup (nodup_activeFields_select hfield other labels').of_map
    (nodup_activeFields_select hother field labels).of_map).mpr fun p => ?_
  rw [mem_selections_select hfield, mem_selections_select hn, mem_selections_select hother,
    mem_selections_select hn]
  grind

/-- A bound may be set before labels are selected or afterwards. -/
theorem select_setBound (c : Criteria) (field : String) (labels : List String) (b : Bound)
    (x : Option Float) :
    (c.select field labels).setBound b x = (c.setBound b x).select field labels := by
  cases labels <;> rfl

/-! ### One label -/

/-- The labels of criteria in normal form name themselves, together with one more. -/
theorem Normal.labelsOfItems_concat (hc : c.Normal) (field : String) {l : String} (hl : l ≠ "") :
    labelsOfItems ((c.labelsFor field).map .text ++ [.text l]) =
      if l ∈ c.labelsFor field then c.labelsFor field else c.labelsFor field ++ [l] := by
  have hlabels : (c.labelsFor field).Nodup ∧ "" ∉ c.labelsFor field := by
    rcases c.labelsFor_eq_nil_or_mem field with hnil | hmem
    · simp [hnil]
    · exact ⟨hc.labels_nodup _ hmem, hc.label_ne_empty _ hmem⟩
  have hkeep : ∀ v ∈ (c.labelsFor field ++ [l]).map Json.text, (!v.isNoLabel) = true := by
    intro v hv
    obtain ⟨l', hl', rfl⟩ := List.mem_map.mp hv
    have hne : l' ≠ "" := by
      rintro rfl
      rcases List.mem_append.mp hl' with hmem | hmem
      · exact hlabels.2 hmem
      · exact hl (List.mem_singleton.mp hmem).symm
    simpa [Json.isNoLabel] using hne
  have hmap : (c.labelsFor field).map Json.text ++ [.text l] =
      (c.labelsFor field ++ [l]).map Json.text := by simp
  have hself : ((c.labelsFor field ++ [l]).map Json.text).map Json.label =
      c.labelsFor field ++ [l] := by
    rw [List.map_map]
    exact List.map_id _
  rw [hmap, labelsOfItems, List.filter_eq_self.mpr hkeep, hself, distinct_concat,
    distinct_eq_self hlabels.1]

/-- A label that is selected is not selected again. -/
theorem Normal.withLabel_of_mem (hc : c.Normal) {l : String} (hl : l ∈ c.labelsFor field) :
    c.withLabel field (.text l) = c := by
  have hne : l ≠ "" := by
    rintro rfl
    rcases c.labelsFor_eq_nil_or_mem field with hnil | hmem
    · simp [hnil] at hl
    · exact hc.label_ne_empty _ hmem hl
  rw [withLabel, hc.labelsOfItems_concat field hne, if_pos hl, hc.select_labelsFor]

/-- A label that was not selected is selected and given up without a trace. -/
theorem Normal.withoutLabel_withLabel (hc : c.Normal) {l : String} (hl : l ∉ c.labelsFor field)
    (hne : l ≠ "") : (c.withLabel field (.text l)).withoutLabel field (.text l) = c := by
  have hwith : c.withLabel field (.text l) = c.select field (c.labelsFor field ++ [l]) := by
    rw [withLabel, hc.labelsOfItems_concat field hne, if_neg hl]
  have hkeep : ∀ l' ∈ c.labelsFor field, decide (l' ≠ l) = true := fun l' hl' =>
    decide_eq_true fun he => hl (he ▸ hl')
  have hfilter : (c.labelsFor field ++ [l]).filter (fun l' => decide (l' ≠ l)) =
      c.labelsFor field := by
    rw [List.filter_append, List.filter_eq_self.mpr hkeep]
    simp
  rw [hwith, withoutLabel, labelsFor_select, if_pos rfl, select_select c field (by simp)]
  exact (congrArg (c.select field) hfilter).trans (hc.select_labelsFor field)

/-! ### Bounds -/

/-- A number sets a bound, and null takes it back. -/
theorem withBound_ofReal? (c : Criteria) {key : String} {b : Bound}
    (hkey : Bound.ofKey? key = some b) (x : Option Float) :
    c.withBound key (.ofReal? x) = .ok (c.setBound b x) := by
  rw [withBound, hkey]
  cases x <;> rfl

/-- What is given for a bound sets it or is refused. -/
theorem withBound_cases (key : String) (v : Json) :
    (∃ f, ∀ c : Criteria, c.withBound key v = .error f) ∨
      ∃ b x, Bound.ofKey? key = some b ∧
        ∀ c : Criteria, c.withBound key v = .ok (c.setBound b x) := by
  cases hkey : Bound.ofKey? key with
  | none => exact Or.inl ⟨_, fun c => by rw [withBound, hkey]⟩
  | some b =>
    cases hread : b.read v with
    | valid x =>
      refine Or.inr ⟨b, x, rfl, fun c => ?_⟩
      rw [withBound, hkey]
      simp only [hread]
      rfl
    | invalid vs =>
      refine Or.inl ⟨.violations vs, fun c => ?_⟩
      rw [withBound, hkey]
      simp only [hread]
      rfl

/-- A bound that was not set is set and taken back without a trace. -/
theorem setBound_setBound_none {b : Bound} (hb : c.bounds b = none) (x : Option Float) :
    (c.setBound b x).setBound b none = c := by
  refine congrArg (Criteria.mk c.selections) (funext fun b' => ?_)
  by_cases h : b' = b
  · simp [h, hb]
  · simp [setBound, h]

/-! ### Updates of one field -/

/-- Updates of the labels selected in a field; what is given for them, if anything, names
labels. -/
inductive Update.Selects (field : String) : Update → Prop where
  | withLabel (v : Json) : Selects field (.withLabel field v)
  | withoutLabel (v : Json) : Selects field (.withoutLabel field v)
  | withLabels {v : Json} {labels : List String} (hv : labelsOf v = .ok labels) :
      Selects field (.withLabels field v)
  | withoutField : Selects field (.withoutField field)

/-- An update of a field selects labels in it that depend on no other field. -/
theorem Update.Selects.exists_select {u : Update} (hu : u.Selects field) :
    ∃ g : List String → List String, ∀ c : Criteria,
      u.apply c = .ok (c.select field (g (c.labelsFor field))) := by
  cases hu with
  | withLabel v => exact ⟨fun labels => labelsOfItems (labels.map .text ++ [v]), fun c => rfl⟩
  | withoutLabel v => exact ⟨_, fun c => rfl⟩
  | @withLabels v labels hv =>
    refine ⟨fun _ => labels, fun c => ?_⟩
    rw [Update.apply, Criteria.withLabels, hv]
    rfl
  | withoutField => exact ⟨fun _ => [], fun c => rfl⟩

theorem updated_pair {u v : Update} {e : Criteria} (hu : u.apply c = .ok d)
    (hv : v.apply d = .ok e) : c.updated [u, v] = .ok e := by
  simp only [updated, hu, hv]

/-! ### The laws -/

/-- The laws of updates of criteria. -/
structure Laws (c : Criteria) : Prop where
  /-- A label that is selected already is not selected again. -/
  selected : ∀ field l, l ∈ c.labelsFor field → (c.withLabel field (.text l)).Equal c
  /-- A label is selected and given up without a trace. -/
  givenUp : ∀ field l, l ≠ "" → l ∉ c.labelsFor field →
    ((c.withLabel field (.text l)).withoutLabel field (.text l)).Equal c
  /-- Without a label a field is not there. -/
  noLabels : ∀ field, ∃ d, c.withLabels field (.list []) = .ok d ∧ d.Equal (c.withoutField field)
  /-- A bound takes any number, and null, under either spelling of its key. -/
  taken : ∀ key b, Bound.ofKey? key = some b → ∀ x : Option Float,
    ∃ d, c.withBound key (.ofReal? x) = .ok d
  /-- A bound is set and taken back without a trace, under either spelling of its key. -/
  takenBack : ∀ key key' b, Bound.ofKey? key = some b → Bound.ofKey? key' = some b →
    c.bounds b = none → ∀ x d, c.withBound key x = .ok d →
      ∃ e, d.withBound key' .null = .ok e ∧ e.Equal c
  /-- Updates of different fields may be made in either order. -/
  fields : ∀ field other, field ≠ other → ∀ u v : Update, u.Selects field → v.Selects other →
    ∃ d e, c.updated [u, v] = .ok d ∧ c.updated [v, u] = .ok e ∧ d.Equal e
  /-- A field and a bound may be updated in either order; what is given for the bound may be
  refused, and is then refused in both. -/
  bounds : ∀ field (u : Update), u.Selects field → ∀ key x,
    (∃ d e, c.updated [u, .withBound key x] = .ok d ∧ c.updated [.withBound key x, u] = .ok e ∧
      d.Equal e) ∨
    ∃ f, c.withBound key x = .error f ∧ c.updated [u, .withBound key x] = .error f ∧
      c.updated [.withBound key x, u] = .error f

theorem Normal.laws (hc : c.Normal) : c.Laws := by
  have hn := hc.fields_nodup
  refine ⟨fun field l hl => ?selected, fun field l hne hl => ?givenUp, fun field => ?noLabels,
    fun key b hkey x => ⟨_, c.withBound_ofReal? hkey x⟩,
    fun key key' b hkey hkey' hb x d hd => ?takenBack, fun field other hne u v hu hv => ?fields,
    fun field u hu key x => ?bounds⟩
  case selected =>
    rw [hc.withLabel_of_mem hl]
    exact .refl hn
  case givenUp =>
    rw [hc.withoutLabel_withLabel hl hne]
    exact .refl hn
  case noLabels => exact ⟨c.withoutField field, rfl, .refl (Ordered.nodup_erase hn field)⟩
  case takenBack =>
    rcases withBound_cases key x with ⟨f, hf⟩ | ⟨b', y, hkeys, hset⟩
    · rw [hf] at hd
      cases hd
    · obtain rfl : b' = b := Option.some.inj (hkeys.symm.trans hkey)
      obtain rfl : c.setBound b' y = d := Except.ok.inj ((hset c).symm.trans hd)
      refine ⟨_, (c.setBound b' y).withBound_ofReal? hkey' none, ?_⟩
      rw [setBound_setBound_none hb]
      exact .refl hn
  case fields =>
    obtain ⟨g, hg⟩ := hu.exists_select
    obtain ⟨g', hg'⟩ := hv.exists_select
    refine ⟨_, _, updated_pair (hg c) (hg' _), updated_pair (hg' c) (hg _), ?_⟩
    rw [labelsFor_select, if_neg hne.symm, labelsFor_select, if_neg hne]
    exact (same_select_comm hn hne _ _).equal
      (nodup_activeFields_select (nodup_activeFields_select hn field _) other _)
  case bounds =>
    obtain ⟨g, hg⟩ := hu.exists_select
    rcases withBound_cases key x with ⟨f, hf⟩ | ⟨b, y, -, hset⟩
    · have hrefused (c : Criteria) : (Update.withBound key x).apply c = .error f := hf c
      exact Or.inr ⟨f, hf c, by simp only [Criteria.updated, hg c, hrefused],
        by simp only [Criteria.updated, hrefused]⟩
    · have hset' (c : Criteria) : (Update.withBound key x).apply c = .ok (c.setBound b y) := hset c
      refine Or.inl ⟨_, _, updated_pair (hg c) (hset' _), updated_pair (hset' c) (hg _), ?_⟩
      rw [select_setBound]
      exact .refl (nodup_activeFields_select (c := c.setBound b y) hn field _)

/-- Criteria that were read and then updated, however often, obey the laws of updates. -/
theorem updates_obey_laws (hc : c.Built) {us : List Update} (h : c.updated us = .ok d) : d.Laws :=
  (hc.normal.updated h).laws

/-- A city is selected, a skill selected and given up, and the city exchanged after the skill or
before it. -/
theorem updates_obey_laws_oslo :
    ∃ c d : Criteria, ofMapping [("city", .texts ["Oslo"])] = .ok c ∧
      c.updated [.withLabel "hard_skills" (.text "welding")] = .ok d ∧
      (d.withLabel "city" (.text "Oslo")).agrees d = true ∧
      ((d.withLabel "city" (.text "Bergen")).withoutLabel "city" (.text "Bergen")).agrees d = true ∧
      ∃ e f, d.updated [.withLabels "city" (.text "Bergen"), .withoutField "hard_skills"] = .ok e ∧
        d.updated [.withoutField "hard_skills", .withLabels "city" (.text "Bergen")] = .ok f ∧
        e.agrees f = true := by
  let c : Criteria := ⟨[("city", ["Oslo"])], Bounds.of none none none none⟩
  let d : Criteria := ⟨[("city", ["Oslo"]), ("hard_skills", ["welding"])], c.bounds⟩
  have hc : ofMapping [("city", .texts ["Oslo"])] = .ok c := rfl
  have hd : c.updated [.withLabel "hard_skills" (.text "welding")] = .ok d := rfl
  have hlaws : d.Laws := updates_obey_laws (.ofMapping hc) hd
  have hnumbers {e : Criteria} (hb : e.bounds = d.bounds) :
      ∀ b x, e.bounds b = some x → x.isNaN = false := by
    intro b x hx
    rw [hb] at hx
    cases b <;> cases hx
  obtain ⟨e, f, he, hf, hequal⟩ := hlaws.fields "city" "hard_skills" (by decide)
    (.withLabels "city" (.text "Bergen")) (.withoutField "hard_skills")
    (.withLabels rfl) .withoutField
  have hbounds : e.bounds = d.bounds := by
    rw [← Except.ok.inj he]
    rfl
  exact ⟨c, d, hc, hd, (hlaws.selected "city" "Oslo" (by decide)).agrees (hnumbers rfl),
    (hlaws.givenUp "city" "Bergen" (by decide) (by decide)).agrees (hnumbers rfl), e, f, he, hf,
    hequal.agrees (hnumbers hbounds)⟩

end Criteria

end JobSearch
