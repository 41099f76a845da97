import JobSearch.Proofs.Filter.Spelling
import JobSearch.Proofs.Filter.Updates
import JobSearch.Proofs.Sequence

/-!
# A mapping read at once and entry by entry

A flat mapping of fields to labels and of bounds to numbers is read as a whole. Its entries can
also be applied to empty criteria, one after the other. What they lead to is what reading gives,
with the fields in the same order (`mapping_read_as_updated`). The other way round a bound must not
be given under both of its spellings: reading looks at the last one only, while one entry that is
refused is enough for the entries to be refused.

Both sides are what the mapping gives (`Criteria.Gives`): the labels of all fields and, for each
bound, what is given for it last. With one more entry a mapping gives the criteria that the entry's
update leads to (`Gives.concat`), and no others (`Gives.of_concat`), and so from the empty mapping
on.

## Main definitions

* `Criteria.Update.ofEntry` — the update that an entry of a mapping stands for.
* `Criteria.Gives` — criteria that a mapping gives.
* `Criteria.SpelledOnce` — no bound is given under both of its spellings.
-/

namespace JobSearch

namespace Criteria

variable {c d : Criteria} {m : List (String × Json)} {e : String × Json}

/-! ### Entries as updates -/

/-- The update that an entry stands for: that of a bound if its key is one of the two spellings
of a bound, else that of a field. -/
def Update.ofEntry (e : String × Json) : Update :=
  if ∃ b ∈ Bound.all, e.1 = b.key ∨ e.1 = b.capitalKey then .withBound e.1 e.2
  else .withLabels e.1 e.2

theorem ofEntry_of_bound {b : Bound} (h : Bound.ofKey? e.1 = some b) :
    Update.ofEntry e = .withBound e.1 e.2 := by
  have hall : b ∈ Bound.all := by cases b <;> decide
  exact if_pos ⟨b, hall, Bound.ofKey?_eq_some_iff.mp h⟩

theorem ofEntry_of_field (h : Bound.ofKey? e.1 = none) :
    Update.ofEntry e = .withLabels e.1 e.2 := by
  refine if_neg ?_
  rintro ⟨b, -, hb⟩
  rw [Bound.ofKey?_eq_some_iff.mpr hb] at h
  cases h

theorem updated_concat (c : Criteria) (us : List Update) (u : Update) :
    c.updated (us ++ [u]) = (c.updated us).bind u.apply := by
  induction us generalizing c with
  | nil =>
    show c.updated [u] = u.apply c
    rw [updated]
    cases u.apply c <;> rfl
  | cons v us ih =>
    rw [List.cons_append, updated, updated]
    cases v.apply c with
    | error f => rfl
    | ok d => exact ih d

/-- A value given for a bound sets the bound to what it is read as. -/
theorem withBound_eq_ok_iff {b : Bound} {key : String} {v : Json}
    (hkey : Bound.ofKey? key = some b) :
    c.withBound key v = .ok d ↔ ∃ x, b.read v = .valid x ∧ d = c.setBound b x := by
  rw [withBound, hkey]
  cases hread : b.read v with
  | valid x =>
    have hset : ((Checked.valid x).map (c.setBound b)).toExcept = .ok (c.setBound b x) := rfl
    simp [hread, hset, eq_comm]
  | invalid vs =>
    have hrefused : ((Checked.invalid vs).map (c.setBound b)).toExcept =
      .error (.violations vs) := rfl
    simp [hread, hrefused]

/-! ### What a mapping gives -/

/-- The entries of a mapping that select labels in a field. -/
def fieldEntries (m : List (String × Json)) : List (String × Json) :=
  m.filter fun e => (Bound.ofKey? e.1).isNone

/-- The value that a mapping gives for a bound last. -/
def given (m : List (String × Json)) (b : Bound) : Json :=
  (Ordered.find? b (m.filterMap fun e => (Bound.ofKey? e.1).map fun b => (b, e.2)).reverse).getD
    .null

theorem ofMapping_eq (entries : List (String × Json)) : ofMapping entries =
    read (.object (fieldEntries (Ordered.ofList entries))) (given (Ordered.ofList entries)) := rfl

theorem given_concat (m : List (String × Json)) (e : String × Json) (b : Bound) :
    given (m ++ [e]) b = if Bound.ofKey? e.1 = some b then e.2 else given m b := by
  rw [given, List.filterMap_append, List.reverse_append]
  cases hkey : Bound.ofKey? e.1 with
  | none => simp [hkey, given]
  | some b' =>
    by_cases hb : b' = b
    · simp [hkey, hb, Ordered.find?]
    · simp [hkey, hb, Ordered.find?, given]

/-- The selections of entries that each name labels; fields without a label are left out. -/
def labelled (m : List (String × Json)) : Except Fault Selections :=
  (m.mapM fun e => (labelsOf e.2).map (Prod.mk e.1)).map (List.filter fun p => p.2 ≠ [])

theorem ofEntries_texts (m : List (String × Json)) :
    Selections.ofEntries (m.map fun e => ⟨.text e.1, .text e.1, e.2⟩) =
      (labelled m).map (List.map fun p => (.text p.1, p.2)) := by
  rw [labelled]
  induction m with
  | nil => rfl
  | cons e rest ih =>
    rw [List.map_cons, Selections.ofEntries, List.mapM_cons, ih]
    cases labelsOf e.2 with
    | error f => rfl
    | ok labels =>
      cases rest.mapM fun e => (labelsOf e.2).map (Prod.mk e.1) with
      | error f => rfl
      | ok more => cases labels <;> rfl

/-- Selections are read from a mapping as they are: its keys are text. -/
theorem read_object (m : List (String × Json)) :
    Selections.read (.object m) = (labelled m).map .valid := by
  rw [Selections.read, Selections.entriesOf]
  simp only [ofEntries_texts]
  cases labelled m with
  | error f => rfl
  | ok s =>
    have hkeys : (s.map fun p => ((.text p.1 : Json), p.2)).map Selections.checkKey =
        s.map .valid := by
      rw [List.map_map]
      rfl
    exact congrArg Except.ok ((congrArg Checked.all hkeys).trans (Checked.all_valid s))

/-- One more entry selects its labels behind all others, if it names any. -/
theorem labelled_concat_eq_ok_iff {s : Selections} : labelled (m ++ [e]) = .ok s ↔
    ∃ s' labels, labelled m = .ok s' ∧ labelsOf e.2 = .ok labels ∧
      s = if labels = [] then s' else s' ++ [(e.1, labels)] := by
  rw [labelled, labelled, List.mapM_append, List.mapM_cons, List.mapM_nil]
  cases m.mapM fun e => (labelsOf e.2).map (Prod.mk e.1) with
  | error f => simp [bind, Except.bind, Except.map]
  | ok ps =>
    cases labelsOf e.2 with
    | error f => simp [bind, Except.bind, Except.map]
    | ok labels =>
      cases labels <;> simp [bind, Except.bind, Except.map, pure, Except.pure, eq_comm]

/-- Criteria that a mapping gives: the labels that its entries name, in their order, and the
bounds as they are given last. -/
structure Gives (m : List (String × Json)) (c : Criteria) : Prop where
  selections : labelled (fieldEntries m) = .ok c.selections
  bounds : ∀ b : Bound, b.read (given m b) = .valid (c.bounds b)

theorem gives_nil : Gives [] empty := ⟨rfl, fun _ => rfl⟩

theorem Gives.eq_empty (h : Gives [] c) : c = empty := by
  have hselections : [] = c.selections := Except.ok.inj h.selections
  have hbounds : c.bounds = fun _ => none :=
    funext fun b => (Checked.valid.inj (h.bounds b)).symm
  exact congrArg₂ Criteria.mk hselections.symm hbounds

/-- Reading a mapping finds the criteria that it gives. -/
theorem ofMapping_eq_ok_iff {entries : List (String × Json)} :
    ofMapping entries = .ok c ↔ Gives (Ordered.ofList entries) c := by
  rw [ofMapping_eq]
  generalize Ordered.ofList entries = m
  rw [read, read_object]
  constructor
  · intro h
    cases hlabels : labelled (fieldEntries m) with
    | error f =>
      rw [hlabels] at h
      cases h
    | ok s =>
      rw [hlabels] at h
      refine Checked.Ensures.of_toExcept (P := Gives m) ?_ h
      simp only [Checked.ensures_seq, Checked.ensures_map, Checked.ensures_valid]
      intro w hw x hx y hy z hz
      refine ⟨hlabels, fun b => ?_⟩
      cases b <;> assumption
  · rintro ⟨hlabels, hread⟩
    have hbounds : Bounds.of (c.bounds .salaryMin) (c.bounds .salaryMax) (c.bounds .experienceMin)
        (c.bounds .experienceMax) = c.bounds := by
      funext b
      cases b <;> rfl
    simp only [hlabels, Except.map, hread, Checked.map_valid, Checked.seq_valid, hbounds]
    rfl

/-! ### One more entry -/

/-- Labels selected in a field that is not listed are listed behind all others, if there are
any. -/
theorem select_of_notMem {field : String} (h : field ∉ c.activeFields) (labels : List String) :
    (c.select field labels).selections =
      if labels = [] then c.selections else c.selections ++ [(field, labels)] := by
  have hnone : Ordered.find? field c.selections = none :=
    Ordered.find?_eq_none_iff.mpr fun p hp he => h (he ▸ List.mem_map_of_mem hp)
  cases labels with
  | nil => exact Ordered.erase_eq_self hnone
  | cons l rest => exact Ordered.insert_eq_concat hnone (l :: rest)

/-- The fields that a mapping selects labels in are among its keys. -/
theorem Gives.mem_of_mem_activeFields (h : Gives m c) {field : String}
    (hfield : field ∈ c.activeFields) : field ∈ m.map (·.1) := by
  obtain ⟨p, hp, rfl⟩ := List.mem_map.mp hfield
  have hlabels := h.selections
  rw [labelled] at hlabels
  cases hps : (fieldEntries m).mapM fun e => (labelsOf e.2).map (Prod.mk e.1) with
  | error f =>
    rw [hps] at hlabels
    cases hlabels
  | ok ps =>
    rw [hps] at hlabels
    rw [← Except.ok.inj hlabels] at hp
    obtain ⟨a, ha, hap⟩ := forall₂_left (forall₂_of_mapM hps) p (List.mem_filter.mp hp).1
    have hkey : a.1 = p.1 := by
      cases hlabels : labelsOf a.2 with
      | error f =>
        rw [hlabels] at hap
        cases hap
      | ok labels =>
        rw [hlabels] at hap
        rw [← Except.ok.inj hap]
    exact List.mem_map.mpr ⟨a, (List.mem_filter.mp ha).1, hkey⟩

theorem fieldEntries_concat_of_field (hkey : Bound.ofKey? e.1 = none) :
    fieldEntries (m ++ [e]) = fieldEntries m ++ [e] := by
  simp [fieldEntries, hkey]

theorem fieldEntries_concat_of_bound {b : Bound} (hkey : Bound.ofKey? e.1 = some b) :
    fieldEntries (m ++ [e]) = fieldEntries m := by
  simp [fieldEntries, hkey]

/-- One more entry gives the criteria that its update leads to. -/
theorem Gives.concat (h : Gives m c) (hnew : e.1 ∉ m.map (·.1))
    (he : (Update.ofEntry e).apply c = .ok d) : Gives (m ++ [e]) d := by
  cases hkey : Bound.ofKey? e.1 with
  | none =>
    rw [ofEntry_of_field hkey, Update.apply, withLabels] at he
    cases hlabels : labelsOf e.2 with
    | error f =>
      rw [hlabels] at he
      cases he
    | ok labels =>
      rw [hlabels] at he
      obtain rfl : c.select e.1 labels = d := Except.ok.inj he
      refine ⟨?_, fun b => ?_⟩
      · rw [fieldEntries_concat_of_field hkey, labelled_concat_eq_ok_iff]
        exact ⟨_, labels, h.selections, hlabels,
          select_of_notMem (fun hmem => hnew (h.mem_of_mem_activeFields hmem)) labels⟩
      · rw [given_concat, hkey, if_neg (by simp), bounds_select]
        exact h.bounds b
  | some b =>
    rw [ofEntry_of_bound hkey] at he
    obtain ⟨x, hread, rfl⟩ := (withBound_eq_ok_iff hkey).mp he
    refine ⟨?_, fun b' => ?_⟩
    · rw [fieldEntries_concat_of_bound hkey]
      exact h.selections
    · rw [given_concat, hkey]
      by_cases hb : b' = b
      · subst hb
        rw [if_pos rfl, hread]
        simp [setBound]
      · rw [if_neg (fun he => hb (Option.some.inj he).symm), h.bounds b']
        simp [setBound, hb]

/-- No bound is given under both of its spellings. -/
def SpelledOnce (m : List (String × Json)) : Prop :=
  ∀ b : Bound, b.key ∉ m.map (·.1) ∨ b.capitalKey ∉ m.map (·.1)

theorem SpelledOnce.of_concat (h : SpelledOnce (m ++ [e])) : SpelledOnce m := by
  intro b
  refine (h b).imp ?_ ?_ <;>
  · intro hb hmem
    rw [List.map_append, List.mem_append] at hb
    exact hb (Or.inl hmem)

/-- No entry but the last one gives its bound. -/
theorem SpelledOnce.given_eq_null (h : SpelledOnce (m ++ [e])) (hnew : e.1 ∉ m.map (·.1))
    {b : Bound} (hkey : Bound.ofKey? e.1 = some b) : given m b = .null := by
  rw [given, Ordered.find?_eq_none_iff.mpr, Option.getD_none]
  intro p hp he
  rw [List.mem_reverse, List.mem_filterMap] at hp
  obtain ⟨a, ha, hap⟩ := hp
  obtain ⟨b', ha', rfl⟩ := Option.map_eq_some_iff.mp hap
  obtain rfl : b' = b := he
  have hne : a.1 ≠ e.1 := fun heq => hnew (heq ▸ List.mem_map_of_mem ha)
  have hmem : a.1 ∈ (m ++ [e]).map (·.1) := List.mem_map_of_mem (List.mem_append_left _ ha)
  have hlast : e.1 ∈ (m ++ [e]).map (·.1) := by simp
  rcases Bound.ofKey?_eq_some_iff.mp ha' with hak | hak <;>
    rcases Bound.ofKey?_eq_some_iff.mp hkey with hek | hek
  · exact hne (hak.trans hek.symm)
  · exact (h b').elim (· (hak ▸ hmem)) (· (hek ▸ hlast))
  · exact (h b').elim (· (hek ▸ hlast)) (· (hak ▸ hmem))
  · exact hne (hak.trans hek.symm)

/-- The criteria that one more entry gives are those that its update leads to, if its bound is
given nowhere else. -/
theorem Gives.of_concat (h : Gives (m ++ [e]) d) (hnew : e.1 ∉ m.map (·.1))
    (hspelled : SpelledOnce (m ++ [e])) :
    ∃ c, Gives m c ∧ (Update.ofEntry e).apply c = .ok d := by
  cases hkey : Bound.ofKey? e.1 with
  | none =>
    obtain ⟨hselections, hbounds⟩ := h
    rw [fieldEntries_concat_of_field hkey, labelled_concat_eq_ok_iff] at hselections
    obtain ⟨s, labels, hs, hlabels, hd⟩ := hselections
    have hgives : Gives m ⟨s, d.bounds⟩ := by
      refine ⟨hs, fun b => ?_⟩
      rw [← hbounds b, given_concat, hkey, if_neg (by simp)]
    refine ⟨_, hgives, ?_⟩
    have hselect := select_of_notMem (fun hmem => hnew (hgives.mem_of_mem_activeFields hmem)) labels
    rw [ofEntry_of_field hkey, Update.apply, withLabels, hlabels]
    exact congrArg Except.ok (congrArg₂ Criteria.mk (hselect.trans hd.symm) (bounds_select _ _))
  | some b =>
    have hread : b.read e.2 = .valid (d.bounds b) := by
      rw [← h.bounds b, given_concat, if_pos hkey]
    refine ⟨d.setBound b none, ⟨?_, fun b' => ?_⟩, ?_⟩
    · rw [← fieldEntries_concat_of_bound hkey]
      exact h.selections
    · by_cases hb : b' = b
      · subst hb
        rw [hspelled.given_eq_null hnew hkey]
        simp [setBound]
        rfl
      · have hother := h.bounds b'
        rw [given_concat, hkey, if_neg (fun he => hb (Option.some.inj he).symm)] at hother
        rw [hother]
        simp [setBound, hb]
    · rw [ofEntry_of_bound hkey]
      refine (withBound_eq_ok_iff hkey).mpr ⟨_, hread, ?_⟩
      refine congrArg (Criteria.mk d.selections) (funext fun b' => ?_)
      by_cases hb : b' = b <;> simp [setBound, hb]

/-! ### All entries -/

/-- The last key of a mapping is a new one. -/
theorem nodup_keys_of_concat (h : ((m ++ [e]).map (·.1)).Nodup) :
    (m.map (·.1)).Nodup ∧ e.1 ∉ m.map (·.1) := by
  rw [List.map_append, List.nodup_append'] at h
  obtain ⟨hm, -, hdisjoint⟩ := h
  exact ⟨hm, by simpa using hdisjoint⟩

/-- What the entries of a mapping lead to, one after the other, is what the mapping gives. -/
theorem gives_of_updated (hm : (m.map (·.1)).Nodup)
    (h : empty.updated (m.map .ofEntry) = .ok d) : Gives m d := by
  induction m using List.reverseRecOn generalizing d with
  | nil =>
    obtain rfl := Except.ok.inj h
    exact gives_nil
  | append_singleton m e ih =>
    obtain ⟨hm, hnew⟩ := nodup_keys_of_concat hm
    rw [List.map_append, List.map_singleton, updated_concat] at h
    cases hc : empty.updated (m.map .ofEntry) with
    | error f =>
      rw [hc] at h
      cases h
    | ok c =>
      rw [hc] at h
      exact (ih hm hc).concat hnew h

/-- What a mapping gives is what its entries lead to, one after the other, if no bound is given
twice. -/
theorem Gives.updated (h : Gives m d) (hm : (m.map (·.1)).Nodup) (hspelled : SpelledOnce m) :
    empty.updated (m.map .ofEntry) = .ok d := by
  induction m using List.reverseRecOn generalizing d with
  | nil => rw [h.eq_empty]; rfl
  | append_singleton m e ih =>
    obtain ⟨hm, hnew⟩ := nodup_keys_of_concat hm
    obtain ⟨c, hc, he⟩ := h.of_concat hnew hspelled
    rw [List.map_append, List.map_singleton, updated_concat, ih hc hm hspelled.of_concat]
    exact he

/-- The entries of a mapping, applied one after the other to empty criteria, lead to what the
mapping is read as, with its fields in the same order. If no bound is given under both of its
spellings then the entries are refused if and only if the mapping is. -/
theorem mapping_read_as_updated (entries : List (String × Json)) :
    (∀ d, empty.updated ((Ordered.ofList entries).map .ofEntry) = .ok d →
      ofMapping entries = .ok d) ∧
    (SpelledOnce (Ordered.ofList entries) →
      ((∃ f, empty.updated ((Ordered.ofList entries).map .ofEntry) = .error f) ↔
        ∃ f, ofMapping entries = .error f)) := by
  have hm := Ordered.nodup_ofList entries
  refine ⟨fun d hd => ofMapping_eq_ok_iff.mpr (gives_of_updated hm hd), fun hspelled => ?_⟩
  have hiff (d : Criteria) : empty.updated ((Ordered.ofList entries).map .ofEntry) = .ok d ↔
      ofMapping entries = .ok d :=
    ⟨fun hd => ofMapping_eq_ok_iff.mpr (gives_of_updated hm hd),
      fun hd => (ofMapping_eq_ok_iff.mp hd).updated hm hspelled⟩
  cases hentries : empty.updated ((Ordered.ofList entries).map .ofEntry) with
  | ok d => simp [(hiff d).mp hentries]
  | error f =>
    cases hread : ofMapping entries with
    | error f' => simp
    | ok d =>
      rw [(hiff d).mpr hread] at hentries
      cases hentries

/-- A bound is set and taken back under its other spelling, between labels that are empty or given
twice; and a number that is no number is refused either way. -/
theorem mapping_read_as_updated_oslo :
    (∃ d, ofMapping [("salary_min", .real 1), ("city", .texts ["Oslo", "", "Oslo"]),
        ("hard_skills", .null), ("experienceMax", .real 5), ("salaryMin", .null)] = .ok d ∧
      d.selections = [("city", ["Oslo"])] ∧ d.bounds .salaryMin = none ∧
      d.bounds .experienceMax = some 5) ∧
    SpelledOnce [("city", .text "Oslo"), ("salaryMin", .list [])] ∧
    ∃ f, ofMapping [("city", .text "Oslo"), ("salaryMin", .list [])] = .error f := by
  let taken : List (String × Json) := [("salary_min", .real 1),
    ("city", .texts ["Oslo", "", "Oslo"]), ("hard_skills", .null), ("experienceMax", .real 5),
    ("salaryMin", .null)]
  let refused : List (String × Json) := [("city", .text "Oslo"), ("salaryMin", .list [])]
  let d : Criteria := (((empty.setBound .salaryMin (some 1)).select "city" ["Oslo"]).setBound
    .experienceMax (some 5)).setBound .salaryMin none
  have hd : empty.updated ((Ordered.ofList taken).map .ofEntry) = .ok d := rfl
  have hrefused : ∃ f, empty.updated ((Ordered.ofList refused).map .ofEntry) = .error f := ⟨_, rfl⟩
  have hspelled : SpelledOnce refused := by
    intro b
    cases b <;> decide
  exact ⟨⟨d, (mapping_read_as_updated taken).1 d hd, rfl, rfl, rfl⟩, hspelled,
    ((mapping_read_as_updated refused).2 hspelled).mp hrefused⟩

/-- Under both spellings the value given last is read alone, while each one is applied. -/
example : ∃ d f, ofMapping [("salary_min", .list []), ("salaryMin", .real 5)] = .ok d ∧
    empty.updated ([("salary_min", .list []), ("salaryMin", .real 5)].map .ofEntry) = .error f :=
  ⟨_, _, rfl, rfl⟩

end Criteria

end JobSearch
