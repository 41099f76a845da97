import JobSearch.Filter.Reader
import JobSearch.Proofs.Filter.Normal
import JobSearch.Proofs.Grouping
import JobSearch.Proofs.Record.Checked

/-!
# How criteria come about

Criteria are read from parts or from one flat mapping, and then updated any number of times. What
is given for a field may be of many kinds, with labels that are empty or given twice; what is kept
is in normal form, whether it was just read (`Criteria.Built.normal`) or updated since
(`Criteria.Normal.updated`). Criteria in normal form are read back from their own parts as they
are (`Criteria.Normal.read_parts`).

## Main definitions

* `Criteria.Built` — criteria that were read.
* `Criteria.Update`, `Criteria.updated` — updates, one after the other.
* `Criteria.parts`, `Criteria.part` — the selections and bounds of criteria as they are given.
-/

namespace JobSearch

/-! ### Labels -/

namespace Number

theorem natText_ne_empty (n : Nat) : natText n ≠ "" := by
  simp [natText, digitText, digitsOf]

theorem intText_ne_empty (n : Int) : intText n ≠ "" := by
  simp [intText, natText_ne_empty]

theorem write_ne_empty (l : Layout) (d : Decimal) : l.write d ≠ "" := by
  rw [Layout.write]
  split
  · rw [Decimal.positional]
    split <;> simp
  · simp [Decimal.scientific]

theorem floatText_ne_empty (x : Float) : floatText x ≠ "" := by
  rw [floatText]
  split
  · decide
  · split <;> decide
  · split <;> split <;> simp [write_ne_empty]

end Number

namespace Json

/-- A value that names a label names one that is not empty. -/
theorem label_ne_empty {v : Json} (h : v.isNoLabel = false) : v.label ≠ "" := by
  cases v with
  | null => simp [isNoLabel] at h
  | bool b => cases b <;> decide
  | int n => exact Number.intText_ne_empty n
  | real x => exact Number.floatText_ne_empty x
  | text s => simpa [isNoLabel, label] using h
  | list items => simp [label, shown]
  | object members => simp [label, shown]

end Json

theorem nodup_labelsOfItems (items : List Json) : (labelsOfItems items).Nodup := nodup_distinct _

theorem empty_notMem_labelsOfItems (items : List Json) : "" ∉ labelsOfItems items := by
  rw [labelsOfItems, mem_distinct, List.mem_map]
  rintro ⟨v, hv, he⟩
  have hlabel := (List.mem_filter.mp hv).2
  exact Json.label_ne_empty (by simpa using hlabel) he

/-- A value names the labels of some items, whatever kind it is of. -/
theorem exists_items_of_labelsOf {v : Json} {labels : List String} (h : labelsOf v = .ok labels) :
    ∃ items, labels = labelsOfItems items := by
  cases v with
  | null => exact ⟨[], (Except.ok.inj h).symm⟩
  | text s => exact ⟨_, (Except.ok.inj h).symm⟩
  | list items => exact ⟨_, (Except.ok.inj h).symm⟩
  | object members => exact ⟨_, (Except.ok.inj h).symm⟩
  | bool b => cases h
  | int n => cases h
  | real x => cases h

/-- Labels that differ and are not empty name themselves. -/
theorem labelsOf_texts {labels : List String} (hn : labels.Nodup) (hempty : "" ∉ labels) :
    labelsOf (.texts labels) = .ok labels := by
  have hkeep : ∀ v ∈ labels.map Json.text, (!v.isNoLabel) = true := by
    intro v hv
    obtain ⟨l, hl, rfl⟩ := List.mem_map.mp hv
    have hne : l ≠ "" := fun he => hempty (he ▸ hl)
    simpa [Json.isNoLabel] using hne
  have hlabels : (labels.map Json.text).map Json.label = labels := by
    rw [List.map_map]
    exact List.map_id _
  rw [Json.texts, labelsOf, labelsOfItems, List.filter_eq_self.mpr hkeep, hlabels,
    distinct_eq_self hn]

/-! ### Entries -/

/-- An object has no name twice. -/
def Json.NamesOnce : Json → Prop
  | .object members => (members.map (·.1)).Nodup
  | _ => True

namespace Selections

/-- Entries with keys that differ, each with the cell by which it is compared. -/
structure KeysOnce (es : List Entry) : Prop where
  keyed : ∀ e ∈ es, e.key.keyCell? = some e.cell
  nodup : (es.map (·.key)).Nodup

theorem keysOnce_nil : KeysOnce [] := ⟨by simp, by simp⟩

/-- Writing an entry writes one that has its key, or puts it behind all others. -/
theorem insertEntry_cases (e : Entry) (es : List Entry) :
    ((insertEntry e es).map fun d => (d.key, d.cell)) = es.map (fun d => (d.key, d.cell)) ∨
      (∀ d ∈ es, d.cell.same e.cell = false) ∧ insertEntry e es = es ++ [e] := by
  induction es with
  | nil => exact Or.inr ⟨by simp, rfl⟩
  | cons d rest ih =>
    rw [insertEntry]
    by_cases hd : d.cell.same e.cell = true
    · rw [if_pos hd]
      exact Or.inl rfl
    · rw [if_neg hd]
      rcases ih with h | ⟨hall, h⟩
      · exact Or.inl (by simp [h])
      · refine Or.inr ⟨List.forall_mem_cons.mpr ⟨by simpa using hd, hall⟩, by rw [h]; rfl⟩

/-- Keys stay apart when an entry is written. -/
theorem KeysOnce.insertEntry {es : List Entry} (hes : KeysOnce es) {e : Entry}
    (he : e.key.keyCell? = some e.cell) : KeysOnce (insertEntry e es) := by
  rcases insertEntry_cases e es with h | ⟨hall, h⟩
  · have hkeys : (Selections.insertEntry e es).map (·.key) = es.map (·.key) := by
      have hfst := congrArg (List.map Prod.fst) h
      rwa [List.map_map, List.map_map] at hfst
    refine ⟨fun d hd => ?_, hkeys ▸ hes.nodup⟩
    obtain ⟨d', hd', hpair⟩ := List.mem_map.mp
      (h ▸ List.mem_map.mpr ⟨d, hd, rfl⟩ : (d.key, d.cell) ∈ es.map fun d => (d.key, d.cell))
    obtain ⟨hkey, hcell⟩ := Prod.mk.inj hpair
    rw [← hkey, ← hcell]
    exact hes.keyed d' hd'
  · rw [h]
    have hnew : e.key ∉ es.map (·.key) := by
      intro hmem
      obtain ⟨d, hd, hkey⟩ := List.mem_map.mp hmem
      have hcell : d.cell = e.cell := by
        have hd' := hes.keyed d hd
        rw [hkey, he] at hd'
        exact (Option.some.inj hd').symm
      have hsame := hall d hd
      rw [hcell, Cell.same, beq_self_eq_true] at hsame
      exact Bool.noConfusion hsame
    refine ⟨fun d hd => ?_, ?_⟩
    · rcases List.mem_append.mp hd with hd | hd
      · exact hes.keyed d hd
      · rw [List.mem_singleton.mp hd]
        exact he
    · rw [List.map_append]
      exact List.nodup_append'.mpr ⟨hes.nodup, by simp, by simpa using hnew⟩

theorem keyCell?_of_pairOf {position : Nat} {item : Json} {e : Entry}
    (h : pairOf position item = .ok e) : e.key.keyCell? = some e.cell := by
  rw [pairOf] at h
  split at h
  · cases h
  · split at h
    · next hcell =>
      cases h
      exact hcell
    · cases h
  · cases h

/-- Keys are apart however many entries were written. -/
theorem KeysOnce.entriesFrom {written : List Entry} (hwritten : KeysOnce written)
    {position : Nat} {items : List Json} {es : List Entry}
    (h : entriesFrom position written items = .ok es) : KeysOnce es := by
  induction items generalizing position written with
  | nil =>
    rw [Selections.entriesFrom] at h
    exact Except.ok.inj h ▸ hwritten
  | cons item rest ih =>
    rw [Selections.entriesFrom] at h
    split at h
    · next e he => exact ih (hwritten.insertEntry (keyCell?_of_pairOf he)) h
    · cases h

theorem keysOnce_of_entriesOf {v : Json} (hv : v.NamesOnce) {es : List Entry}
    (h : entriesOf v = .ok es) : KeysOnce es := by
  cases v with
  | null => exact Except.ok.inj h ▸ keysOnce_nil
  | object members =>
    obtain rfl := Except.ok.inj h
    refine ⟨fun e he => ?_, ?_⟩
    · obtain ⟨m, -, rfl⟩ := List.mem_map.mp he
      rfl
    · rw [List.map_map, show ((·.key) ∘ fun m : String × Json => (⟨.text m.1, .text m.1, m.2⟩ : Entry))
        = Json.text ∘ (·.1) from rfl, ← List.map_map]
      exact hv.map fun s t => Json.text.inj
  | list items => exact keysOnce_nil.entriesFrom h
  | text s => exact keysOnce_nil.entriesFrom h
  | bool b => cases h
  | int n => cases h
  | real x => cases h

/-! ### Selections that are read -/

/-- What is selected are the labels of entries that have one, the keys in their order. -/
theorem ofEntries_eq_ok {es : List Entry} {selected : List (Json × List String)}
    (h : ofEntries es = .ok selected) :
    (selected.map (·.1)).Sublist (es.map (·.key)) ∧
      ∀ p ∈ selected, p.2 ≠ [] ∧ ∃ items, p.2 = labelsOfItems items := by
  induction es generalizing selected with
  | nil =>
    obtain rfl := Except.ok.inj h
    exact ⟨List.Sublist.refl _, by simp⟩
  | cons e rest ih =>
    rw [ofEntries] at h
    split at h
    · cases h
    · next labels hlabels =>
      split at h
      · cases h
      · next more hmore =>
        obtain ⟨hsub, hall⟩ := ih hmore
        obtain rfl := Except.ok.inj h
        split
        · exact ⟨hsub.cons _, hall⟩
        · next hne =>
          refine ⟨hsub.cons_cons _, List.forall_mem_cons.mpr ⟨⟨?_, ?_⟩, hall⟩⟩
          · simpa using hne
          · exact exists_items_of_labelsOf hlabels

theorem eq_of_all_checkKey {selected : List (Json × List String)} {s : Selections}
    (h : Checked.all (selected.map checkKey) = .valid s) :
    selected = s.map fun p => (.text p.1, p.2) := by
  induction selected generalizing s with
  | nil =>
    obtain rfl : [] = s := by simpa [Checked.all] using h
    rfl
  | cons p rest ih =>
    obtain ⟨key, labels⟩ := p
    rw [List.map_cons, Checked.all] at h
    have hensures : (List.cons <$> checkKey (key, labels) <*> Checked.all (rest.map checkKey)).Ensures
        fun s => (key, labels) :: rest = s.map fun p => (.text p.1, p.2) := by
      refine Checked.ensures_seq.mpr (Checked.ensures_map.mpr fun q hq s' hs' => ?_)
      show (key, labels) :: rest = (q :: s').map fun p => (.text p.1, p.2)
      rw [List.map_cons, ← ih hs']
      cases key with
      | text t =>
        obtain rfl : (t, labels) = q := by simpa [checkKey] using hq
        rfl
      | _ => cases hq
    exact hensures s h

end Selections

namespace Criteria

variable {c d : Criteria}

/-- Criteria are in normal form or not whatever their bounds are. -/
theorem Normal.of_selections (hc : c.Normal) (h : d.selections = c.selections) : d.Normal := by
  refine ⟨?_, ?_, ?_, ?_⟩
  · rw [activeFields, h]
    exact hc.fields_nodup
  · rw [h]
    exact hc.labels_ne_nil
  · rw [h]
    exact hc.labels_nodup
  · rw [h]
    exact hc.label_ne_empty

theorem normal_of_read {v : Json} (hv : v.NamesOnce) {bound : Bound → Json}
    (h : read v bound = .ok c) : c.Normal := by
  rw [read] at h
  split at h
  · cases h
  · next selected hselected =>
    have hnormal : selected.Ensures fun s => ∀ bounds, (Criteria.mk s bounds).Normal := by
      intro s hs bounds
      rw [Selections.read] at hselected
      split at hselected
      · exact absurd ((Except.ok.inj hselected).trans hs) (by simp)
      · cases hselected
      · next es hes =>
        split at hselected
        · cases hselected
        · next picked hpicked =>
          obtain rfl := Selections.eq_of_all_checkKey ((Except.ok.inj hselected).trans hs)
          obtain ⟨hsub, hall⟩ := Selections.ofEntries_eq_ok hpicked
          have hkeys := (Selections.keysOnce_of_entriesOf hv hes).nodup.sublist hsub
          have hlabels : ∀ p ∈ s, p.2 ≠ [] ∧ ∃ items, p.2 = labelsOfItems items := fun p hp =>
            hall _ (List.mem_map.mpr ⟨p, hp, rfl⟩)
          refine ⟨?_, fun p hp => (hlabels p hp).1, fun p hp => ?_, fun p hp => ?_⟩
          · refine List.Nodup.of_map Json.text ?_
            rw [activeFields, List.map_map]
            rwa [List.map_map] at hkeys
          · obtain ⟨-, items, he⟩ := hlabels p hp
            exact he ▸ nodup_labelsOfItems items
          · obtain ⟨-, items, he⟩ := hlabels p hp
            exact he ▸ empty_notMem_labelsOfItems items
    refine Checked.Ensures.of_toExcept ?_ h
    exact Checked.ensures_seq.mpr (Checked.ensures_map.mpr fun s hs bounds _ => hnormal s hs bounds)

theorem normal_of_ofMapping {entries : List (String × Json)} (h : ofMapping entries = .ok c) :
    c.Normal := by
  rw [ofMapping] at h
  refine normal_of_read ?_ h
  exact (Ordered.nodup_ofList entries).sublist (List.filter_sublist.map _)

/-- Criteria that were read, from parts or from a flat mapping. -/
inductive Built (c : Criteria) : Prop where
  | ofParts {v : Json} {bound : Bound → Json} (hv : v.NamesOnce) (h : read v bound = .ok c)
  | ofMapping {entries : List (String × Json)} (h : Criteria.ofMapping entries = .ok c)

theorem Built.normal (hc : c.Built) : c.Normal := by
  cases hc with
  | ofParts hv h => exact normal_of_read hv h
  | ofMapping h => exact normal_of_ofMapping h

/-! ### Updates -/

/-- An update of criteria. -/
inductive Update where
  | withLabel (field : String) (v : Json)
  | withoutLabel (field : String) (v : Json)
  | withLabels (field : String) (v : Json)
  | withoutField (field : String)
  | withBound (key : String) (v : Json)
  | cleared

/-- The criteria after an update, or why it is refused. -/
def Update.apply (c : Criteria) : Update → Except Fault Criteria
  | .withLabel field v => .ok (c.withLabel field v)
  | .withoutLabel field v => .ok (c.withoutLabel field v)
  | .withLabels field v => c.withLabels field v
  | .withoutField field => .ok (c.withoutField field)
  | .withBound key v => c.withBound key v
  | .cleared => .ok c.cleared

/-- The criteria after updates, one after the other and none refused. -/
def updated (c : Criteria) : List Update → Except Fault Criteria
  | [] => .ok c
  | u :: us =>
    match u.apply c with
    | .error f => .error f
    | .ok d => d.updated us

/-- Criteria stay in normal form when labels that differ and are not empty, or none at all, are
selected in a field. -/
theorem Normal.select_of_nodup (hc : c.Normal) (field : String) {labels : List String}
    (hn : labels.Nodup) (hempty : "" ∉ labels) : (c.select field labels).Normal := by
  cases labels with
  | nil => exact hc.withoutField field
  | cons l rest => exact hc.select field (List.cons_ne_nil l rest) hn hempty

theorem labelsFor_eq_nil_or_mem (c : Criteria) (field : String) :
    c.labelsFor field = [] ∨ (field, c.labelsFor field) ∈ c.selections := by
  rw [labelsFor]
  cases h : Ordered.find? field c.selections with
  | none => exact Or.inl rfl
  | some labels => exact Or.inr (Ordered.mem_of_find?_eq_some h)

theorem selections_of_withBound {key : String} {v : Json} (h : c.withBound key v = .ok d) :
    d.selections = c.selections := by
  rw [withBound] at h
  split at h
  · next b _ =>
    cases hread : b.read v with
    | valid x =>
      rw [hread] at h
      obtain rfl : c.setBound b x = d := Except.ok.inj h
      rfl
    | invalid vs =>
      rw [hread] at h
      cases h
  · cases h

/-- No update leads out of normal form. -/
theorem Normal.apply (hc : c.Normal) {u : Update} (h : u.apply c = .ok d) : d.Normal := by
  cases u with
  | withLabel field v =>
    obtain rfl := Except.ok.inj h
    exact hc.select_of_nodup field (nodup_labelsOfItems _) (empty_notMem_labelsOfItems _)
  | withoutLabel field v =>
    obtain rfl := Except.ok.inj h
    rcases c.labelsFor_eq_nil_or_mem field with hnil | hmem
    · refine hc.select_of_nodup field ?_ ?_ <;> simp [hnil]
    · exact hc.select_of_nodup field ((hc.labels_nodup _ hmem).filter _)
        fun he => hc.label_ne_empty _ hmem (List.mem_filter.mp he).1
  | withLabels field v =>
    rw [Update.apply, withLabels] at h
    cases hlabels : labelsOf v with
    | error f =>
      rw [hlabels] at h
      cases h
    | ok labels =>
      rw [hlabels] at h
      obtain rfl := Except.ok.inj h
      obtain ⟨items, rfl⟩ := exists_items_of_labelsOf hlabels
      exact hc.select_of_nodup field (nodup_labelsOfItems _) (empty_notMem_labelsOfItems _)
  | withoutField field =>
    obtain rfl := Except.ok.inj h
    exact hc.withoutField field
  | withBound key v => exact hc.of_selections (selections_of_withBound h)
  | cleared =>
    obtain rfl := Except.ok.inj h
    constructor <;> simp [Criteria.cleared, empty, activeFields]

/-- Criteria stay in normal form however often they are updated. -/
theorem Normal.updated (hc : c.Normal) {us : List Update} (h : c.updated us = .ok d) :
    d.Normal := by
  induction us generalizing c with
  | nil => exact Except.ok.inj h ▸ hc
  | cons u us ih =>
    rw [Criteria.updated] at h
    split at h
    · cases h
    · next e he => exact ih (hc.apply he) h

/-! ### What criteria in normal form are like -/

theorem isEmpty_iff (c : Criteria) :
    c.isEmpty = true ↔ c.activeFields = [] ∧ ∀ b, c.bounds b = none := by
  have hbounds : c.setBounds = [] ↔ ∀ b, c.bounds b = none := by
    rw [setBounds, List.filterMap_eq_nil_iff]
    constructor
    · intro h b
      exact Option.map_eq_none_iff.mp (h b (by cases b <;> decide))
    · intro h b _
      rw [h b, Option.map_none]
  rw [isEmpty, Bool.and_eq_true, List.isEmpty_iff, List.isEmpty_iff, hbounds, activeFields,
    List.map_eq_nil_iff]

theorem Normal.mem_activeFields_iff (hc : c.Normal) (field : String) :
    field ∈ c.activeFields ↔ c.labelsFor field ≠ [] := by
  rw [activeFields, List.mem_map]
  constructor
  · rintro ⟨p, hp, rfl⟩
    rw [labelsFor, (Ordered.find?_eq_some_iff hc.fields_nodup).mpr hp]
    exact hc.labels_ne_nil p hp
  · intro h
    rcases c.labelsFor_eq_nil_or_mem field with hnil | hmem
    · exact absurd hnil h
    · exact ⟨_, hmem, rfl⟩

/-- The selections as they are given. -/
def parts (c : Criteria) : Json := .object (c.selections.map fun p => (p.1, .texts p.2))

/-- A bound as it is given. -/
def part (c : Criteria) (b : Bound) : Json := .ofReal? (c.bounds b)

theorem entriesOf_parts (c : Criteria) : Selections.entriesOf c.parts =
    .ok (c.selections.map fun p => ⟨.text p.1, .text p.1, .texts p.2⟩) := by
  rw [parts, Selections.entriesOf, List.map_map]
  rfl

theorem Normal.ofEntries_parts (hc : c.Normal) :
    Selections.ofEntries (c.selections.map fun p => ⟨.text p.1, .text p.1, .texts p.2⟩) =
      .ok (c.selections.map fun p => (.text p.1, p.2)) := by
  have hlabels : ∀ p ∈ c.selections, p.2 ≠ [] ∧ labelsOf (.texts p.2) = .ok p.2 := fun p hp =>
    ⟨hc.labels_ne_nil p hp, labelsOf_texts (hc.labels_nodup p hp) (hc.label_ne_empty p hp)⟩
  generalize c.selections = selections at hlabels
  induction selections with
  | nil => rfl
  | cons p rest ih =>
    obtain ⟨⟨hne, hp⟩, hrest⟩ := List.forall_mem_cons.mp hlabels
    rw [List.map_cons, Selections.ofEntries, hp, ih hrest]
    simp [hne]

theorem Normal.read_selections (hc : c.Normal) :
    Selections.read c.parts = .ok (.valid c.selections) := by
  have hkeys : (c.selections.map fun p => ((.text p.1 : Json), p.2)).map Selections.checkKey =
      c.selections.map .valid := by
    rw [List.map_map]
    rfl
  simp only [Selections.read, entriesOf_parts, hc.ofEntries_parts, hkeys, Checked.all_valid]

/-- Criteria in normal form are read back from their own parts. -/
theorem Normal.read_parts (hc : c.Normal) : read c.parts c.part = .ok c := by
  have hbound : ∀ b, Bound.read b (c.part b) = .valid (c.bounds b) := by
    intro b
    rw [part]
    cases c.bounds b <;> rfl
  have hbounds : Bounds.of (c.bounds .salaryMin) (c.bounds .salaryMax) (c.bounds .experienceMin)
      (c.bounds .experienceMax) = c.bounds := by
    funext b
    cases b <;> rfl
  rw [read, hc.read_selections]
  simp only [hbound, Checked.map_valid, Checked.seq_valid, hbounds]
  rfl

/-- A double equals itself unless it is no number. -/
theorem beq_self_of_isNaN {x : Float} (h : x.isNaN = false) : (x == x) = true := by
  show (x.toModel.unpack.compare x.toModel.unpack == some .eq) = true
  have hx : x.toModel.unpack.isNaN = false := h
  have hcompare : x.toModel.unpack.compare x.toModel.unpack = some .eq := by
    generalize x.toModel.unpack = u at hx
    cases u with
    | notANumber => exact Bool.noConfusion hx
    | infinity s => cases s <;> rfl
    | zero s => rfl
    | finite s m e hm =>
      have hself : (compare e e).then (compare m m) = .eq := by
        have he : compare e e = .eq := Std.ReflCmp.compare_self
        have hm : compare m m = .eq := Std.ReflCmp.compare_self
        rw [he, hm]
        rfl
      cases s with
      | negative => exact congrArg (fun o => some o.swap) hself
      | positive => exact congrArg some hself
  rw [hcompare]
  rfl

theorem Normal.agrees_self (hc : c.Normal) (h : ∀ b x, c.bounds b = some x → x.isNaN = false) :
    c.agrees c = true := by
  rw [agrees, Bool.and_eq_true, Bool.and_eq_true]
  refine ⟨⟨beq_self_eq_true _, List.all_eq_true.mpr fun p hp => ?_⟩,
    List.all_eq_true.mpr fun b _ => ?_⟩
  · rw [(Ordered.find?_eq_some_iff hc.fields_nodup).mpr hp]
    exact beq_self_eq_true _
  · cases hb : c.bounds b with
    | none => rfl
    | some x => exact beq_self_of_isNaN (h b x hb)

/-- Criteria that were read and then updated, however often, are in normal form: no field is
there without a label, no label is empty and none is there twice. So they filter by nothing if
and only if no field is active and no bound is set, the fields with a label are the active ones,
and reading them from their own parts gives them again, equal unless a bound is no number. -/
theorem Built.normal_updated (hc : c.Built) {us : List Update} (h : c.updated us = .ok d) :
    d.Normal ∧ (d.isEmpty = true ↔ d.activeFields = [] ∧ ∀ b, d.bounds b = none) ∧
      (∀ field, field ∈ d.activeFields ↔ d.labelsFor field ≠ []) ∧
      read d.parts d.part = .ok d ∧
      ((∀ b x, d.bounds b = some x → x.isNaN = false) → d.agrees d = true) := by
  have hd := hc.normal.updated h
  exact ⟨hd, d.isEmpty_iff, hd.mem_activeFields_iff, hd.read_parts, hd.agrees_self⟩

/-- A label given twice beside an empty one, and a bound in its other spelling; then a skill is
selected, the label is given up and another bound is set. -/
theorem normal_updated_oslo :
    ∃ c d : Criteria,
      ofMapping [("city", .texts ["Oslo", "", "Oslo"]), ("salaryMin", .real 1)] = .ok c ∧
      c.updated [.withLabel "hard_skills" (.text "welding"), .withoutLabel "city" (.text "Oslo"),
        .withBound "experience_max" (.real 5)] = .ok d ∧
      c.activeFields = ["city"] ∧ d.activeFields = ["hard_skills"] ∧
      d.Normal ∧ read d.parts d.part = .ok d ∧ d.agrees d = true := by
  let c : Criteria := ⟨[("city", ["Oslo"])], Bounds.of (some 1) none none none⟩
  let d : Criteria := (Criteria.mk [("hard_skills", ["welding"])] c.bounds).setBound
    .experienceMax (some 5)
  have hc : ofMapping [("city", .texts ["Oslo", "", "Oslo"]), ("salaryMin", .real 1)] = .ok c := rfl
  have hd : c.updated [.withLabel "hard_skills" (.text "welding"),
      .withoutLabel "city" (.text "Oslo"), .withBound "experience_max" (.real 5)] = .ok d := rfl
  obtain ⟨hnormal, -, -, hread, hagrees⟩ := Built.normal_updated (.ofMapping hc) hd
  refine ⟨c, d, hc, hd, rfl, rfl, hnormal, hread, hagrees fun b x hx => ?_⟩
  cases b with
  | salaryMin => exact Option.some.inj hx ▸ by decide
  | salaryMax => cases hx
  | experienceMin => cases hx
  | experienceMax => exact Option.some.inj hx ▸ by decide

end Criteria

end JobSearch
