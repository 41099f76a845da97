import JobSearch.Browse.Page
import JobSearch.Proofs.Posting.Document
import JobSearch.Proofs.Query.Attributes
import JobSearch.Proofs.Sequence

/-!
# Postings with their labels

The labels of postings are read from their tables, posting by posting or for all postings of a
page at once. In both ways a posting gets the same labels, those that its tables hold under its id
(`labelsIn_attributes`, `labelsByOwner_attributes`); so each row is read together with the same
lists in both ways, and what one way gives the other gives too
(`Database.Conforms.attachAll_eq_attachEach`). The tables are there, ids fit the storage and labels
are text or absent, so every document of a posting becomes a posting with its id
(`Database.Conforms.attachTo_eq_ok`).

## Main definitions

* `Database.attachedLabels` — the labels that are read for a posting.
* `Database.attachments` — these labels under the keys of their fields.
-/

namespace JobSearch

open Query

/-! ### Owners -/

/-- A cell that compares like an integer stands for that integer. -/
theorem Cell.readInteger_of_key {c : Cell} {n : Int} (h : c.key = (Cell.int n).key) :
    c.toJson.readInteger = .ok n := by
  cases c with
  | int m => rw [Cell.key_int_inj h, Cell.toJson, Json.readInteger]
  | real x =>
    have hvalue : Number.exactValue? x = some (n : Rat) := by
      simp only [Cell.key] at h
      rw [Number.exactValue?]
      cases hx : Number.Reading.ofFloat x with
      | nan => simp [hx, Number.Reading.point?] at h
      | infinite negative => cases negative <;> simp [hx, Number.Reading.point?] at h
      | finite negative mantissa exponent =>
        simpa [hx, Number.Reading.point?, Number.Reading.value?] using h
    simp [Cell.toJson, Json.readInteger, hvalue, truncate]
  | null => simp [Cell.key] at h
  | text s => simp [Cell.key] at h
  | folded c s => simp [Cell.key] at h
  | bytes b asText => cases asText <;> simp [Cell.key] at h

/-! ### Labels -/

/-- A row with text in place of the label has this label, and a row without text has none. -/
theorem ownedLabel?_eq (owner : Cell) {label : Cell} (h : label.IsLabel) :
    ownedLabel? [owner, label] = label.asText?.map fun s => (owner, .text s) := by
  rcases h with rfl | ⟨s, rfl⟩ <;> rfl

/-- The labels that are read for the posting with an id. -/
def Database.attachedLabels (db : Database) (f : Field) (id : Int) : List String :=
  (db.attributeRows f [id]).filterMap fun r => (r.cell f.labelColumn).asText?

/-- The labels of a posting under the keys of their fields. -/
def Database.attachments (db : Database) (id : Int) : List (String × Json) :=
  attachedFields.map fun f => (f.key, .list ((db.attachedLabels f id).map .text))

section labels

variable {f : Field} {rows : List Joined} (columns : List String)

/-- The labels in the rows of a result are the texts of the rows. -/
theorem labelsIn_eq (hlabel : ∀ r ∈ rows, (r.cell f.labelColumn).IsLabel) :
    labelsIn ⟨columns, rows.map fun r => [r.cell f.ownerSource.1, r.cell f.labelColumn]⟩ =
      (rows.filterMap fun r => (r.cell f.labelColumn).asText?).map .text := by
  rw [labelsIn, List.filterMap_map, List.map_filterMap, List.map_filterMap]
  refine List.filterMap_congr fun r hr => ?_
  rw [Function.comp_apply, ownedLabel?_eq _ (hlabel r hr), Option.map_map]
  rfl

/-- If every row of a result has an owner, then the owners are read, and the labels of each of them
are the texts of its rows. -/
theorem labelsByOwner_eq_ok (hlabel : ∀ r ∈ rows, (r.cell f.labelColumn).IsLabel)
    (howner : ∀ r ∈ rows, ∃ id, f.belongs id r = true) :
    ∃ labels, labelsByOwner
        ⟨columns, rows.map fun r => [r.cell f.ownerSource.1, r.cell f.labelColumn]⟩ = .ok labels ∧
      ∀ id, labelsOwnedBy id labels =
        ((rows.filter (f.belongs id)).filterMap fun r => (r.cell f.labelColumn).asText?).map
          .text := by
  induction rows with
  | nil => exact ⟨[], rfl, fun _ => rfl⟩
  | cons r rows ih =>
    obtain ⟨labels, hlabels, hread⟩ := ih (fun s hs => hlabel s (by simp [hs]))
      fun s hs => howner s (by simp [hs])
    obtain ⟨owner, hr⟩ := howner r (by simp)
    have hkey : (r.cell f.ownerSource.1).key = (Cell.int owner).key := of_decide_eq_true hr
    rw [labelsByOwner] at hlabels ⊢
    rw [List.map_cons, List.filterMap_cons, ownedLabel?_eq _ (hlabel r (by simp))]
    cases htext : (r.cell f.labelColumn).asText? with
    | none =>
      refine ⟨labels, hlabels, fun id => ?_⟩
      rw [hread, List.filter_cons]
      split
      · rw [List.filterMap_cons, htext]
      · rfl
    | some s =>
      refine ⟨(owner, .text s) :: labels, ?_, fun id => ?_⟩
      · rw [Option.map_some, List.mapM_cons, Cell.readInteger_of_key hkey, hlabels]
        rfl
      · rw [labelsOwnedBy, List.filter_cons, List.filter_cons]
        have hread := hread id
        rw [labelsOwnedBy] at hread
        by_cases hid : owner = id
        · rw [if_pos (by simpa using hid), if_pos (hid ▸ hr), List.map_cons, hread,
            List.filterMap_cons, htext]
          rfl
        · have hother : ¬f.belongs id r = true := by
            intro h
            exact hid (Cell.key_int_inj (hkey.symm.trans (of_decide_eq_true h)))
          rw [if_neg (by simpa using hid), if_neg hother, hread]

end labels

namespace Database

variable {db : Database}

/-- The labels of a posting that are asked for by its id. -/
theorem Conforms.labelsIn_attributes (hdb : db.Conforms) (f : Field) {id : Int}
    (hfit : (Cell.int id).fits = true) :
    ∃ r, (Store.readable db).run (Statement.attributesOf f [id]) = .ok r ∧
      labelsIn r = (db.attachedLabels f id).map .text := by
  refine ⟨_, hdb.run_attributesOf f (by simpa using hfit), labelsIn_eq _ fun r hr => ?_⟩
  exact hdb.isLabel_ownerRows f (mem_attributeRows.mp hr).1

/-- The labels of several postings that are asked for at once: each of them gets its own. -/
theorem Conforms.labelsByOwner_attributes (hdb : db.Conforms) (f : Field) {ids : List Int}
    (hfit : ∀ id ∈ ids, (Cell.int id).fits = true) :
    ∃ r labels, (Store.readable db).run (Statement.attributesOf f ids) = .ok r ∧
      labelsByOwner r = .ok labels ∧
      ∀ id ∈ ids, labelsOwnedBy id labels = (db.attachedLabels f id).map .text := by
  obtain ⟨labels, hlabels, hread⟩ := labelsByOwner_eq_ok ["entity_id", "label"]
    (fun r hr => hdb.isLabel_ownerRows f (mem_attributeRows.mp hr).1)
    fun r (hr : r ∈ db.attributeRows f ids) => by
      obtain ⟨-, id, -, hid⟩ := mem_attributeRows.mp hr
      exact ⟨id, hid⟩
  refine ⟨_, labels, hdb.run_attributesOf f hfit, hlabels, fun id hid => ?_⟩
  rw [hread, filter_attributeRows f hid, attachedLabels]

/-! ### Both ways -/

/-- A row is read with the labels of its posting. -/
theorem Conforms.attach_eq (hdb : db.Conforms) {row : Record} {id : Int}
    (hid : rowId row = .ok id) (hfit : (Cell.int id).fits = true) :
    (Store.readable db).attach row =
      Posting.read (.object row) (.object (db.attachments id)) := by
  have hlabels : attachedFields.mapM (fun f => (do return (f.key, Json.list (labelsIn
      (← (Store.readable db).run (Statement.attributesOf f [id])))) :
        Except Fault (String × Json))) = .ok (db.attachments id) := by
    refine mapM_eq_ok (List.forall₂_same.mpr fun f _ => ?_)
    obtain ⟨r, hr, hlabels⟩ := hdb.labelsIn_attributes f hfit
    rw [hr, ← hlabels]
    rfl
  simp only [Store.attach, hid, bind, Except.bind] at hlabels ⊢
  rw [hlabels]

/-- The labels of all postings are asked for at once, and each row is read as by itself. -/
theorem Conforms.attachAll_eq_attachEach (hdb : db.Conforms) {rows : List Record}
    (h : ∀ row ∈ rows, ∃ id, rowId row = .ok id ∧ (Cell.int id).fits = true) :
    (Store.readable db).attachAll rows = (Store.readable db).attachEach rows := by
  rw [Store.attachAll, Store.attachEach]
  split
  · next hempty =>
    obtain rfl := List.isEmpty_iff.mp hempty
    rfl
  obtain ⟨ids, hids, hall⟩ := exists_mapM rows (f := rowId)
    (P := fun row id => rowId row = .ok id ∧ (Cell.int id).fits = true) fun row hrow => by
      obtain ⟨id, hid, hfit⟩ := h row hrow
      exact ⟨id, hid, hid, hfit⟩
  have hfits : ∀ id ∈ ids, (Cell.int id).fits = true := by
    intro id hid
    obtain ⟨-, -, -, hfit⟩ := forall₂_left hall id hid
    exact hfit
  -- What is found for all postings at once holds for each of them what it gets by itself.
  obtain ⟨found, hfound, hlabels⟩ := exists_mapM attachedFields
    (f := fun f => (do
      return (f.key, ← labelsByOwner (← (Store.readable db).run (Statement.attributesOf f ids))) :
        Except Fault (String × List (Int × Json))))
    (P := fun f found => ∀ id ∈ ids, (found.1, Json.list (labelsOwnedBy id found.2)) =
      (f.key, .list ((db.attachedLabels f id).map .text))) fun f _ => by
      obtain ⟨r, labels, hr, hlabels, hread⟩ := hdb.labelsByOwner_attributes f hfits
      exact ⟨(f.key, labels), by rw [hr]; simp only [bind, Except.bind, hlabels]; rfl,
        fun id hid => by rw [hread id hid]⟩
  have hattached : ∀ id ∈ ids, (found.map fun p => (p.1, Json.list (labelsOwnedBy id p.2))) =
      db.attachments id := by
    intro id hid
    rw [attachments]
    exact (List.forall₂_eq_eq_eq ▸ List.forall₂_map_left_iff.mpr (List.forall₂_map_right_iff.mpr
      (hlabels.flip.imp fun _ _ h => h id hid)))
  simp only [hids, bind, Except.bind] at hfound ⊢
  rw [hfound]
  refine mapM_congr fun row hrow => ?_
  obtain ⟨id, hmem, hid, hfit⟩ := forall₂_right hall row hrow
  rw [hdb.attach_eq hid hfit, hid]
  simp only [hattached id hmem]

/-- It makes no difference in which way labels are asked for. -/
theorem Conforms.attachTo_eq (hdb : db.Conforms) (atOnce : Bool) {rows : List Record}
    (h : ∀ row ∈ rows, ∃ id, rowId row = .ok id ∧ (Cell.int id).fits = true) :
    (Store.readable db).attachTo atOnce rows = rows.mapM (Store.readable db).attach := by
  rw [Store.attachTo]
  split
  · exact hdb.attachAll_eq_attachEach h
  · rfl

theorem attached_attachments (db : Database) (id : Int) :
    Posting.Attached (db.attachments id) := by
  intro p hp
  obtain ⟨f, -, rfl⟩ := List.mem_map.mp hp
  exact ⟨_, rfl⟩

/-- Documents of postings become postings with their ids, in both ways. -/
theorem Conforms.attachTo_eq_ok (hdb : db.Conforms) (atOnce : Bool) {rows : List Record}
    (h : ∀ row ∈ rows, ∃ id, Posting.Typed (.object row) id ∧ (Cell.int id).fits = true) :
    ∃ ps, (Store.readable db).attachTo atOnce rows = .ok ps ∧
      List.Forall₂ (fun row (p : Posting) => rowId row = .ok p.id) rows ps := by
  rw [hdb.attachTo_eq atOnce fun row hrow => by
    obtain ⟨id, htyped, hfit⟩ := h row hrow
    exact ⟨id, htyped.readId, hfit⟩]
  refine exists_mapM _ fun row hrow => ?_
  obtain ⟨id, htyped, hfit⟩ := h row hrow
  obtain ⟨p, hp, rfl⟩ := Posting.read_eq_ok htyped (db.attached_attachments id)
  exact ⟨p, (hdb.attach_eq htyped.readId hfit).trans hp, htyped.readId⟩

end Database

end JobSearch
