import JobSearch.Proofs.Browse.PageRows
import JobSearch.Proofs.Query.StoredLabels

/-!
# Labels at once or row by row

The postings of a page are the same whether the labels of each field are asked for at once or row
by row, and in both ways a posting has exactly the labels that are stored for it
(`Database.attachTo_atOnce_eq`): in storage order, without those that are absent, and with those
that are repeated.
-/

namespace JobSearch

open Query

namespace Database

variable {db : Database}

/-- The labels that are read for a posting are the texts that are stored for it. -/
theorem Conforms.attachedLabels_eq (hdb : db.Conforms) (ho : db.InStorageOrder) {f : Field}
    (hf : f ∈ attachedFields) {j : Row} (hj : j ∈ db.postings) :
    db.attachedLabels f (idOf j) = (db.labels f j).filterMap Cell.asText? := by
  have hmulti : ∀ f ∈ attachedFields, f.isMultiValued = true := by decide
  rw [attachedLabels, ← hdb.labels_attributeRows ho (hmulti f hf) hj, List.filterMap_map]
  rfl

/-- What is attached under the key of a field are the labels of the field. -/
theorem attachedItems_attachments (db : Database) (id : Int) {f : Field} (hf : f ∈ attachedFields) :
    Posting.attachedItems (.object (db.attachments id)) f.key =
      .ok ((db.attachedLabels f id).map .text) := by
  have hkeys : ((db.attachments id).map (·.1)).Nodup := by
    have hnodup : (attachedFields.map Field.key).Nodup := by decide
    rwa [attachments, List.map_map]
  have hfind := (Ordered.find?_eq_some_iff hkeys).mpr
    (List.mem_map_of_mem (f := fun f => (f.key, Json.list ((db.attachedLabels f id).map .text))) hf)
  rw [Posting.attachedItems, Json.member?, hfind]
  rfl

/-- The document of a posting is read as a posting with the labels that are stored for it. -/
theorem Conforms.isAttached_of_attach (hdb : db.Conforms) (ho : db.InStorageOrder)
    (converted : Bool) {j : Row} (hj : j ∈ db.postings) {p : Posting}
    (h : (Store.readable db).attach (db.postingDocument converted j) = .ok p) {f : Field}
    (hf : f ∈ attachedFields) : p.attached f = (db.labels f j).filterMap Cell.asText? := by
  have hitems := (hdb.read_of_attach converted hj h).2 f hf
  have hlabels := hitems.symm.trans (db.attachedItems_attachments (idOf j) hf)
  rw [← hdb.attachedLabels_eq ho hf hj]
  exact List.map_injective_iff.mpr (fun _ _ h => by injection h) (Except.ok.inj hlabels)

/-- The rows of pages, however many and however often, become the same postings whether labels are
asked for at once or row by row: each has the id of its row and, in each attached field, the texts
that are stored for the posting, in storage order. If the columns of postings hold what they prefer
then nothing fails. -/
theorem attachTo_atOnce_eq (hdb : db.Conforms) (ho : db.InStorageOrder) {rows : List Record}
    (hrows : ∀ row ∈ rows, db.IsPageRow row) :
    (Store.readable db).attachTo true rows = (Store.readable db).attachTo false rows ∧
    (∀ atOnce ps, (Store.readable db).attachTo atOnce rows = .ok ps →
      List.Forall₂ (fun row (p : Posting) => ∃ j ∈ db.postings, rowId row = .ok (idOf j) ∧
        p.id = idOf j ∧ ∀ f ∈ attachedFields,
          p.attached f = (db.labels f j).filterMap Cell.asText?) rows ps) ∧
    (db.Readable → ∀ atOnce, ∃ ps, (Store.readable db).attachTo atOnce rows = .ok ps) := by
  have hids : ∀ row ∈ rows, ∃ id, rowId row = .ok id ∧ (Cell.int id).fits = true :=
    fun row hrow => hdb.rowId_of_isPageRow (hrows row hrow)
  refine ⟨?_, fun atOnce ps hps => ?_, fun hread atOnce => ?_⟩
  · rw [hdb.attachTo_eq true hids, hdb.attachTo_eq false hids]
  · rw [hdb.attachTo_eq atOnce hids] at hps
    have hread := (List.forall₂_and_left rows ps).mpr ⟨hrows, forall₂_of_mapM hps⟩
    refine hread.imp fun row p ⟨hrow, hp⟩ => ?_
    obtain ⟨converted, j, hj, rfl⟩ := hdb.document_of_isPageRow hrow
    exact ⟨j, hj, hdb.rowId_postingDocument converted hj, (hdb.read_of_attach converted hj hp).1,
      fun f hf => hdb.isAttached_of_attach ho converted hj hp hf⟩
  · obtain ⟨ps, hps, -⟩ := hdb.attachTo_eq_ok atOnce fun row hrow =>
      hread.typed_of_isPageRow (hrows row hrow)
    exact ⟨ps, hps⟩

/-- A row twice: its job asks twice for one skill, and one of its skills is absent. -/
theorem attachTo_atOnce_of_sample : ∃ row p q, Dataset.sample.database.IsPageRow row ∧
    (Store.readable Dataset.sample.database).attachTo true [row, row] = .ok [p, q] ∧
    (Store.readable Dataset.sample.database).attachTo false [row, row] = .ok [p, q] ∧
    p.id = 7 ∧ p.attached .hardSkills = ["welding", "welding", "cutting"] ∧
    p.attached .benefits = [] := by
  have hdb := Dataset.storable_sample.readable Dataset.typed_sample
  have hfew : Dataset.sample.database.postings.length < Number.twoTo 63 := by decide +kernel
  have hjob : ∃ j ∈ Dataset.sample.database.postings, idOf j = 7 := by decide +kernel
  have hlabels : ∀ i ∈ Dataset.sample.database.postings, idOf i = 7 →
      (Dataset.sample.database.labels .hardSkills i).filterMap Cell.asText? =
          ["welding", "welding", "cutting"] ∧
        (Dataset.sample.database.labels .benefits i).filterMap Cell.asText? = [] := by
    decide +kernel
  obtain ⟨row, hrow, hid⟩ : ∃ row, Dataset.sample.database.IsPageRow row ∧ rowId row = .ok 7 := by
    obtain ⟨j, hj, hid⟩ := hjob
    exact ⟨_, hdb.isPageRow_postingDocument hfew false hj,
      hid ▸ hdb.rowId_postingDocument false hj⟩
  have hrows : ∀ row' ∈ [row, row], Dataset.sample.database.IsPageRow row' := by simpa using hrow
  obtain ⟨hsame, hattached, hok⟩ := attachTo_atOnce_eq Dataset.storable_sample.conforms
    Dataset.storable_sample.inStorageOrder hrows
  obtain ⟨ps, hps⟩ := hok hdb true
  obtain _ | ⟨⟨i, hi, hrowId, hpid, hread⟩, _ | ⟨-, _ | _⟩⟩ := hattached true ps hps
  have hi7 : idOf i = 7 := Except.ok.inj (hrowId.symm.trans hid)
  obtain ⟨hskills, hbenefits⟩ := hlabels i hi hi7
  refine ⟨row, _, _, hrow, hps, hsame.symm.trans hps, hpid.trans hi7, ?_, ?_⟩
  · rw [hread .hardSkills (by decide), hskills]
  · rw [hread .benefits (by decide), hbenefits]

end Database

end JobSearch
