import JobSearch.Proofs.Browse.Pages
import JobSearch.Proofs.Posting.Attached

/-!
# The rows of a page

Whatever the predicate, the order and the part of a page statement, each of its rows is the document
of a posting (`Database.Conforms.document_of_isPageRow`). The document does not depend on the
other tables that the statement joins: it is the one that shows the posting and the labels that
are displayed (`Database.document_eq`). What is read from it has the id of the posting and the
labels that are attached to it (`Database.Conforms.read_of_attach`).

## Main definitions

* `Database.IsPageRow` — a row that a page shows.
* `Database.postingDocument` — the document of a posting.
-/

namespace JobSearch

open Query

/-- A statement keeps some of the rows of its source. -/
theorem Query.Statement.mem_source_of_kept {db : Database} {s : Statement} {found rows : List Joined}
    (hfound : s.source.rows db = .ok found) (hkept : s.kept db = .ok rows) {r : Joined}
    (hr : r ∈ rows) : r ∈ found := by
  rw [Statement.kept, hfound] at hkept
  cases hcondition : s.condition with
  | none =>
    obtain rfl : found = rows := by simpa [hcondition] using hkept
    exact hr
  | some c =>
    simp only [hcondition] at hkept
    cases hresolve : c.resolve (Carriers.find db) with
    | error table => simp [hresolve] at hkept
    | ok c' =>
      simp only [hresolve, Except.ok.injEq] at hkept
      exact (List.mem_filter.mp (hkept ▸ hr)).1

/-- A statement that is answered shows lines of the rows that it keeps. -/
theorem Store.eq_of_run_readable {db : Database} {s : Statement} {r : Result Cell}
    (h : (Store.readable db).run s = .ok r) :
    ∃ rows, s.kept db = .ok rows ∧ r =
      { columns := s.outputs.map (·.name)
        rows := (s.window.cut (s.lines rows)).map fun g =>
          s.outputs.map fun o => o.expression.value g } := by
  rw [Store.run, Store.runAs, Statement.run] at h
  cases hkept : s.kept db with
  | error table => simp [hkept, Except.mapError] at h
  | ok rows =>
    simp only [hkept] at h
    split at h
    · exact ⟨rows, rfl, (Except.ok.inj h).symm⟩
    · simp [Except.mapError] at h

namespace Database

variable {db : Database}

/-- A row that a page of the database shows. -/
def IsPageRow (db : Database) (row : Record) : Prop :=
  ∃ p sortKey number size converted s r,
    Statement.page p sortKey number size converted = .ok s ∧
      (Store.readable db).run s = .ok r ∧ row ∈ r.documents

/-- The document of a posting. -/
def postingDocument (db : Database) (converted : Bool) (j : Row) : Record :=
  document (shownColumns converted) [db.joined displayFields j]

/-- What is shown of a row is its posting and the labels that are displayed. -/
theorem document_eq (converted : Bool) {j : Row} {r : Joined} {fields : List Field}
    (hr : Shows db fields j r) (hfields : ∀ f ∈ displayFields, f ∈ fields) :
    document (shownColumns converted) [r] = db.postingDocument converted j := by
  have hshows := Shows.joined db displayFields j
  have hvalue : ∀ o ∈ shownColumns converted, o.expression.value [r] =
      o.expression.value [db.joined displayFields j] := by
    intro o ho
    rcases mem_shownColumns ho with rfl | ⟨f, hf, rfl⟩ | ⟨column, kind, -, hexp⟩
    · exact (hr.cell "id").trans (hshows.cell "id").symm
    · have hshape := (mem_displayFields f hf).1
      exact (hr.label f (hfields f hf) hshape).trans (hshows.label f hf hshape).symm
    · rw [hexp]
      exact (hr.cell column).trans (hshows.cell column).symm
  rw [postingDocument, document, document]
  refine congrArg (fun cells => (Ordered.ofList cells).map _) (List.map_congr_left fun o ho => ?_)
  rw [hvalue o ho]

/-- The rows of a page are the documents of postings. -/
theorem Conforms.documents_page (hdb : db.Conforms) {p : Predicate} {sortKey : Option String}
    {number size : Int} {converted : Bool} {s : Statement} {r : Result Cell}
    (hs : Statement.page p sortKey number size converted = .ok s)
    (hr : (Store.readable db).run s = .ok r) {row : Record} (hrow : row ∈ r.documents) :
    ∃ j ∈ db.postings, row = db.postingDocument converted j := by
  obtain ⟨-, -, rfl⟩ := Statement.page_eq_ok_iff.mp hs
  obtain ⟨rows, hkept, rfl⟩ := Store.eq_of_run_readable hr
  rw [documents_eq] at hrow
  obtain ⟨g, hg, rfl⟩ := List.mem_map.mp hrow
  obtain ⟨k, hk, rfl⟩ := List.mem_map.mp
    ((Statement.lines_perm _ _).mem_iff.mp ((Window.cut_sublist _ _).subset hg))
  obtain ⟨j, hj, rfl⟩ := List.mem_map.mp
    (Statement.mem_source_of_kept (hdb.postingSource_rows _) hkept hk)
  refine ⟨j, hj, document_eq converted (Shows.joined db _ j) fun f hf => ?_⟩
  rw [List.append_assoc]
  exact List.mem_append_left _ hf

/-- A row that a page shows is the document of a posting. -/
theorem Conforms.document_of_isPageRow (hdb : db.Conforms) {row : Record} (h : db.IsPageRow row) :
    ∃ converted, ∃ j ∈ db.postings, row = db.postingDocument converted j := by
  obtain ⟨p, sortKey, number, size, converted, s, r, hs, hr, hrow⟩ := h
  exact ⟨converted, hdb.documents_page hs hr hrow⟩

/-- The document of a posting is shown by a page that is large enough. -/
theorem Conforms.isPageRow_postingDocument (hdb : db.Conforms)
    (hmax : db.postings.length < Number.twoTo 63) (converted : Bool) {j : Row}
    (hj : j ∈ db.postings) : db.IsPageRow (db.postingDocument converted j) := by
  have hlength : 0 < db.postings.length := List.length_pos_of_mem hj
  have hs : Statement.page .trivial none 1 db.postings.length converted = .ok (Statement.slice
      .trivial (SortChoice.ofKey none) converted db.postings.length 0) := by
    rw [Statement.page_eq_ok_iff]
    exact ⟨by decide, by omega, by rw [Int.sub_self, Int.zero_mul]⟩
  have hkept : (Statement.slice .trivial (SortChoice.ofKey none) converted db.postings.length
      0).kept db = .ok (db.postings.map (db.joined
        (displayFields ++ [] ++ (SortChoice.ofKey none).field?.toList))) := by
    rw [Statement.kept_eq_filter (hdb.postingSource_rows _) fun c hc => by
      simp [Statement.slice, Predicate.trivial] at hc]
    exact congrArg Except.ok (List.filter_true _)
  have hparams : (Statement.slice .trivial (SortChoice.ofKey none) converted db.postings.length
      0).params.all Cell.fits = true :=
    Statement.all_fits rfl rfl (Or.inr ⟨_, _, rfl, fits_natCast hmax, by decide⟩)
  refine ⟨_, _, _, _, _, _, _, hs, Store.run_readable hkept hparams, ?_⟩
  rw [lines_slice fun f hf => by simp [Option.mem_def.mp hf],
    show (Statement.slice .trivial (SortChoice.ofKey none) converted db.postings.length 0).window =
      .slice db.postings.length (0 : Nat) from rfl, cut_slice, List.drop_zero,
    List.take_of_length_le (by rw [List.length_map, List.length_mergeSort]), documents_eq]
  rw [List.map_map]
  refine List.mem_map.mpr ⟨j, List.mem_mergeSort.mpr hj, ?_⟩
  refine document_eq converted (Shows.joined db _ j) fun f hf => ?_
  rw [List.append_assoc]
  exact List.mem_append_left _ hf

/-- The document of a posting has its id, which fits the storage. -/
theorem Conforms.rowId_postingDocument (hdb : db.Conforms) (converted : Bool) {j : Row}
    (hj : j ∈ db.postings) : rowId (db.postingDocument converted j) = .ok (idOf j) := by
  have hid := hdb.id_document converted hj (Shows.joined db displayFields j)
  rw [rowId, Posting.readId, postingDocument, hid]
  rfl

/-- The document of a posting is read with the labels of the posting. -/
theorem Conforms.attach_postingDocument (hdb : db.Conforms) (converted : Bool) {j : Row}
    (hj : j ∈ db.postings) :
    (Store.readable db).attach (db.postingDocument converted j) =
      Posting.read (.object (db.postingDocument converted j))
        (.object (db.attachments (idOf j))) :=
  hdb.attach_eq (hdb.rowId_postingDocument converted hj) (hdb.postings.fits_id hj)

/-- What is read from the document of a posting has its id and the labels that are attached. -/
theorem Conforms.read_of_attach (hdb : db.Conforms) (converted : Bool) {j : Row}
    (hj : j ∈ db.postings) {p : Posting}
    (h : (Store.readable db).attach (db.postingDocument converted j) = .ok p) :
    p.id = idOf j ∧ ∀ f ∈ attachedFields,
      Posting.attachedItems (.object (db.attachments (idOf j))) f.key =
        .ok ((p.attached f).map .text) := by
  rw [hdb.attach_postingDocument converted hj] at h
  obtain ⟨hid, hitems⟩ := Posting.attachedItems_of_read (db.attached_attachments (idOf j)) h
  exact ⟨Except.ok.inj (hid.symm.trans (hdb.rowId_postingDocument converted hj)), hitems⟩

/-- The document of a posting can be read if the columns of postings hold what they prefer. -/
theorem Readable.typed_postingDocument (hdb : db.Readable) (converted : Bool) {j : Row}
    (hj : j ∈ db.postings) : Posting.Typed (.object (db.postingDocument converted j)) (idOf j) :=
  hdb.typed_document converted hj (Shows.joined db displayFields j) fun _ hf => hf

/-- The rows of a page have ids that fit the storage. -/
theorem Conforms.rowId_of_isPageRow (hdb : db.Conforms) {row : Record} (h : db.IsPageRow row) :
    ∃ id, rowId row = .ok id ∧ (Cell.int id).fits = true := by
  obtain ⟨converted, j, hj, rfl⟩ := hdb.document_of_isPageRow h
  exact ⟨idOf j, hdb.rowId_postingDocument converted hj, hdb.postings.fits_id hj⟩

theorem Readable.typed_of_isPageRow (hdb : db.Readable) {row : Record} (h : db.IsPageRow row) :
    ∃ id, Posting.Typed (.object row) id ∧ (Cell.int id).fits = true := by
  obtain ⟨converted, j, hj, rfl⟩ := hdb.document_of_isPageRow h
  exact ⟨idOf j, hdb.typed_postingDocument converted hj, hdb.postings.fits_id hj⟩

end Database

end JobSearch
