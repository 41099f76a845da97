import JobSearch.Proofs.Posting.Reader
import JobSearch.Proofs.Query.Joins
import JobSearch.Report.Answer

/-!
# Rows of a page as documents

A row of a page becomes a document by the names of its columns. The columns of a posting and its
labels hold what is read from them, so the document is one that is read without a fault
(`Database.Readable.typed_document`).

## Main definitions

* `Query.document` — the document of a group of rows.
-/

namespace JobSearch

open Query

theorem Cell.IsLabel.toJson {c : Cell} (h : c.IsLabel) : c.toJson.IsText := by
  rcases h with rfl | ⟨s, rfl⟩
  · exact Or.inl rfl
  · exact Or.inr ⟨s, rfl⟩

theorem Cell.IsNumeric.toJson {c : Cell} (h : c.IsNumeric) : c.toJson.IsNumber := by
  rcases h with rfl | ⟨n, rfl, hn⟩ | ⟨x, rfl⟩
  · exact Or.inl rfl
  · exact Or.inr (Or.inl ⟨n, rfl, hn⟩)
  · exact Or.inr (Or.inr ⟨x, rfl⟩)

/-- The document of a group of rows. -/
def Query.document (outputs : List Output) (g : List Joined) : Record :=
  (Ordered.ofList (outputs.map fun o => (o.name, o.expression.value g))).map
    fun p => (p.1, p.2.toJson)

theorem Query.documents_eq (outputs : List Output) (gs : List (List Joined)) :
    Result.documents
        { columns := outputs.map (·.name)
          rows := gs.map fun g => outputs.map fun o => o.expression.value g } =
      gs.map (document outputs) := by
  simp only [Result.documents, Result.records, List.map_map]
  refine List.map_congr_left fun g _ => ?_
  simp only [Function.comp_apply, List.zip_map', document]

section document

variable {outputs : List Output} {g : List Joined} {name : String}

/-- A member of a document is the value of a column of that name. -/
theorem Query.exists_of_member? {v : Json}
    (h : (Json.object (document outputs g)).member? name = some v) :
    ∃ o ∈ outputs, o.name = name ∧ v = (o.expression.value g).toJson := by
  rw [Json.member?, document, Ordered.find?_map_snd] at h
  obtain ⟨c, hc, rfl⟩ := Option.map_eq_some_iff.mp h
  obtain ⟨o, ho, he⟩ := List.mem_map.mp (Ordered.mem_of_find?_ofList hc)
  obtain ⟨rfl, rfl⟩ := Prod.mk.inj he
  exact ⟨o, ho, rfl, rfl⟩

/-- Every column is a member of the document. -/
theorem Query.exists_member? {o : Output} (ho : o ∈ outputs) :
    ∃ v, (Json.object (document outputs g)).member? o.name = some v := by
  obtain ⟨c, hc⟩ := Ordered.exists_find?_ofList (List.mem_map.mpr ⟨o, ho, rfl⟩ :
    (o.name, o.expression.value g) ∈ outputs.map fun o => (o.name, o.expression.value g))
  exact ⟨c.toJson, by rw [Json.member?, document, Ordered.find?_map_snd, hc]; rfl⟩

/-- What is true of null and of all columns of a name is true of what is read from it. -/
theorem Query.column_document {P : Json → Prop} (hnull : P .null)
    (h : ∀ o ∈ outputs, o.name = name → P (o.expression.value g).toJson) :
    P (Posting.column (.object (document outputs g)) name) := by
  rw [Posting.column]
  cases hm : (Json.object (document outputs g)).member? name with
  | none => exact hnull
  | some v =>
    obtain ⟨o, ho, hname, rfl⟩ := exists_of_member? hm
    exact h o ho hname

end document

/-! ### What is shown of a posting -/

/-- A plain column of a posting that is shown, with its kind and the name it is shown under. -/
def IsShownPlain (column : String) (kind : ColumnKind) (name : String) : Prop :=
  (column, kind) ∈ plainColumns ++ (Conversion.mk true true).columns ∧ name ≠ "id" ∧
    if name ∈ Posting.numberColumns then kind = .real ∨ kind = .integer else kind = .text

theorem mem_displayColumns : ∀ c ∈ displayColumns, ∃ kind, IsShownPlain c.1 kind c.2 := by
  have h : ∀ c ∈ displayColumns, ∃ p ∈ plainColumns, p.1 = c.1 ∧ IsShownPlain c.1 p.2 c.2 := by
    unfold IsShownPlain
    decide +kernel
  intro c hc
  obtain ⟨p, -, -, hp⟩ := h c hc
  exact ⟨p.2, hp⟩

theorem mem_convertedColumns : ∀ c ∈ convertedColumns, IsShownPlain c .real c := by
  unfold IsShownPlain
  decide +kernel

theorem mem_displayFields : ∀ f ∈ displayFields, f.entry.shape = .lookup ∧ f.key ≠ "id" ∧
    f.key ∉ Posting.numberColumns := by
  decide +kernel

/-- What is shown of a posting is its id, a label or a plain column. -/
theorem mem_shownColumns {converted : Bool} {o : Output} (ho : o ∈ shownColumns converted) :
    o = ⟨.column postingId, "id"⟩ ∨
      (∃ f ∈ displayFields, o = ⟨.column f.labelColumn, f.key⟩) ∨
      ∃ column kind, IsShownPlain column kind o.name ∧
        o.expression = .column (postingColumn column) := by
  simp only [shownColumns, List.mem_append, List.mem_cons, List.mem_map] at ho
  rcases ho with ((rfl | ⟨f, hf, rfl⟩) | ⟨c, hc, rfl⟩) | ho
  · exact Or.inl rfl
  · exact Or.inr (Or.inl ⟨f, hf, rfl⟩)
  · obtain ⟨kind, hkind⟩ := mem_displayColumns c hc
    exact Or.inr (Or.inr ⟨c.1, kind, hkind, rfl⟩)
  · split at ho
    · obtain ⟨c, hc, rfl⟩ := List.mem_map.mp ho
      exact Or.inr (Or.inr ⟨c, .real, mem_convertedColumns c hc, rfl⟩)
    · simp at ho

namespace Database

variable {db : Database}

/-- The document of a row that shows a posting has its id. -/
theorem Conforms.id_document (hdb : db.Conforms) (converted : Bool) {j : Row}
    (hj : j ∈ db.postings) {r : Joined} {fields : List Field} (hr : Shows db fields j r) :
    (Json.object (document (shownColumns converted) [r])).member? "id" =
      some (.int (idOf j)) := by
  obtain ⟨v, hv⟩ := exists_member? (g := [r]) (show ⟨.column postingId, "id"⟩ ∈
    shownColumns converted by simp [shownColumns])
  obtain ⟨o, ho, hname, rfl⟩ := exists_of_member? hv
  rw [hv]
  rcases mem_shownColumns ho with rfl | ⟨f, hf, rfl⟩ | ⟨column, kind, h, -⟩
  · show some (r.cell ⟨postingQualifier, "id"⟩).toJson = _
    rw [hr.cell, hdb.cell_id hj]
    rfl
  · exact absurd hname (mem_displayFields f hf).2.1
  · exact absurd hname h.2.1

/-- The document of a row that shows a posting is typed, and its id is that of the posting. -/
theorem Readable.typed_document (hdb : db.Readable) (converted : Bool) {j : Row}
    (hj : j ∈ db.postings) {r : Joined} {fields : List Field} (hr : Shows db fields j r)
    (hfields : ∀ f ∈ displayFields, f ∈ fields) :
    Posting.Typed (.object (document (shownColumns converted) [r])) (idOf j) := by
  have hlabel : ∀ f ∈ displayFields,
      (Expression.value [r] (.column f.labelColumn)).IsLabel := by
    intro f hf
    show (r.cell f.labelColumn).IsLabel
    rw [hr.label f (hfields f hf) (mem_displayFields f hf).1]
    exact hdb.isLabel_label f j
  have hplain : ∀ column kind name, IsShownPlain column kind name →
      (Expression.value [r] (.column (postingColumn column))).Suits kind := by
    intro column kind name h
    show (r.cell ⟨postingQualifier, column⟩).Suits kind
    rw [hr.cell]
    exact hdb.columns j hj (column, kind) h.1
  refine ⟨hdb.toConforms.id_document converted hj hr, fun name hid hname => ?_,
    fun name hname => ?_⟩
  · refine column_document (Or.inl rfl) fun o ho he => ?_
    rcases mem_shownColumns ho with rfl | ⟨f, hf, rfl⟩ | ⟨column, kind, h, hexp⟩
    · exact absurd he.symm hid
    · exact (hlabel f hf).toJson
    · have hsuits := hplain column kind _ h
      obtain rfl : kind = .text := by simpa [he, hname] using h.2.2
      rw [hexp]
      exact Cell.IsLabel.toJson hsuits
  · refine column_document (Or.inl rfl) fun o ho he => ?_
    rcases mem_shownColumns ho with rfl | ⟨f, hf, rfl⟩ | ⟨column, kind, h, hexp⟩
    · subst he
      exact absurd hname (by decide)
    · subst he
      exact absurd hname (mem_displayFields f hf).2.2
    · have hsuits := hplain column kind _ h
      have hkind : kind = .real ∨ kind = .integer := by simpa [he, hname] using h.2.2
      rw [hexp]
      rcases hkind with rfl | rfl <;> exact Cell.IsNumeric.toJson hsuits

end Database

end JobSearch
