import JobSearch.Proofs.Browse.Limits
import JobSearch.Proofs.Browse.Single

/-!
# Currencies

No conversion is ever computed, and no currency is made up
(`salaries_keep_their_currency`). A converted range is shown only if the dataset has both of its
columns. Without one a salary is its stored range under the currency that the posting names,
whatever the target currency is, and the default currency is shown only where a range is stored and
no currency is named.

What is served from any dataset, readable or not, was read from a row whose columns are those of
its statement (`Store.exists_row_of_attachTo`, `Store.columns_of_runAs`). Where the columns of
postings hold what they prefer, a posting is served with the salary that its row states
(`Database.Readable.salary_postingDocument`).

## Main definitions

* `Store.HoldsConversion` — a dataset has both columns of converted salaries.
* `Store.Serves` — what holds of all postings that are served from a dataset.
* `Database.statedSalary` — the salary that a dataset states for a posting.
* `Salary.storedText` — the stored range of a salary in words.
-/

namespace JobSearch

open Query

/-! ### Salaries in words -/

namespace Salary

variable {s : Salary}

/-- The stored range of a salary under a currency. -/
def storedText (s : Salary) (currency : String) : String :=
  match s.min with
  | none => unspecified
  | some low => rangeText low s.max currency

/-- A salary names no currency if there is none or it is empty. -/
theorem ownCurrency_eq_none_iff :
    s.ownCurrency = none ↔ s.currency = none ∨ s.currency = some "" := by
  rw [ownCurrency]
  cases s.currency with
  | none => simp
  | some c => simp

/-- Without a conversion the stored range is shown, whatever the target currency is. -/
theorem display_of_unconverted (h : s.convertedMin = none) (target default : String) :
    s.display target default = s.storedText (s.ownCurrency.getD (Text.upper default)) := by
  rw [display, h]
  rfl

/-- The default currency is shown only for a stored range without a currency. -/
theorem unlabelled_of_display_ne {target default default' : String}
    (h : s.display target default ≠ s.display target default') :
    s.convertedMin = none ∧ s.min ≠ none ∧ s.ownCurrency = none := by
  cases hconverted : s.convertedMin with
  | some low =>
    refine absurd ?_ h
    rw [display, display, hconverted]
  | none =>
    rw [display_of_unconverted hconverted, display_of_unconverted hconverted, storedText,
      storedText] at h
    refine ⟨rfl, fun hmin => h ?_, ?_⟩
    · rw [hmin]
    · cases hown : s.ownCurrency with
      | none => rfl
      | some own =>
        rw [hown] at h
        exact absurd rfl h

/-- A salary has no converted range where none is given. -/
theorem unconverted_of_read {part : String → Json} (h : read part = .valid s)
    (hmin : part "min_mdl" = .null) (hmax : part "max_mdl" = .null) :
    s.convertedMin = none ∧ s.convertedMax = none := by
  have hensures : (read part).Ensures fun s => s.convertedMin = none ∧ s.convertedMax = none := by
    simp only [read, hmin, hmax, Json.readOptional, Checked.ofExcept, Checked.ensures_seq,
      Checked.ensures_map, Checked.ensures_valid, and_self, Checked.ensures_true]
  exact hensures s h

end Salary

/-! ### Postings and their rows -/

/-- A member of a document of a result is a column of the result. -/
theorem Query.Result.mem_columns_of_member? {r : Result Cell} {row : Record}
    (hrow : row ∈ r.documents) {name : String} {v : Json}
    (h : (Json.object row).member? name = some v) : name ∈ r.columns := by
  obtain ⟨cells, hcells, rfl⟩ := List.mem_map.mp hrow
  obtain ⟨row, -, rfl⟩ := List.mem_map.mp hcells
  rw [Json.member?, Ordered.find?_map_snd] at h
  obtain ⟨c, hc, -⟩ := Option.map_eq_some_iff.mp h
  exact (List.of_mem_zip (Ordered.mem_of_find?_ofList hc)).1

/-- A column that a result does not have holds nothing in its documents. -/
theorem Query.Result.column_eq_null {r : Result Cell} {row : Record} (hrow : row ∈ r.documents)
    {name : String} (hname : name ∉ r.columns) : Posting.column (.object row) name = .null := by
  rw [Posting.column]
  cases h : (Json.object row).member? name with
  | none => rfl
  | some v => exact absurd (r.mem_columns_of_member? hrow h) hname

/-- The salary of a posting is read from its row. -/
theorem Posting.salary_of_read {row attached : Json} {e : Posting}
    (h : Posting.read row attached = .ok e) :
    Salary.read (fun part => column row (salaryColumn part)) = .valid e.salary := by
  simp only [Posting.read, bind_eq_ok_iff] at h
  obtain ⟨id, -, location, -, salary, hsalary, employment, -, requirements, -, benefits, -, origin,
    -, details, -, wording, -, h⟩ := h
  have he : salary = e.salary := by
    refine Checked.Ensures.of_toExcept (P := fun e : Posting => salary = e.salary) ?_ h
    simp only [Checked.ensures_seq, Checked.ensures_map, Checked.ensures_pure,
      Checked.ensures_true]
  rw [← he]
  cases hread : Salary.read (fun part => column row (salaryColumn part)) with
  | valid s =>
    rw [hread] at hsalary
    exact congrArg Checked.valid (Except.ok.inj hsalary)
  | invalid vs =>
    rw [hread] at hsalary
    cases hsalary

/-- The columns of a result over tables are those that the statement shows. -/
theorem Query.Statement.columns_of_run {db : Database} {s : Statement} {r : Result Cell}
    (h : s.run db = .ok r) : r.columns = s.outputs.map (·.name) := by
  rw [Statement.run] at h
  split at h
  · cases h
  · split at h
    · rw [← Except.ok.inj h]
    · cases h

/-- The columns of a result over an image are those that the statement shows. -/
theorem ImageContents.columns_of_run {contents : ImageContents} {s : Statement} {r : Result Cell}
    (h : contents.run s = .ok r) : r.columns = s.outputs.map (·.name) := by
  rw [ImageContents.run] at h
  split at h
  · cases h
  · split at h
    · cases h
    · cases hrun : (s.agreeing contents.kinds).run contents.database with
      | error f => simp [hrun] at h
      | ok r' =>
        simp only [hrun] at h
        split at h
        · cases h
        · split at h
          · cases h
          · rw [← Except.ok.inj h]
            exact Statement.columns_of_run (s := s.agreeing contents.kinds) hrun

namespace Store

variable {store : Store} {s : Statement} {r : Result Cell} {row : Record} {rows : List Record}
  {e : Posting} {es : List Posting}

/-- The columns of an answer are those that the statement shows. -/
theorem columns_of_runAs {text : String} {params : List Cell}
    (h : store.runAs text params s = .ok r) : r.columns = s.outputs.map (·.name) := by
  induction store with
  | readable db =>
    rw [runAs] at h
    cases hrun : s.run db with
    | error f => simp [hrun, Except.mapError] at h
    | ok r' =>
      obtain rfl : r' = r := by simpa [hrun, Except.mapError] using h
      exact Statement.columns_of_run hrun
  | image contents =>
    rw [runAs] at h
    cases hrun : contents.run s with
    | error f => simp [hrun, Except.mapError] at h
    | ok r' =>
      obtain rfl : r' = r := by simpa [hrun, Except.mapError] using h
      exact ImageContents.columns_of_run hrun
  | unreadable why => cases h
  | limited engine store ih => exact ih ((curtails_runAs engine store text params s).eq_ok h)

theorem exists_read_of_attach (h : store.attach row = .ok e) :
    ∃ attached, Posting.read (.object row) attached = .ok e := by
  obtain ⟨id, -, h⟩ := bind_eq_ok_iff.mp h
  obtain ⟨attached, -, h⟩ := bind_eq_ok_iff.mp h
  exact ⟨_, h⟩

/-- Postings are read from their rows, in both ways in which labels are attached. -/
theorem exists_row_of_attachTo {atOnce : Bool} (h : store.attachTo atOnce rows = .ok es)
    (he : e ∈ es) : ∃ row ∈ rows, ∃ attached, Posting.read (.object row) attached = .ok e := by
  rw [attachTo] at h
  split at h
  · rw [attachAll] at h
    split at h
    · rw [← Except.ok.inj h] at he
      cases he
    · obtain ⟨ids, -, h⟩ := bind_eq_ok_iff.mp h
      obtain ⟨found, -, h⟩ := bind_eq_ok_iff.mp h
      obtain ⟨row, hrow, hread⟩ := forall₂_left (forall₂_of_mapM h) e he
      obtain ⟨id, -, hread⟩ := bind_eq_ok_iff.mp hread
      exact ⟨row, hrow, _, hread⟩
  · obtain ⟨row, hrow, hread⟩ := forall₂_left (forall₂_of_mapM h) e he
    exact ⟨row, hrow, exists_read_of_attach hread⟩

/-! ### What is served -/

/-- A dataset has both columns of converted salaries. -/
def HoldsConversion (store : Store) : Prop :=
  ∃ columns, store.columnsOf postingTable = .ok columns ∧ ∀ c ∈ convertedColumns, c ∈ columns

theorem hasConversion_eq_ok_true_iff : store.hasConversion = .ok true ↔ store.HoldsConversion := by
  rw [hasConversion, HoldsConversion, hasColumn, hasColumn]
  cases store.columnsOf postingTable with
  | error f => simp [bind, Except.bind, Except.map]
  | ok columns =>
    by_cases hmin : columns.contains "min_salary_mdl" = true <;>
      simp_all [bind, Except.bind, Except.map, pure, Except.pure, convertedColumns]

/-- What holds of all postings that are served, on pages and by themselves. -/
def Serves (store : Store) (P : Posting → Prop) : Prop :=
  (∀ atOnce q page, store.page atOnce q = .ok page → ∀ e ∈ page.postings, P e) ∧
    ∀ id e, store.posting? id = .ok (some e) → P e

/-- The postings of a page are read from the rows of its statement. -/
theorem exists_rows_of_page {atOnce : Bool} {q : PageRequest} {page : Page}
    (h : store.page atOnce q = .ok page) : ∃ p converted s r,
      store.hasConversion = .ok converted ∧
      Statement.page p q.sortKey q.number q.size converted = .ok s ∧ store.run s = .ok r ∧
      store.attachTo atOnce r.documents = .ok page.postings := by
  obtain ⟨p, -, h⟩ := bind_eq_ok_iff.mp h
  obtain ⟨total, -, h⟩ := bind_eq_ok_iff.mp h
  obtain ⟨converted, hconverted, h⟩ := bind_eq_ok_iff.mp h
  obtain ⟨s, hs, h⟩ := bind_eq_ok_iff.mp h
  obtain ⟨r, hr, h⟩ := bind_eq_ok_iff.mp h
  obtain ⟨postings, hpostings, h⟩ := bind_eq_ok_iff.mp h
  obtain ⟨pages, -, h⟩ := bind_eq_ok_iff.mp h
  obtain rfl := Except.ok.inj h
  exact ⟨p, converted, s, r, hconverted, hs, hr, hpostings⟩

/-- No posting has a converted salary if its row has no column for one. -/
theorem serves_of_not_holdsConversion (h : ¬store.HoldsConversion) :
    store.Serves fun e => e.salary.convertedMin = none ∧ e.salary.convertedMax = none := by
  have hshown {converted : Bool} (hconverted : store.hasConversion = .ok converted) :
      converted = false := by
    cases converted with
    | false => rfl
    | true => exact absurd (hasConversion_eq_ok_true_iff.mp hconverted) h
  have habsent : ∀ name ∈ convertedColumns, name ∉ (shownColumns false).map (·.name) := by
    decide
  have hunconverted {s : Statement} {r : Result Cell} (hs : s.outputs = shownColumns false)
      (hr : store.run s = .ok r) {row : Record} (hrow : row ∈ r.documents) {attached : Json}
      {e : Posting} (hread : Posting.read (.object row) attached = .ok e) :
      e.salary.convertedMin = none ∧ e.salary.convertedMax = none := by
    have hcolumns := (columns_of_runAs hr).trans (congrArg (List.map (·.name)) hs)
    have hnull : ∀ name ∈ convertedColumns, Posting.column (.object row) name = .null :=
      fun name hname => r.column_eq_null hrow (hcolumns ▸ habsent name hname)
    exact Salary.unconverted_of_read (Posting.salary_of_read hread)
      (hnull "min_salary_mdl" (by decide)) (hnull "max_salary_mdl" (by decide))
  refine ⟨fun atOnce q page hpage e he => ?_, fun id e hposting => ?_⟩
  · obtain ⟨p, converted, s, r, hconverted, hs, hr, hpostings⟩ := exists_rows_of_page hpage
    obtain ⟨-, -, rfl⟩ := Statement.page_eq_ok_iff.mp hs
    obtain ⟨row, hrow, attached, hread⟩ := exists_row_of_attachTo hpostings he
    exact hunconverted (congrArg shownColumns (hshown hconverted)) hr hrow hread
  · obtain ⟨converted, hconverted, hposting⟩ := bind_eq_ok_iff.mp hposting
    obtain ⟨r, hr, hposting⟩ := bind_eq_ok_iff.mp hposting
    split at hposting
    · cases hposting
    · next row rest hrows =>
      obtain ⟨e', hattach, hposting⟩ := bind_eq_ok_iff.mp hposting
      obtain rfl : e' = e := Option.some.inj (Except.ok.inj hposting)
      obtain ⟨attached, hread⟩ := exists_read_of_attach hattach
      exact hunconverted (congrArg shownColumns (hshown hconverted)) hr
        (hrows ▸ List.mem_cons_self) hread

end Store

/-! ### What is stored -/

theorem nodup_shownColumns (converted : Bool) : ((shownColumns converted).map (·.name)).Nodup := by
  cases converted <;> decide

/-- The salary of a typed row is what its columns hold. -/
theorem Posting.Typed.salary_eq {row : Json} {id : Int} (h : Typed row id) :
    Salary.read (fun part => column row (salaryColumn part)) = .valid
      { min := (column row "min_salary").real?
        max := (column row "max_salary").real?
        currency := (column row "salary_currency").text?
        period := (column row "salary_period").text?
        convertedMin := (column row "min_salary_mdl").real?
        convertedMax := (column row "max_salary_mdl").real? } := by
  simp (disch := decide) only [Salary.read, salaryColumn, h.textPart, h.numberPart,
    Checked.map_valid, Checked.seq_valid]

namespace Database

variable {db : Database} {j : Row}

/-- A dataset has both columns of converted salaries. -/
def holdsConversion (db : Database) : Bool :=
  convertedColumns.all (db.columnsOf postingTable).contains

/-- The salary that a dataset states for a posting: what is stored, the label of its currency, and
a converted range if the dataset has both of its columns. -/
def statedSalary (db : Database) (j : Row) : Salary :=
  let number (name : String) : Option Float := (j.cell name).toJson.real?
  { min := number "min_salary"
    max := number "max_salary"
    currency := (db.label .salaryCurrency j).toJson.text?
    period := (db.label .salaryPeriod j).toJson.text?
    convertedMin := if db.holdsConversion then number "min_salary_mdl" else none
    convertedMax := if db.holdsConversion then number "max_salary_mdl" else none }

/-- A column of the document of a posting holds what is shown under its name. -/
theorem column_postingDocument {converted : Bool} {o : Output} (ho : o ∈ shownColumns converted)
    (j : Row) : Posting.column (.object (db.postingDocument converted j)) o.name =
      (o.expression.value [db.joined displayFields j]).toJson := by
  obtain ⟨v, hv⟩ := exists_member? (g := [db.joined displayFields j]) ho
  obtain ⟨o', ho', hname, rfl⟩ := exists_of_member? hv
  obtain rfl : o' = o := List.inj_on_of_nodup_map (nodup_shownColumns converted) ho' ho hname
  rw [Posting.column, postingDocument, hv]
  rfl

/-- Nothing is read from a column that is not shown. -/
theorem column_eq_null {converted : Bool} {name : String}
    (h : name ∉ (shownColumns converted).map (·.name)) (j : Row) :
    Posting.column (.object (db.postingDocument converted j)) name = .null := by
  rw [postingDocument]
  exact column_document (P := fun v => v = .null) rfl fun o ho he =>
    absurd (List.mem_map.mpr ⟨o, ho, he⟩) h

theorem columnsOf_readable :
    (Store.readable db).columnsOf postingTable = .ok (db.columnsOf postingTable) := by
  have hname : Text.lowerAscii (String.ofList (postingTable.toList.takeWhile (·.toNat ≠ 0))) =
      postingTable := by decide
  have hlist : listTables.contains postingTable = false := by decide
  simp only [Store.columnsOf, hname, hlist, Bool.false_eq_true, if_false]

theorem hasConversion_readable : (Store.readable db).hasConversion = .ok db.holdsConversion := by
  rw [Store.hasConversion, Store.hasColumn, Store.hasColumn, columnsOf_readable, holdsConversion,
    convertedColumns]
  simp only [Except.map, bind, Except.bind, List.all_cons, List.all_nil, Bool.and_true]
  cases (db.columnsOf postingTable).contains "min_salary_mdl" <;> rfl

/-- A plain column of a posting is shown as it is stored. -/
theorem column_plain {converted : Bool} {name : String}
    (h : ⟨.column (postingColumn name), name⟩ ∈ shownColumns converted) (j : Row) :
    Posting.column (.object (db.postingDocument converted j)) name = (j.cell name).toJson := by
  have hcell : Expression.value [db.joined displayFields j] (.column (postingColumn name)) =
      j.cell name := (Shows.joined db displayFields j).cell name
  rw [← hcell]
  exact column_postingDocument h j

/-- The label of a posting is shown under the key of its field. -/
theorem column_label {f : Field} (hf : f ∈ displayFields) (converted : Bool) (j : Row) :
    Posting.column (.object (db.postingDocument converted j)) f.key = (db.label f j).toJson := by
  have hcell : Expression.value [db.joined displayFields j] (.column f.labelColumn) =
      db.label f j := (Shows.joined db displayFields j).label f hf (mem_displayFields f hf).1
  have hshown : ⟨.column f.labelColumn, f.key⟩ ∈ shownColumns converted := by
    simp only [shownColumns, List.mem_append, List.mem_cons, List.mem_map]
    exact Or.inl (Or.inl (Or.inr ⟨f, hf, rfl⟩))
  rw [← hcell]
  exact column_postingDocument hshown j

/-- What is read for a salary from the document of a posting is the salary that is stated for
it. -/
theorem Readable.read_salary (hdb : db.Readable) (hj : j ∈ db.postings) :
    Salary.read (fun part => Posting.column
      (.object (db.postingDocument db.holdsConversion j)) (Posting.salaryColumn part)) =
        .valid (db.statedSalary j) := by
  rw [(hdb.typed_postingDocument db.holdsConversion hj).salary_eq, statedSalary]
  generalize db.holdsConversion = converted
  have hmin : Posting.column (.object (db.postingDocument converted j)) "min_salary" =
      (j.cell "min_salary").toJson := column_plain (by cases converted <;> decide) j
  have hmax : Posting.column (.object (db.postingDocument converted j)) "max_salary" =
      (j.cell "max_salary").toJson := column_plain (by cases converted <;> decide) j
  have hcurrency : Posting.column (.object (db.postingDocument converted j)) "salary_currency" =
      (db.label .salaryCurrency j).toJson :=
    column_label (f := .salaryCurrency) (by decide) converted j
  have hperiod : Posting.column (.object (db.postingDocument converted j)) "salary_period" =
      (db.label .salaryPeriod j).toJson := column_label (f := .salaryPeriod) (by decide) converted j
  rw [hmin, hmax, hcurrency, hperiod]
  cases converted with
  | false =>
    rw [column_eq_null (by decide) j, column_eq_null (by decide) j]
    rfl
  | true =>
    rw [column_plain (by decide) j, column_plain (by decide) j]
    rfl

/-- A posting that is asked for by its id has the salary that is stated for it. -/
theorem Readable.exists_posting? (hdb : db.Readable) (hj : j ∈ db.postings) :
    ∃ e, (Store.readable db).posting? (idOf j) = .ok (some e) ∧ e.salary = db.statedSalary j := by
  obtain ⟨e, he⟩ := hdb.exists_attach db.holdsConversion hj
  refine ⟨e, ?_, ?_⟩
  · rw [hdb.posting?_idOf hasConversion_readable hj, he]
    rfl
  · obtain ⟨attached, hread⟩ := Store.exists_read_of_attach he
    exact Checked.valid.inj ((Posting.salary_of_read hread).symm.trans (hdb.read_salary hj))

end Database

/-! ### Currencies -/

/-- From a dataset without both columns of converted salaries no posting is served with one. A
posting is served with the salary that is stored. A salary without a conversion is its stored
range, whatever the target currency is and however high the converted range would end; its label is
the currency that the posting names, and the default currency is shown only where a range is stored
and no currency named. -/
theorem salaries_keep_their_currency (store : Store) :
    (¬store.HoldsConversion →
      store.Serves fun e => e.salary.convertedMin = none ∧ e.salary.convertedMax = none) ∧
    (∀ db : Database, store = .readable db → db.Readable → ∀ j ∈ db.postings,
      ∃ e, store.posting? (Database.idOf j) = .ok (some e) ∧ e.salary = db.statedSalary j) ∧
    (∀ s : Salary, s.convertedMin = none → ∀ target default,
      (∀ target' end', { s with convertedMax := end' }.display target' default =
        s.display target default) ∧
      ∀ currency, s.currency = some currency → currency ≠ "" →
        s.display target default = s.storedText (Text.upper currency)) ∧
    ∀ (s : Salary) target default default', s.display target default ≠ s.display target default' →
      s.convertedMin = none ∧ s.min ≠ none ∧ (s.currency = none ∨ s.currency = some "") := by
  refine ⟨Store.serves_of_not_holdsConversion, ?_, fun s hs target default => ⟨?_, ?_⟩, ?_⟩
  · rintro db rfl hdb j hj
    exact hdb.exists_posting? hj
  · intro target' end'
    rw [Salary.display_of_unconverted hs,
      Salary.display_of_unconverted (s := { s with convertedMax := end' }) hs]
    rfl
  · intro currency hcurrency hne
    have hown : s.ownCurrency = some (Text.upper currency) := by
      simp [Salary.ownCurrency, hcurrency, hne]
    rw [Salary.display_of_unconverted hs, hown, Option.getD_some]
  · intro s target default default' h
    obtain ⟨hconverted, hmin, hown⟩ := Salary.unlabelled_of_display_ne h
    exact ⟨hconverted, hmin, Salary.ownCurrency_eq_none_iff.mp hown⟩

/-- A job that pays in euros; one of the columns of converted salaries is missing. -/
def Dataset.halfConverted : Dataset where
  jobs := [
    { id := 7
      plain := [("min_salary", .real 1500), ("min_salary_mdl", .real 29000)]
      label := fun f => if f = .salaryCurrency then some "eur" else none
      labels := fun _ => [] }]
  conversion := ⟨true, false⟩
  dropped := []

/-- The one converted column is not shown, and the euros of the posting stay euros. -/
theorem salaries_keep_their_currency_half_converted :
    ¬(Store.readable Dataset.halfConverted.database).HoldsConversion ∧
    Dataset.halfConverted.database.Readable ∧
    ∃ e, (Store.readable Dataset.halfConverted.database).posting? 7 = .ok (some e) ∧
      e.salary.convertedMin = none ∧ e.salary.convertedMax = none ∧
      e.salary.display "MDL" "USD" = "1,500 EUR" ∧
      { e.salary with convertedMax := some 31000 }.display "eur" "USD" = "1,500 EUR" := by
  have hstorable : Dataset.halfConverted.Storable :=
    ⟨by decide, by decide, by decide, rfl⟩
  have hlow : (Cell.real 1500).stored .real = .real 1500 := rfl
  have hconverted : (Cell.real 29000).stored .real = .real 29000 := rfl
  have hnull (kind : ColumnKind) : Cell.null.stored kind = .null := rfl
  have htyped : Dataset.halfConverted.Typed := by
    simp [Dataset.Typed, Dataset.halfConverted, Dataset.jobColumns, plainColumns,
      Conversion.columns, Row.cell, Ordered.find?, Cell.Suits, Cell.IsNumeric, Cell.IsLabel, hlow,
      hconverted, hnull]
  have hread := hstorable.readable htyped
  have hheld : ¬(Store.readable Dataset.halfConverted.database).HoldsConversion := by
    rintro ⟨columns, hcolumns, hall⟩
    obtain rfl := Except.ok.inj (Database.columnsOf_readable.symm.trans hcolumns)
    exact absurd (hall "max_salary_mdl" (by decide)) (by decide +kernel)
  obtain ⟨hserves, hstated, hown, -⟩ :=
    salaries_keep_their_currency (.readable Dataset.halfConverted.database)
  obtain ⟨e, he, hsalary⟩ := hstated _ rfl hread _
    (hstorable.postings ▸ List.mem_map_of_mem List.mem_cons_self)
  obtain ⟨hmin, hmax⟩ := (hserves hheld).2 7 e he
  have hcurrency : e.salary.currency = some "eur" := by
    rw [hsalary]
    decide +kernel
  obtain ⟨hend, hlabel⟩ := hown e.salary hmin "MDL" "USD"
  have hdisplay : e.salary.display "MDL" "USD" = "1,500 EUR" := by
    rw [hlabel "eur" hcurrency (by decide), hsalary]
    decide +kernel
  exact ⟨hheld, hread, e, he, hmin, hmax, hdisplay, (hend "eur" (some 31000)).trans hdisplay⟩

/-- The default currency stands in where a range is stored and no currency named. -/
example : (Salary.mk (some 1500) (some 1800) (some "") none none none).display "eur" "mdl" =
    "1,500 - 1,800 MDL" := by
  decide +kernel

end JobSearch
