import JobSearch.Proofs.Statement.Reading
import JobSearch.Query.Attributes
import JobSearch.Query.Facets

/-!
# Plain names

The names of tables, columns and qualifiers come from the catalog. All of them are plain
(`Field.plain_entry`), so the question marks of a statement are those that stand for its values,
and it has no gaps.

## Main definitions

* `Entry.IsPlain` — the names of an entry are plain.
-/

namespace JobSearch

open Query

/-- The names of an entry are plain. -/
structure Entry.IsPlain (e : Entry) : Prop where
  key : Plain e.key
  table : Plain e.table
  labelColumn : Plain e.labelColumn
  foreignKey : Plain e.foreignKey
  qualifier : Plain e.qualifier
  shape : match e.shape with
    | .junction pairs owner => Plain pairs ∧ Plain owner
    | _ => True

/-- The words between the names of a statement. -/
@[simp] theorem plain_constants :
    Plain "" ∧ Plain "\n" ∧ Plain "." ∧ Plain " " ∧ Plain ", " ∧ Plain ",\n    " ∧ Plain "(" ∧
      Plain ")" ∧ Plain "SELECT " ∧ Plain " AS " ∧ Plain "COUNT(*)" ∧ Plain "COUNT(DISTINCT " ∧
      Plain "FROM " ∧ Plain "JOIN " ∧ Plain "LEFT JOIN " ∧ Plain " ON " ∧ Plain "WHERE " ∧
      Plain " WHERE " ∧ Plain " IN (" ∧ Plain " = " ∧ Plain " >= " ∧ Plain " <= " ∧
      Plain " IS NOT NULL" ∧ Plain " LIKE " ∧ Plain "LOWER(" ∧ Plain " ESCAPE '\\'" ∧
      Plain " AND " ∧ Plain " OR " ∧ Plain "GROUP BY " ∧ Plain " GROUP BY " ∧
      Plain " HAVING COUNT(DISTINCT " ∧ Plain ") = " ∧ Plain "ORDER BY " ∧ Plain " ASC" ∧
      Plain " DESC" ∧ Plain "LIMIT " ∧ Plain " OFFSET " := by
  repeat' apply And.intro
  all_goals exact .of_eq ⟨_, rfl, by decide⟩

@[simp] theorem plain_postingQualifier : Plain postingQualifier := .of_eq ⟨_, rfl, by decide⟩

@[simp] theorem plain_postingTable : Plain postingTable := .of_eq ⟨_, rfl, by decide⟩

namespace Field

theorem plain_entry (f : Field) : f.entry.IsPlain := by
  cases f <;> constructor <;>
    simp only [entry, Entry.lookup, Entry.children, Entry.junction, postingTable,
      plain_append] <;>
    (repeat' apply And.intro) <;> exact .of_eq ⟨_, rfl, by decide⟩

@[simp] theorem plain_key (f : Field) : Plain f.key := f.plain_entry.key

@[simp] theorem plain_table (f : Field) : Plain f.entry.table := f.plain_entry.table

@[simp] theorem plain_labelName (f : Field) : Plain f.entry.labelColumn :=
  f.plain_entry.labelColumn

@[simp] theorem plain_foreignKey (f : Field) : Plain f.entry.foreignKey :=
  f.plain_entry.foreignKey

@[simp] theorem plain_qualifier (f : Field) : Plain f.entry.qualifier := f.plain_entry.qualifier

theorem plain_pairs (f : Field) {pairs owner : String} (h : f.entry.shape = .junction pairs owner) :
    Plain pairs ∧ Plain owner := by
  simpa [h] using f.plain_entry.shape

end Field

/-! ### Columns, joins and sources -/

@[simp] theorem plain_columnText {c : Column} :
    Plain c.text ↔ Plain c.qualifier ∧ Plain c.name := by
  simp [Column.text]

@[simp] theorem plain_joinText {j : Join} :
    Plain j.text ↔
      Plain j.table ∧ Plain j.qualifier ∧ Plain j.first.text ∧ Plain j.second.text := by
  rw [Join.text]
  cases j.kind <;> simp [and_assoc]

/-- A source is plain if its tables, qualifiers and columns are. -/
theorem plain_sourceParts {s : Source} :
    (∀ p ∈ s.parts, Plain p) ↔ Plain s.table ∧ Plain s.qualifier ∧ ∀ j ∈ s.joins, Plain j.text := by
  simp [Source.parts, Source.head, and_assoc]

@[simp] theorem plain_id : Plain "id" := .of_eq ⟨_, rfl, by decide⟩

theorem plain_postingId : Plain postingId.text := by simp [postingId]

namespace Field

theorem plain_labelColumn (f : Field) : Plain f.labelColumn.text := by
  simp [labelColumn]

theorem plain_lookupJoin (f : Field) : Plain f.lookupJoin.text := by simp [lookupJoin]

/-- The suffixes of qualifiers. -/
@[simp] theorem plain_suffixes : Plain "_f" ∧ Plain "_fj" ∧ Plain "_fl" ∧ Plain "_j" := by
  repeat' apply And.intro
  all_goals exact .of_eq ⟨_, rfl, by decide⟩

theorem plain_labelJoins (f : Field) : ∀ j ∈ f.labelJoins, Plain j.text := by
  rw [labelJoins]
  split
  · simp
  · simp [postingId]
  · next pairs owner h => simp [postingId, f.plain_pairs h]

/-- The inner statement of a field is plain but for its values. -/
theorem plain_carriers (f : Field) (labels : List String) :
    Plain (f.carriers labels).owner.text ∧ (∀ p ∈ (f.carriers labels).source.parts, Plain p) ∧
      Plain (f.carriers labels).label.text := by
  rw [carriers]
  split
  · next pairs owner h => simp [plain_sourceParts, f.plain_pairs h]
  · simp [plain_sourceParts]

theorem plain_ownerSource (f : Field) :
    Plain f.ownerSource.1.text ∧ Plain f.ownerSource.1.qualifier ∧
      ∀ p ∈ f.ownerSource.2.parts, Plain p := by
  rw [ownerSource]
  split
  · next pairs owner h => simp [plain_sourceParts, f.plain_pairs h]
  · simp [plain_sourceParts]

end Field

theorem plain_postingSource (fields : List Field) :
    ∀ p ∈ (postingSource fields).parts, Plain p := by
  refine plain_sourceParts.mpr ⟨plain_postingTable, plain_postingQualifier, fun j hj => ?_⟩
  obtain ⟨f, -, rfl⟩ := List.mem_map.mp hj
  exact f.plain_lookupJoin

theorem plain_labelSource (f : Field) (others : List Field) :
    ∀ p ∈ (f.labelSource others).parts, Plain p := by
  refine plain_sourceParts.mpr ⟨plain_postingTable, plain_postingQualifier, fun j hj => ?_⟩
  rcases List.mem_append.mp hj with hj | hj
  · obtain ⟨g, -, rfl⟩ := List.mem_map.mp hj
    exact g.plain_lookupJoin
  · exact f.plain_labelJoins j hj

/-! ### Columns of postings -/

theorem plain_displayColumns : ∀ p ∈ displayColumns, Plain p.1 ∧ Plain p.2 := by
  simp only [displayColumns, List.forall_mem_cons, List.not_mem_nil, false_implies, implies_true,
    and_true]
  repeat' apply And.intro
  all_goals exact .of_eq ⟨_, rfl, by decide⟩

theorem plain_convertedColumns : ∀ c ∈ convertedColumns, Plain c := by
  simp only [convertedColumns, List.forall_mem_cons, List.not_mem_nil, false_implies,
    implies_true, and_true]
  repeat' apply And.intro
  all_goals exact .of_eq ⟨_, rfl, by decide⟩

theorem plain_searchColumns : ∀ c ∈ searchColumns, Plain c := by
  simp only [searchColumns, List.forall_mem_cons, List.not_mem_nil, false_implies, implies_true,
    and_true]
  exact .of_eq ⟨_, rfl, by decide⟩

@[simp] theorem plain_boundColumn (b : Bound) : Plain b.column := by
  cases b <;> exact .of_eq ⟨_, rfl, by decide⟩

theorem plain_sortColumn (s : SortChoice) : Plain s.column.text := by
  rw [SortChoice.column]
  cases hf : s.field? with
  | some f => exact f.plain_labelColumn
  | none =>
    have hname : Plain s.postingColumn := by
      cases s <;> exact .of_eq ⟨_, rfl, by decide⟩
    simpa using hname

/-- The columns in which text is searched. -/
theorem plain_searchedColumns : ∀ c ∈ Predicate.searchedColumns, Plain c.text := by
  intro c hc
  rcases List.mem_append.mp hc with hc | hc
  · obtain ⟨name, hname, rfl⟩ := List.mem_map.mp hc
    simpa using plain_searchColumns name hname
  · obtain ⟨f, -, rfl⟩ := List.mem_map.mp hc
    exact f.plain_labelColumn

/-- What is shown of a posting is its id, labels, columns and, if there are any, converted
salaries. -/
theorem forall_mem_shownColumns {p : Output → Prop} (hid : p ⟨.column postingId, "id"⟩)
    (hlabels : ∀ f ∈ displayFields, p ⟨.column f.labelColumn, f.key⟩)
    (hcolumns : ∀ c ∈ displayColumns, p ⟨.column (postingColumn c.1), c.2⟩)
    (hconverted : ∀ c ∈ convertedColumns, p ⟨.column (postingColumn c), c⟩) (converted : Bool) :
    ∀ o ∈ shownColumns converted, p o := by
  intro o ho
  rcases List.mem_append.mp ho with ho | ho
  · rcases List.mem_append.mp ho with ho | ho
    · rcases List.mem_cons.mp ho with rfl | ho
      · exact hid
      · obtain ⟨f, hf, rfl⟩ := List.mem_map.mp ho
        exact hlabels f hf
    · obtain ⟨c, hc, rfl⟩ := List.mem_map.mp ho
      exact hcolumns c hc
  · cases converted with
    | false => cases ho
    | true =>
      obtain ⟨c, hc, rfl⟩ := List.mem_map.mp ho
      exact hconverted c hc

end JobSearch
