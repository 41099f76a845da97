import JobSearch.Proofs.Statement.Names
import JobSearch.Proofs.Statement.Precedence
import JobSearch.Proofs.Statement.Written

/-!
# Comparisons

The conditions that criteria are made of compare a column with a value, match it with a pattern or
look for it in an inner statement. Each of them is a comparison (`Comparison`): it begins with a
column, its brackets are balanced, and nothing outside of them is an AND or an OR. So nothing in it
is taken for an operator, and its truth is given.

This rests on the names of the catalog. They are made of letters, digits and underscores
(`Field.named_entry`), so they bring no bracket into an inner statement (`Field.flat_carriers`), and
those that stand outside of brackets are no keywords.

## Main definitions

* `IsName`, `IsWord` — names, and names that are no keyword.
* `Flat` — text without brackets.
* `Comparison` — a text whose truth is given.
-/

namespace JobSearch

open Query

namespace Query

/-! ### Names -/

/-- The text is made of letters, digits and underscores. -/
def IsName (s : String) : Prop := ∀ c ∈ s.toList, inWord c = true

theorem IsName.of_eq {s : String} (h : ∃ cs, s = String.ofList cs ∧ cs.all inWord = true) :
    IsName s := by
  obtain ⟨cs, rfl, hcs⟩ := h
  rw [IsName, String.toList_ofList]
  exact List.all_eq_true.mp hcs

@[simp] theorem isName_append {s t : String} : IsName (s ++ t) ↔ IsName s ∧ IsName t := by
  simp only [IsName, String.toList_append, List.forall_mem_append]

/-- A name that is no keyword. -/
structure IsWord (s : String) : Prop where
  isName : IsName s
  no_and : (Lexeme.word s.toList).isAnd = false
  no_or : (Lexeme.word s.toList).isOr = false

theorem IsWord.of_eq {s : String} (h : ∃ cs, s = String.ofList cs ∧ cs.all inWord = true ∧
    (Lexeme.word cs).isAnd = false ∧ (Lexeme.word cs).isOr = false) : IsWord s := by
  obtain ⟨cs, rfl, hcs, hand, hor⟩ := h
  exact ⟨.of_eq ⟨cs, rfl, hcs⟩, by simpa using hand, by simpa using hor⟩

/-- Keywords have no underscore. -/
theorem IsName.isWord {s : String} (h : IsName s) (hmem : '_' ∈ s.toList) : IsWord s := by
  have hupper : '_' ∈ s.toList.map Char.toUpper := List.mem_map.mpr ⟨'_', hmem, by decide⟩
  have hkeyword : ∀ capitals, '_' ∉ capitals → (Lexeme.word s.toList).spells capitals = false :=
    fun capitals hc => beq_eq_false_iff_ne.mpr fun he => hc (he ▸ hupper)
  exact ⟨h, hkeyword _ (by decide), hkeyword _ (by decide)⟩

/-- A name is read as one word, if it is not empty. -/
theorem IsName.lexemes_words {s : String} (h : IsName s) :
    lexemes (words s) = if s.toList = [] then [] else [.word s.toList] := by
  rw [IsName] at h
  rw [words]
  generalize s.toList = cs at h
  induction cs with
  | nil => rfl
  | cons c cs ih =>
    obtain ⟨hc, hcs⟩ := List.forall_mem_cons.mp h
    rw [List.map_cons, lexemes, if_pos hc, ih hcs, if_neg (List.cons_ne_nil c cs)]
    cases cs with
    | nil => rfl
    | cons c' cs => exact if_pos (hcs c' List.mem_cons_self)

/-! ### Text without brackets -/

/-- Text without a bracket. -/
structure Flat (s : String) : Prop where
  no_open : '(' ∉ s.toList
  no_close : ')' ∉ s.toList

theorem Flat.of_eq {s : String} (h : ∃ cs, s = String.ofList cs ∧ '(' ∉ cs ∧ ')' ∉ cs) :
    Flat s := by
  obtain ⟨cs, rfl, hopen, hclose⟩ := h
  exact ⟨by simpa using hopen, by simpa using hclose⟩

@[simp] theorem flat_append {s t : String} : Flat (s ++ t) ↔ Flat s ∧ Flat t := by
  constructor
  · rintro ⟨hopen, hclose⟩
    simp only [String.toList_append, List.mem_append, not_or] at hopen hclose
    exact ⟨⟨hopen.1, hclose.1⟩, ⟨hopen.2, hclose.2⟩⟩
  · rintro ⟨hs, ht⟩
    exact ⟨by simp [hs.no_open, ht.no_open], by simp [hs.no_close, ht.no_close]⟩

theorem Flat.intercalate {separator : String} (hsep : Flat separator) {ss : List String}
    (h : ∀ s ∈ ss, Flat s) : Flat (separator.intercalate ss) :=
  intercalate_closed (.of_eq ⟨[], rfl, by simp⟩) (fun _ _ hs ht => flat_append.mpr ⟨hs, ht⟩) hsep h

theorem IsName.flat {s : String} (h : IsName s) : Flat s :=
  ⟨fun hc => absurd (h _ hc) (by decide), fun hc => absurd (h _ hc) (by decide)⟩

/-- Text without brackets leaves as many open as there were before. -/
theorem Flat.depth?_eq {s : String} (h : Flat s) (d : Nat) :
    depth? d (lexemes (words s)) = some d := by
  obtain ⟨hopen, hclose⟩ := h
  rw [words]
  generalize s.toList = cs at hopen hclose
  induction cs with
  | nil => rfl
  | cons c cs ih =>
    simp only [List.mem_cons, not_or] at hopen hclose
    have hc : (Lexeme.sign c).after? d = some d := by
      simp [Lexeme.after?, Ne.symm hopen.1, Ne.symm hclose.1]
    rw [List.map_cons, depth?_lexemes_cons, hc, Option.bind_some, ih hopen.2 hclose.2]

/-! ### Comparisons -/

variable {xs ys : List Lexeme} {x : Lexeme}

theorem operand_nil : Operand [] := ⟨rfl, nofun, nofun⟩

theorem Operand.append (hx : Operand xs) (hy : Operand ys) : Operand (xs ++ ys) := by
  have houter : outer 0 (xs ++ ys) = outer 0 xs ++ outer 0 ys := outer_append hx.balanced ys
  refine ⟨by rw [depth?_append, hx.balanced, Option.bind_some, hy.balanced], ?_, ?_⟩ <;>
    rw [houter]
  · exact List.forall_mem_append.mpr ⟨hx.no_and, hy.no_and⟩
  · exact List.forall_mem_append.mpr ⟨hx.no_or, hy.no_or⟩

/-- A word that is no keyword, or a sign that is no bracket, in front of an operand. -/
theorem Operand.cons (hx : x.after? 0 = some 0) (hand : x.isAnd = false) (hor : x.isOr = false)
    (hxs : Operand xs) : Operand (x :: xs) := by
  have hsingle : Operand [x] := by
    have houter : outer 0 [x] = [x] := by
      rw [outer, if_pos rfl]
      rfl
    refine ⟨by rw [depth?_cons, hx]; rfl, ?_, ?_⟩ <;>
      rw [houter] <;> intro y hy <;> rwa [List.mem_singleton.mp hy]
  exact hsingle.append hxs

theorem IsWord.operand {s : String} (h : IsWord s) : Operand (lexemes (words s)) := by
  rw [h.isName.lexemes_words]
  split
  · exact operand_nil
  · exact operand_nil.cons rfl h.no_and h.no_or

/-- An operand that does not begin with a bracket. -/
structure Comparison (xs : List Lexeme) : Prop extends Operand xs where
  head : xs.head? ≠ some (.sign '(')

theorem Comparison.meaning_eq {v : List Lexeme → Truth} (h : Comparison xs) : meaning v xs = v xs :=
  h.meaning_of_head h.head

/-- The names of a column are words. -/
structure Column.IsNamed (c : Column) : Prop where
  qualifier : IsWord c.qualifier
  name : IsWord c.name

/-- What begins with a column is a comparison if the rest is an operand. -/
theorem Column.IsNamed.comparison {c : Column} (hc : c.IsNamed) {w : List Token}
    (hstart : startsInWord w = false) (hw : Operand (lexemes w)) :
    Comparison (lexemes (words c.text ++ w)) := by
  have hsplit : lexemes (words c.text ++ w) =
      lexemes (words c.qualifier) ++ .sign '.' :: (lexemes (words c.name) ++ lexemes w) := by
    have hdot : lexemes (words "." ++ (words c.name ++ w)) =
        .sign '.' :: (lexemes (words c.name) ++ lexemes w) := by
      rw [lexemes_append (.inl (by decide)), lexemes_append (.inr hstart)]
      rfl
    rw [Column.text, words_append, words_append, List.append_assoc, List.append_assoc,
      lexemes_append (.inr rfl), hdot]
  rw [hsplit]
  refine ⟨hc.qualifier.operand.append ((hc.name.operand.append hw).cons rfl rfl rfl), ?_⟩
  rw [hc.qualifier.isName.lexemes_words]
  split
  · exact fun h => absurd (Lexeme.sign.inj (Option.some.inj h)) (by decide)
  · exact fun h => Lexeme.noConfusion (Option.some.inj h)

end Query

/-! ### The comparisons of criteria -/

theorem comparison_compared {c : Column} (hc : c.IsNamed) {sign : String}
    (hstart : startsInWord (words sign) = false) (hend : endsInWord (words sign) = false)
    (hsign : Operand (lexemes (words sign))) (v : Cell) :
    Comparison (lexemes (compared c sign v)) := by
  have hrest : startsInWord (words sign ++ [.value v]) = false := by
    revert hstart
    cases words sign with
    | nil => exact fun _ => rfl
    | cons t w => cases t <;> exact id
  rw [compared, words_append, List.append_assoc]
  refine hc.comparison hrest ?_
  rw [lexemes_append (.inl hend)]
  exact hsign.append (operand_nil.cons rfl rfl rfl)

theorem comparison_liked {c : Column} (hc : c.IsNamed) (pattern : Cell) :
    Comparison (lexemes (liked c.text pattern)) := by
  rw [liked, words_append, List.append_assoc, List.append_assoc]
  refine hc.comparison rfl ?_
  have hrest : lexemes (words " LIKE " ++ ([.value pattern] ++ words " ESCAPE '\\'")) =
      [.word "LIKE".toList, .value pattern, .word "ESCAPE".toList, .sign '\'', .sign '\\',
        .sign '\''] := rfl
  rw [hrest]
  exact (((((operand_nil.cons rfl rfl rfl).cons rfl rfl rfl).cons rfl rfl rfl).cons rfl rfl
    rfl).cons rfl rfl rfl).cons rfl rfl rfl

theorem comparison_present {c : Column} (hc : c.IsNamed) :
    Comparison (lexemes (words (c.text ++ " IS NOT NULL"))) := by
  rw [words_append]
  refine hc.comparison rfl ?_
  exact ((operand_nil.cons (x := .word "NULL".toList) rfl rfl rfl).cons
    (x := .word "NOT".toList) rfl rfl rfl).cons (x := .word "IS".toList) rfl rfl rfl

/-- A column looked for in an inner statement with balanced brackets. -/
theorem comparison_among {c : Column} (hc : c.IsNamed) {w : List Token}
    (hw : depth? 0 (lexemes w) = some 0) :
    Comparison (lexemes (words (c.text ++ " IN (") ++ w ++ words ")")) := by
  rw [words_append, List.append_assoc, List.append_assoc]
  refine hc.comparison rfl ?_
  have hrest : lexemes (words " IN (" ++ (w ++ words ")")) =
      .word "IN".toList :: bracketed (lexemes w) := by
    rw [lexemes_append (.inl (by decide)), lexemes_append (.inr (by decide))]
    rfl
  rw [hrest]
  exact (operand_bracketed hw).cons rfl rfl rfl

/-! ### The catalog -/

/-- The names of an entry are names. -/
structure Entry.IsNamed (e : Entry) : Prop where
  table : IsName e.table
  labelColumn : IsName e.labelColumn
  foreignKey : IsName e.foreignKey
  qualifier : IsName e.qualifier
  shape : match e.shape with
    | .junction pairs owner => IsName pairs ∧ IsName owner
    | _ => True

namespace Field

theorem named_entry (f : Field) : f.entry.IsNamed := by
  cases f <;> constructor <;>
    simp only [entry, Entry.lookup, Entry.children, Entry.junction, postingTable,
      isName_append] <;>
    (repeat' apply And.intro) <;> exact .of_eq ⟨_, rfl, by decide⟩

theorem isWord_qualifier (f : Field) : IsWord f.entry.qualifier := by
  cases hf : f.isMultiValued with
  | false =>
    cases f <;> first
      | exact absurd hf (by decide)
      | exact .of_eq ⟨_, rfl, by decide⟩
  | true =>
    refine f.named_entry.qualifier.isWord ?_
    cases f <;> first
      | exact absurd hf (by decide)
      | simp [entry, Entry.children, Entry.junction]

/-- The labels of a field are in a column whose names are words. -/
theorem isNamed_labelColumn (f : Field) : f.labelColumn.IsNamed :=
  ⟨f.isWord_qualifier, by cases f <;> exact .of_eq ⟨_, rfl, by decide⟩⟩

end Field

theorem isNamed_posting {name : String} (h : IsWord name) :
    Column.IsNamed ⟨postingQualifier, name⟩ :=
  ⟨.of_eq ⟨_, rfl, by decide⟩, h⟩

theorem isNamed_postingId : postingId.IsNamed := isNamed_posting (.of_eq ⟨_, rfl, by decide⟩)

theorem isNamed_boundColumn (b : Bound) : Column.IsNamed ⟨postingQualifier, b.column⟩ :=
  isNamed_posting (by cases b <;> exact .of_eq ⟨_, rfl, by decide⟩)

theorem isNamed_searchedColumns : ∀ c ∈ Predicate.searchedColumns, c.IsNamed := by
  intro c hc
  rcases List.mem_append.mp hc with hc | hc
  · obtain ⟨name, hname, rfl⟩ := List.mem_map.mp hc
    obtain rfl := List.mem_singleton.mp hname
    exact isNamed_posting (.of_eq ⟨_, rfl, by decide⟩)
  · obtain ⟨f, -, rfl⟩ := List.mem_map.mp hc
    exact f.isNamed_labelColumn

/-! ### Inner statements -/

/-- The words of inner statements that have no bracket. -/
@[simp] theorem flat_constants :
    Flat "." ∧ Flat " " ∧ Flat "JOIN " ∧ Flat "LEFT JOIN " ∧ Flat " ON " ∧ Flat " = " ∧
      Flat "FROM " ∧ Flat "SELECT " ∧ Flat " WHERE " ∧ Flat " GROUP BY " ∧ Flat "id" ∧
      Flat "_f" ∧ Flat "_fj" ∧ Flat "_fl" := by
  repeat' apply And.intro
  all_goals exact .of_eq ⟨_, rfl, by decide⟩

theorem flat_columnText {c : Column} : Flat c.text ↔ Flat c.qualifier ∧ Flat c.name := by
  simp [Column.text]

theorem flat_joinText {j : Join} (h : Flat j.table ∧ Flat j.qualifier ∧ Flat j.first.text ∧
    Flat j.second.text) : Flat j.text := by
  rw [Join.text]
  cases j.kind <;> simp [h]

/-- The inner statement of a field has no bracket in its names. -/
theorem Field.flat_carriers (f : Field) (labels : List String) :
    Flat (f.carriers labels).owner.text ∧ (∀ p ∈ (f.carriers labels).source.parts, Flat p) ∧
      Flat (f.carriers labels).label.text := by
  have hnames := f.named_entry
  have htable := hnames.table.flat
  have hlabel := hnames.labelColumn.flat
  have hkey := hnames.foreignKey.flat
  have hqualifier := hnames.qualifier.flat
  rw [Field.carriers]
  split
  · next pairs owner h =>
    have hshape : IsName pairs ∧ IsName owner := by simpa [h] using hnames.shape
    have hpairs := hshape.1.flat
    have howner := hshape.2.flat
    have hjoin : Flat (Join.mk .inner f.entry.table (f.entry.qualifier ++ "_fl")
        ⟨f.entry.qualifier ++ "_fj", f.entry.foreignKey⟩ ⟨f.entry.qualifier ++ "_fl", "id"⟩).text :=
      flat_joinText (by simp [flat_columnText, htable, hqualifier, hkey])
    simp [Source.parts, Source.head, flat_columnText, hqualifier, hlabel, hpairs, howner, hjoin]
  · simp [Source.parts, Source.head, flat_columnText, hqualifier, hlabel, hkey, htable]

/-- The brackets of an inner statement are balanced, whatever values are looked for. -/
theorem depth?_writtenFor (f : Field) (values : List Cell) :
    depth? 0 (lexemes ((f.carriers []).writtenFor values)) = some 0 := by
  obtain ⟨howner, hparts, hlabel⟩ := f.flat_carriers []
  have hseparator : Flat " " := by simp
  have hsource := hseparator.intercalate hparts
  have hvalues : ∀ d,
      depth? d (lexemes (listed ", " (values.map fun v => [.value v]))) = some d := by
    intro d
    induction values with
    | nil => rfl
    | cons v values ih =>
      by_cases hv : values = []
      · subst hv
        rw [List.map_singleton, listed_singleton]
        rfl
      · rw [List.map_cons, listed_cons (by simpa using hv), depth?_lexemes_append,
          depth?_lexemes_append]
        exact ih
  have hin : depth? 0 (lexemes (words " IN (")) = some 1 := by decide
  have hend : depth? 1 (lexemes (words ")")) = some 0 := by decide
  have hcount : depth? 0 (lexemes (words " HAVING COUNT(DISTINCT ")) = some 1 := by decide
  have hnumber : depth? 1 (lexemes (words ") = ")) = some 0 := by decide
  have hgroup : depth? 0 (lexemes (words " GROUP BY ")) = some 0 := by decide
  have hselect : depth? 0 (lexemes (words "SELECT ")) = some 0 := by decide
  have hwhere : depth? 0 (lexemes (words " WHERE ")) = some 0 := by decide
  have hblank : depth? 0 (lexemes (words " ")) = some 0 := by decide
  have hlast : depth? 0 (lexemes [Token.value (.int values.length)]) = some 0 := rfl
  simp only [Carriers.writtenFor, words_append, depth?_lexemes_append, howner.depth?_eq,
    hsource.depth?_eq, hlabel.depth?_eq, hvalues, hin, hend, hcount, hnumber, hgroup, hselect,
    hwhere, hblank, hlast, Option.bind_some]

end JobSearch
