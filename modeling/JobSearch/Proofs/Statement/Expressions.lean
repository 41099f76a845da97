import JobSearch.Proofs.Number.Digits
import JobSearch.Proofs.Query.Scope
import JobSearch.Proofs.Statement.Names

/-!
# Plain expressions

What a statement shows and what it is ordered by is made of names of columns and of constants. It
is plain if these are.

## Main definitions

* `Expression.constants`, `SortKey.constants` — the texts that are not names of columns.
-/

namespace JobSearch

open Query

/-! ### Numbers -/

theorem plain_natText (n : Nat) : Plain (Number.natText n) := by
  have hdigit : ∀ d < 10, Number.digitChar d ≠ '?' ∧ Number.digitChar d ≠ '\x7b' := by decide
  refine .of_eq ⟨_, rfl, ?_, ?_⟩
  · intro hm
    obtain ⟨d, hd, he⟩ := List.mem_map.mp hm
    exact (hdigit d (Number.lt_of_mem_digitsOf hd)).1 he
  · intro hm
    obtain ⟨d, hd, he⟩ := List.mem_map.mp hm
    exact (hdigit d (Number.lt_of_mem_digitsOf hd)).2 he

theorem plain_intText (n : Int) : Plain (Number.intText n) := by
  rw [Number.intText, plain_append]
  refine ⟨?_, plain_natText _⟩
  split <;> exact .of_eq ⟨_, rfl, by decide⟩

/-! ### Expressions -/

/-- The words of expressions. -/
@[simp] theorem plain_expressionWords :
    Plain " BETWEEN " ∧ Plain " < " ∧ Plain "'" ∧ Plain "CASE" ∧ Plain "\n        WHEN " ∧
      Plain "\n        ELSE " ∧ Plain "\n    END" ∧ Plain " THEN " ∧ Plain "COALESCE(" ∧
      Plain "ROUND(AVG(" ∧ Plain "))" := by
  repeat' apply And.intro
  all_goals exact .of_eq ⟨_, rfl, by decide⟩

theorem plain_rangeTest (t : RangeTest) : Plain t.text := by
  cases t <;> simp only [RangeTest.text, plain_append, plain_intText, plain_constants,
    plain_expressionWords, and_self]

@[simp] theorem plain_constant {s : String} : Plain (constant s) ↔ Plain s := by
  simp only [constant, plain_append, plain_expressionWords, true_and, and_true]

theorem Plain.join {ss : List String} (h : ∀ s ∈ ss, Plain s) : Plain (String.join ss) := by
  induction ss with
  | nil => exact .of_eq ⟨[], rfl, by simp⟩
  | cons s rest ih =>
    rw [String.join_cons, plain_append]
    exact ⟨h s (by simp), ih fun t ht => h t (by simp [ht])⟩

theorem plain_caseText {subject : String} {cases : List String} {otherwise : String}
    (hsubject : Plain subject) (hcases : ∀ c ∈ cases, Plain c) (hotherwise : Plain otherwise) :
    Plain (caseText subject cases otherwise) := by
  have hall : Plain (String.join (cases.map fun c => "\n        WHEN " ++ c)) := by
    refine Plain.join fun s hs => ?_
    obtain ⟨c, hc, rfl⟩ := List.mem_map.mp hs
    simp only [plain_append, plain_expressionWords, hcases c hc, and_self]
  simp only [caseText, plain_append, hsubject, hall, hotherwise, plain_expressionWords, and_self]

/-- The texts in an expression that are not names of columns. -/
def Query.Expression.constants : Expression → List String
  | .orElse _ fallback => [fallback]
  | .bucket _ buckets otherwise => otherwise :: buckets.map (·.label)
  | _ => []

theorem plain_expression {e : Expression} (hcolumns : ∀ c ∈ e.columns, Plain c.text)
    (hconstants : ∀ s ∈ e.constants, Plain s) : Plain e.text := by
  cases e with
  | column c => exact hcolumns c (by simp [Expression.columns])
  | orElse c fallback =>
    show Plain ("COALESCE(" ++ c.text ++ ", " ++ constant fallback ++ ")")
    simp only [plain_append, plain_constant, plain_constants, plain_expressionWords,
      hcolumns c (by simp [Expression.columns]),
      hconstants fallback (by simp [Expression.constants]), and_self]
  | bucket c buckets otherwise =>
    refine plain_caseText (by simp) (fun t ht => ?_)
      (plain_constant.mpr (hconstants otherwise (by simp [Expression.constants])))
    obtain ⟨b, hb, rfl⟩ := List.mem_map.mp ht
    have hlabel : Plain b.label :=
      hconstants _ (List.mem_cons_of_mem _ (List.mem_map.mpr ⟨b, hb, rfl⟩))
    simp only [plain_append, plain_constant, plain_rangeTest, plain_expressionWords, hlabel,
      hcolumns c (by simp [Expression.columns]), and_self]
  | countRows => exact .of_eq ⟨_, rfl, by decide⟩
  | countDistinct c =>
    show Plain ("COUNT(DISTINCT " ++ c.text ++ ")")
    simp only [plain_append, plain_constants, hcolumns c (by simp [Expression.columns]), and_self]
  | roundedMean c place =>
    show Plain ("ROUND(AVG(" ++ c.text ++ "))")
    simp only [plain_append, plain_expressionWords, hcolumns c (by simp [Expression.columns]),
      and_self]

/-- A column of a result is plain if its expression and its name are. -/
theorem plain_output {o : Output} (hcolumns : ∀ c ∈ o.expression.columns, Plain c.text)
    (hconstants : ∀ s ∈ o.name :: o.expression.constants, Plain s) : Plain o.text := by
  have hexpression := plain_expression hcolumns fun s hs => hconstants s (List.mem_cons_of_mem _ hs)
  rw [Output.text]
  simp only [plain_append, hexpression, plain_constants, hconstants o.name (by simp), and_self]

theorem plain_columnOutput {c : Column} (hc : Plain c.text) {name : String} (hn : Plain name) :
    Plain (Output.mk (.column c) name).text :=
  plain_output (by simpa [Expression.columns] using hc) (by simpa [Expression.constants] using hn)

theorem plain_shownColumns (converted : Bool) : ∀ o ∈ shownColumns converted, Plain o.text := by
  refine forall_mem_shownColumns (plain_columnOutput plain_postingId (.of_eq ⟨_, rfl, by decide⟩))
    (fun f _ => plain_columnOutput f.plain_labelColumn f.plain_key)
    (fun c hc => ?_) (fun c hc => ?_) converted
  · obtain ⟨hcolumn, hname⟩ := plain_displayColumns c hc
    exact plain_columnOutput (by simpa [postingColumn] using hcolumn) hname
  · have hname := plain_convertedColumns c hc
    exact plain_columnOutput (by simpa [postingColumn] using hname) hname

/-! ### Sort keys -/

/-- The texts in a sort key that are not names of columns. -/
def Query.SortKey.constants : SortKey → List String
  | .column _ => []
  | .output name => [name]
  | .ranked name labels => name :: labels

theorem plain_sortKey {k : SortKey} (hcolumns : ∀ c ∈ k.columns, Plain c.text)
    (hconstants : ∀ s ∈ k.constants, Plain s) : Plain k.text := by
  cases k with
  | column c => exact hcolumns c (by simp [SortKey.columns])
  | output name => exact hconstants name (by simp [SortKey.constants])
  | ranked name labels =>
    have hname : Plain name := hconstants name (by simp [SortKey.constants])
    refine plain_caseText (by simp [hname]) (fun t ht => ?_) (plain_natText _)
    obtain ⟨i, hi, rfl⟩ := List.mem_mapIdx.mp ht
    have hlabel : Plain labels[i] := hconstants _ (List.mem_cons_of_mem _ (List.getElem_mem hi))
    simp only [plain_append, plain_constant, plain_natText, plain_expressionWords, hlabel, and_self]

@[simp] theorem plain_direction (d : Direction) : Plain d.text := by
  cases d <;> exact .of_eq ⟨_, rfl, by decide⟩

/-- A criterion of an order is plain if its key is. -/
theorem plain_sortTerm {t : SortTerm} (h : Plain t.key.text) : Plain t.text :=
  plain_append.mpr ⟨h, plain_direction t.direction⟩

end JobSearch
