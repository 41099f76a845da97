import JobSearch.Proofs.Catalog.Qualifiers
import JobSearch.Proofs.Query.Truth
import JobSearch.Query.Resolution

/-!
# Which qualifiers a statement uses

A column of a statement is found by the qualifier of its table. A statement is *scoped* if every
qualifier it uses is introduced by its source exactly once, and no two of its tables go by one
qualifier, those of its inner statements included. Then no column is missing or ambiguous. Tables
are joined by columns of tables that were introduced before, and an inner statement uses its own
tables only.

## Main definitions

* `Statement.used` — the qualifiers of the columns of a statement.
* `Statement.inner` — its inner statements.
* `Chained` — tables joined by columns of tables introduced before.
* `Statement.Scoped` — every qualifier in use stands for one table.
-/

namespace JobSearch.Query

/-- The columns that rows are grouped by. -/
def Grouping.columns : Grouping → List Column
  | .keyed e => e.columns
  | _ => []

/-- The columns of a sort key. -/
def SortKey.columns : SortKey → List Column
  | .column c => [c]
  | _ => []

namespace Statement

/-- The qualifiers of the columns that a statement shows, asks about, groups and orders by; those
of its inner statements apart. -/
def used (s : Statement) : List String :=
  (s.outputs.flatMap (·.expression.columns)).map Column.qualifier ++
    s.condition.toList.flatMap Condition.qualifiers ++
    s.grouping.columns.map Column.qualifier ++
    (s.order.flatMap (·.key.columns)).map Column.qualifier

/-- The inner statements of a statement. -/
def inner (s : Statement) : List Carriers := s.condition.toList.flatMap Condition.carriers

end Statement

/-- Each table is joined by columns of its own or of tables introduced before. -/
def Chained (known : List String) : List Join → Prop
  | [] => True
  | j :: rest => (∀ c ∈ [j.first, j.second], c.qualifier ∈ j.qualifier :: known) ∧
      Chained (j.qualifier :: known) rest

/-- An inner statement uses its own tables only. -/
structure Carriers.Scoped (c : Carriers) : Prop where
  columns : ∀ col ∈ [c.owner, c.label], col.qualifier ∈ c.source.qualifiers
  joined : Chained [c.source.qualifier] c.source.joins

/-- Every qualifier that a statement uses stands for one table. -/
structure Statement.Scoped (s : Statement) : Prop where
  /-- A qualifier in use is introduced exactly once. -/
  introduced : ∀ q ∈ s.used, s.source.qualifiers.count q = 1
  /-- No two tables go by one qualifier, those of inner statements included. -/
  distinct : (s.source.qualifiers ++ s.inner.flatMap (·.source.qualifiers)).Nodup
  /-- Tables are joined by columns of tables introduced before. -/
  joined : Chained [s.source.qualifier] s.source.joins
  /-- Inner statements use their own tables only. -/
  inner : ∀ c ∈ s.inner, c.Scoped

namespace Chained

variable {known more : List String} {js ks : List Join}

theorem mono (h : Chained known js) (hsub : ∀ q ∈ known, q ∈ more) : Chained more js := by
  induction js generalizing known more with
  | nil => trivial
  | cons j rest ih =>
    have hcons : ∀ q ∈ j.qualifier :: known, q ∈ j.qualifier :: more := by
      intro q hq
      rcases List.mem_cons.mp hq with rfl | hq
      · exact List.mem_cons_self
      · exact List.mem_cons_of_mem _ (hsub q hq)
    exact ⟨fun c hc => hcons _ (h.1 c hc), ih h.2 hcons⟩

theorem append (h : Chained known js) (h' : Chained known ks) : Chained known (js ++ ks) := by
  induction js generalizing known with
  | nil => exact h'
  | cons j rest ih =>
    exact ⟨h.1, ih h.2 (h'.mono fun q hq => List.mem_cons_of_mem _ hq)⟩

/-- Tables that are each joined with the first one. -/
theorem of_forall {first : String} (h : ∀ j ∈ js, ∀ c ∈ [j.first, j.second],
    c.qualifier ∈ [j.qualifier, first]) : Chained [first] js := by
  suffices hall : ∀ known, first ∈ known → Chained known js from hall _ (by simp)
  induction js with
  | nil => exact fun _ _ => trivial
  | cons j rest ih =>
    intro known hfirst
    refine ⟨fun c hc => ?_, ih (fun k hk => h k (List.mem_cons_of_mem _ hk)) _
      (List.mem_cons_of_mem _ hfirst)⟩
    rcases List.mem_pair.mp (h j List.mem_cons_self c hc) with hq | hq
    · exact hq ▸ List.mem_cons_self
    · exact hq ▸ List.mem_cons_of_mem _ hfirst

end Chained

/-- A statement is scoped if its tables go by distinct qualifiers, of which it uses no others. -/
theorem Statement.Scoped.of_nodup {s : Statement} (hused : ∀ q ∈ s.used, q ∈ s.source.qualifiers)
    (hdistinct : (s.source.qualifiers ++ s.inner.flatMap (·.source.qualifiers)).Nodup)
    (hjoined : Chained [s.source.qualifier] s.source.joins)
    (hinner : ∀ c ∈ s.inner, c.Scoped) : s.Scoped where
  introduced q hq :=
    List.count_eq_one_of_mem (List.Nodup.of_append_left hdistinct) (hused q hq)
  distinct := hdistinct
  joined := hjoined
  inner := hinner

end JobSearch.Query
