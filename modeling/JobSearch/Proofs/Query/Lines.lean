import JobSearch.Proofs.Query.Truth
import Mathlib.Data.List.Sort

/-!
# The order of a result

The lines of a statement are its groups of rows, sorted by its criteria one after the other. The
sorting is done on the values of the criteria, which are found once for each group;
`Statement.lines_eq_mergeSort` says that this is sorting the groups themselves, and
`Statement.before_total` and `Statement.before_trans` that the criteria are an order, so that
the lines are the groups, each once (`Statement.lines_perm`), and stand in that order
(`Statement.lines_pairwise`). A window shows some of them (`Window.cut_sublist`).

## Main definitions

* `Direction.le` — cells in ascending or descending order.
* `Statement.before` — the order of the groups of a statement.
-/

namespace JobSearch.Query

/-- Whether a cell may stand before another one in a direction. -/
def Direction.le (d : Direction) (a b : Cell) : Bool :=
  match d with
  | descending => b.le a
  | _ => a.le b

theorem Direction.le_total (d : Direction) (a b : Cell) : (d.le a b || d.le b a) = true := by
  cases d
  · exact Cell.le_total a b
  · exact Cell.le_total b a
  · exact Cell.le_total a b

theorem Direction.le_trans {d : Direction} {a b c : Cell} (hab : d.le a b = true)
    (hbc : d.le b c = true) : d.le a c = true := by
  cases d
  · exact Cell.le_trans hab hbc
  · exact Cell.le_trans hbc hab
  · exact Cell.le_trans hab hbc

/-- The first criterion decides unless it admits both orders. -/
theorem inOrder_cons (d : Direction) (ds : List Direction) (a b : Cell) (as bs : List Cell) :
    inOrder (d :: ds) (a :: as) (b :: bs) =
      (d.le a b && (!d.le b a || inOrder ds as bs)) := by
  cases d <;> rfl

theorem inOrder_total (ds : List Direction) (as bs : List Cell) :
    (inOrder ds as bs || inOrder ds bs as) = true := by
  induction ds generalizing as bs with
  | nil => simp [inOrder]
  | cons d ds ih =>
    cases as with
    | nil => simp [inOrder]
    | cons a as =>
      cases bs with
      | nil => simp [inOrder]
      | cons b bs =>
        have ht := d.le_total a b
        have hr := ih as bs
        rw [inOrder_cons, inOrder_cons]
        revert ht hr
        cases d.le a b <;> cases d.le b a <;> simp

/-- The values of three groups under the same criteria. -/
theorem inOrder_trans (ts : List SortTerm) (f g h : SortTerm → Cell)
    (hfg : inOrder (ts.map (·.direction)) (ts.map f) (ts.map g) = true)
    (hgh : inOrder (ts.map (·.direction)) (ts.map g) (ts.map h) = true) :
    inOrder (ts.map (·.direction)) (ts.map f) (ts.map h) = true := by
  induction ts with
  | nil => rfl
  | cons t ts ih =>
    simp only [List.map_cons, inOrder_cons, Bool.and_eq_true, Bool.or_eq_true,
      Bool.not_eq_true'] at hfg hgh ⊢
    obtain ⟨h1, h2⟩ := hfg
    obtain ⟨h3, h4⟩ := hgh
    refine ⟨Direction.le_trans h1 h3, ?_⟩
    by_cases hback : t.direction.le (h t) (f t) = true
    · -- The first criterion admits both orders of `f` and `h`, hence of all three.
      have hgf : t.direction.le (g t) (f t) = true := Direction.le_trans h3 hback
      have hhg : t.direction.le (h t) (g t) = true := Direction.le_trans hback h1
      rcases h2 with h2 | h2
      · rw [hgf] at h2; cases h2
      rcases h4 with h4 | h4
      · rw [hhg] at h4; cases h4
      exact Or.inr (ih h2 h4)
    · exact Or.inl (by simpa using hback)

namespace Statement

variable (s : Statement)

/-- Whether a group of rows may stand before another one. -/
def before (g h : List Joined) : Bool :=
  inOrder (s.order.map (·.direction)) (s.order.map fun t => t.key.value s.outputs g)
    (s.order.map fun t => t.key.value s.outputs h)

theorem before_total (g h : List Joined) : (s.before g h || s.before h g) = true :=
  inOrder_total _ _ _

theorem before_trans (g h k : List Joined) (hgh : s.before g h = true)
    (hhk : s.before h k = true) : s.before g k = true :=
  inOrder_trans s.order _ _ _ hgh hhk

theorem lines_eq_mergeSort (rows : List Joined) :
    s.lines rows = (s.grouping.groups rows).mergeSort s.before := by
  rw [lines, ← List.map_mergeSort (r := s.before)]
  · rw [List.map_map]
    exact List.map_id _
  · intro g _ h _
    rfl

theorem lines_perm (rows : List Joined) : (s.lines rows).Perm (s.grouping.groups rows) := by
  rw [lines_eq_mergeSort]
  exact List.mergeSort_perm _ _

theorem lines_pairwise (rows : List Joined) :
    (s.lines rows).Pairwise fun g h => s.before g h = true := by
  rw [lines_eq_mergeSort]
  exact List.pairwise_mergeSort s.before_trans s.before_total _

/-- Rows that are one line are the only line. -/
theorem lines_whole (h : s.grouping = .whole) (rows : List Joined) : s.lines rows = [rows] := by
  have hperm := s.lines_perm rows
  rw [h] at hperm
  exact List.perm_singleton.mp hperm

end Statement

/-! ### Windows -/

namespace Window

variable {α β : Type} {w : Window} {xs : List α}

/-- A window shows some of the lines, in their order. -/
theorem cut_sublist (w : Window) (xs : List α) : (w.cut xs).Sublist xs := by
  cases w with
  | all => exact List.Sublist.refl xs
  | first limit =>
    rw [cut]
    split
    · exact List.Sublist.refl xs
    · exact List.take_sublist _ _
  | slice limit offset =>
    rw [cut]
    split
    · exact List.drop_sublist _ _
    · exact (List.take_sublist _ _).trans (List.drop_sublist _ _)

theorem cut_map (w : Window) (f : α → β) (xs : List α) : w.cut (xs.map f) = (w.cut xs).map f := by
  cases w with
  | all => rfl
  | first limit =>
    simp only [cut]
    split
    · rfl
    · rw [List.map_take]
  | slice limit offset =>
    simp only [cut]
    split
    · rw [List.map_drop]
    · rw [List.map_take, List.map_drop]

/-- Of more lines a window shows more. -/
theorem length_cut_le (w : Window) {ys : List β} (h : xs.length ≤ ys.length) :
    (w.cut xs).length ≤ (w.cut ys).length := by
  cases w with
  | all => exact h
  | first limit =>
    simp only [cut]
    split
    · exact h
    · simp only [List.length_take]
      omega
  | slice limit offset =>
    simp only [cut]
    split <;> simp only [List.length_take, List.length_drop] <;> omega

end Window

end JobSearch.Query
