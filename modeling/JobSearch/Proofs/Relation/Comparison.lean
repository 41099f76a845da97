import JobSearch.Relation.Column
import Mathlib.Data.List.Basic

/-!
# Comparing cells

What a comparison of cells says when one of them is an integer, a double or text. A row is kept
only if its condition is true, and the truth of a conjunction or a disjunction is that of its
parts, so whether a comparison holds is all that a condition needs of it. Cells of a column of
labels hold text or nothing; on them equality of cells is equality of texts, and nothing is equal
to no text.

## Main definitions

* `Cell.IsLabel`, `Cell.IsNumeric` — what columns of labels and of numbers hold.

## Main statements

* `Cell.holds_equals_int`, `Cell.holds_int_equals` — equality with an integer is that of keys.
* `Cell.IsLabel.holds_equals` — equality of a label with text.
* `Cell.holds_oneOf` — being one of several cells.
* `Cell.holds_compare_real`, `Cell.holds_compare_int` — comparison with a number.
-/

namespace JobSearch.Cell

/-- The cell holds text or nothing. -/
def IsLabel (c : Cell) : Prop := c = null ∨ ∃ s, c = text s

/-- The cell holds a number that fits the storage, or nothing. -/
def IsNumeric (c : Cell) : Prop :=
  c = null ∨ (∃ n, c = int n ∧ (int n).fits = true) ∨ ∃ x, c = real x

theorem isLabel_null : IsLabel null := Or.inl rfl

theorem isLabel_text (s : String) : IsLabel (text s) := Or.inr ⟨s, rfl⟩

theorem key_int (n : Int) : (int n).key = .number (.exactly n) := rfl

theorem isNull_int (n : Int) : (int n).isNull = false := rfl

theorem key_int_inj {m n : Int} (h : (int m).key = (int n).key) : m = n := by
  rw [key_int, key_int] at h
  injection h with h
  injection h with h
  exact Rat.intCast_inj.mp h

/-- A number is never in the way in which some text compares. -/
theorem key_plain_collated (x : Cell) (c : Collation) (p : Number.Point) :
    (x.plain.collated (some c)).key = .number p ↔ x.key = .number p := by
  cases x with
  | text s => simp [plain, collated, key]
  | folded d s => simp [plain, collated, key]
  | _ => rfl

theorem holds_compare_of_isNull {f : Key → Key → Bool} {a b : Cell}
    (h : a.isNull = true ∨ b.isNull = true) : (compare f a b).holds = false := by
  rw [compare, if_pos (by simpa using h)]
  rfl

/-- Equality with an integer is equality of keys. -/
theorem holds_equals_int (x : Cell) (n : Int) :
    (x.equals (int n)).holds = true ↔ x.key = (int n).key := by
  by_cases hx : x.isNull = true
  · rw [equals, holds_compare_of_isNull (Or.inl hx)]
    simp only [isNull, beq_iff_eq] at hx
    simp [hx, key_int]
  · rw [equals, compare, if_neg (by simpa [isNull_int] using hx)]
    cases hc : x.collation?.or (int n).collation? with
    | none => simp
    | some c =>
      simp only [Truth.holds_ofBool, beq_iff_eq]
      exact key_plain_collated x c _

theorem holds_int_equals (n : Int) (x : Cell) :
    ((int n).equals x).holds = true ↔ x.key = (int n).key := by
  by_cases hx : x.isNull = true
  · rw [equals, holds_compare_of_isNull (Or.inr hx)]
    simp only [isNull, beq_iff_eq] at hx
    simp [hx, key_int]
  · rw [equals, compare, if_neg (by simpa [isNull_int] using hx)]
    cases hc : (int n).collation?.or x.collation? with
    | none => simp only [Truth.holds_ofBool, beq_iff_eq]; exact eq_comm
    | some c =>
      simp only [Truth.holds_ofBool, beq_iff_eq]
      rw [eq_comm]
      exact key_plain_collated x c _

/-- Which side an integer stands on makes no difference to equality. -/
theorem holds_equals_int_comm (x : Cell) (n : Int) :
    (x.equals (int n)).holds = ((int n).equals x).holds := by
  rw [Bool.eq_iff_iff, holds_equals_int, holds_int_equals]

theorem holds_equals_iff (m n : Int) : ((int m).equals (int n)).holds = true ↔ n = m := by
  rw [holds_int_equals]
  exact ⟨key_int_inj, fun h => by rw [h]⟩

/-- A label equals text if it is that text. -/
theorem IsLabel.holds_equals {x : Cell} (h : x.IsLabel) (s : String) :
    (x.equals (text s)).holds = true ↔ x = text s := by
  rcases h with rfl | ⟨t, rfl⟩
  · simp [equals, compare, isNull, key, Truth.holds]
  · simp [equals, compare, isNull, key, collation?]

theorem holds_oneOf (a : Cell) (bs : List Cell) :
    (a.oneOf bs).holds = true ↔ ∃ b ∈ bs, (a.equals b).holds = true := by
  induction bs with
  | nil => simp [oneOf, Truth.holds]
  | cons b rest ih =>
    rw [oneOf] at ih ⊢
    rw [List.foldr_cons, Truth.holds_or, Bool.or_eq_true, ih]
    simp

/-- A label is one of several texts if it is one of them. -/
theorem IsLabel.holds_oneOf {x : Cell} (h : x.IsLabel) (labels : List String) :
    (x.oneOf (labels.map text)).holds = true ↔ ∃ l ∈ labels, x = text l := by
  rw [Cell.holds_oneOf]
  constructor
  · rintro ⟨_, hb, he⟩
    obtain ⟨l, hl, rfl⟩ := List.mem_map.mp hb
    exact ⟨l, hl, (h.holds_equals l).mp he⟩
  · rintro ⟨l, hl, rfl⟩
    exact ⟨_, List.mem_map_of_mem hl, (h.holds_equals l).mpr rfl⟩

/-! ### Numbers -/

theorem holds_of_compare_eq {decided : Key → Key → Bool} {a b : Cell}
    (h : compare decided a b =
      if a.isNull || b.isNull then .unknown else .ofBool (decided a.key b.key)) :
    (compare decided a b).holds = true ↔
      a.isNull = false ∧ b.isNull = false ∧ decided a.key b.key = true := by
  rw [h]
  by_cases hnull : (a.isNull || b.isNull) = true
  · rw [if_pos hnull]
    rcases Bool.or_eq_true_iff.mp hnull with ha | hb
    · simp [ha, Truth.holds]
    · simp [hb, Truth.holds]
  · rw [if_neg hnull, Truth.holds_ofBool]
    rw [Bool.not_eq_true, Bool.or_eq_false_iff] at hnull
    simp [hnull]

/-- Whether a cell compares in a way of its own makes no difference to a double. -/
theorem holds_compare_real (decided : Key → Key → Bool) (c : Cell) (x : Float) :
    (compare decided c (real x)).holds = true ↔
      c.isNull = false ∧ (real x).isNull = false ∧ decided c.key (real x).key = true :=
  holds_of_compare_eq (by cases c <;> rfl)

/-- Nor does it make one to an integer. -/
theorem holds_compare_int (decided : Key → Key → Bool) (c : Cell) (n : Int) :
    (compare decided c (int n)).holds = true ↔
      c.isNull = false ∧ decided c.key (int n).key = true := by
  rw [holds_of_compare_eq (by cases c <;> rfl)]
  simp [isNull_int]

/-! ### The order of results -/

theorem le_total (a b : Cell) : (a.le b || b.le a) = true := Key.le_total a.key b.key

theorem le_trans {a b c : Cell} (hab : a.le b = true) (hbc : b.le c = true) : a.le c = true :=
  Key.le_trans a.key b.key c.key hab hbc

theorem le_int (m n : Int) : (int m).le (int n) = decide (m ≤ n) := by
  show decide ((m : Rat) ≤ n) = decide (m ≤ n)
  exact decide_eq_decide.mpr Rat.intCast_le_intCast

theorem le_text (s t : String) : (text s).le (text t) = decide (s ≤ t) := rfl

end JobSearch.Cell
