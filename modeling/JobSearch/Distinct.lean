/-!
# Distinct elements

A list without repetitions: of equal elements the first one stays, in its place.

## Main definitions

* `distinct` — a list without repetitions.
* `groupsBy` — a list split into groups of elements with equal keys.
-/

namespace JobSearch

/-- A list without repetitions; of equal elements the first stays. -/
def distinct {α : Type} [DecidableEq α] : List α → List α
  | [] => []
  | x :: xs => x :: (distinct xs).filter (· ≠ x)

section

variable {α : Type} [DecidableEq α]

@[simp] theorem mem_distinct {x : α} {xs : List α} : x ∈ distinct xs ↔ x ∈ xs := by
  induction xs with
  | nil => simp [distinct]
  | cons y ys ih =>
    by_cases h : x = y <;> simp [distinct, List.mem_filter, ih, h]

theorem nodup_distinct (xs : List α) : (distinct xs).Nodup := by
  induction xs with
  | nil => simp [distinct]
  | cons y ys ih =>
    rw [distinct, List.nodup_cons]
    exact ⟨by simp [List.mem_filter], ih.filter _⟩

end

/-- A list split into groups of elements with equal keys, in the order of their first
elements. -/
def groupsBy {α κ : Type} [DecidableEq κ] (key : α → κ) (xs : List α) : List (List α) :=
  (distinct (xs.map key)).map fun k => xs.filter fun x => key x = k

end JobSearch
