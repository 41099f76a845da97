import JobSearch.Distinct
import Mathlib.Algebra.BigOperators.Ring.Finset
import Mathlib.Data.List.Perm.Subperm

/-!
# Groups and distinct elements

The groups of a list by a key are the parts of the list on which the key is constant, one for
each key that occurs. A list without repetitions is counted by what it has: it is as long as any
other list without repetitions and with the same elements.

## Main statements

* `mem_groupsBy` — the groups of a list.
* `length_distinct_eq`, `length_distinct_eq_iff` — counting distinct elements.
-/

namespace JobSearch

variable {α κ : Type}

section

variable [DecidableEq α]

/-- Distinct elements are as many as the elements of a list without repetitions that has the
same ones. -/
theorem length_distinct_eq {xs ys : List α} (hn : ys.Nodup) (h : ∀ x, x ∈ xs ↔ x ∈ ys) :
    (distinct xs).length = ys.length := by
  have hp : (distinct xs).Perm ys :=
    (List.perm_ext_iff_of_nodup (nodup_distinct xs) hn).mpr fun x => by rw [mem_distinct, h]
  exact hp.length_eq

/-- A list without repetitions is left as it is. -/
theorem distinct_eq_self {xs : List α} (hn : xs.Nodup) : distinct xs = xs := by
  induction xs with
  | nil => rfl
  | cons x xs ih =>
    obtain ⟨hx, hn⟩ := List.nodup_cons.mp hn
    have hkeep : ∀ y ∈ xs, decide (y ≠ x) = true := fun y hy =>
      decide_eq_true fun he => hx (he ▸ hy)
    rw [distinct, ih hn, List.filter_eq_self.mpr hkeep]

/-- A list with one more element at its end, each element once. -/
theorem distinct_concat (xs : List α) (x : α) :
    distinct (xs ++ [x]) = if x ∈ xs then distinct xs else distinct xs ++ [x] := by
  induction xs with
  | nil => rfl
  | cons y ys ih =>
    rw [List.cons_append, distinct, distinct, ih]
    by_cases hx : x = y
    · subst hx
      by_cases hmem : x ∈ ys <;> simp [hmem]
    · by_cases hmem : x ∈ ys <;> simp [hmem, hx]

/-- Of some distinct elements all occur if as many distinct elements occur among them. -/
theorem length_distinct_eq_iff {xs ys : List α} (hn : ys.Nodup) (hsub : ∀ x ∈ xs, x ∈ ys) :
    (distinct xs).length = ys.length ↔ ∀ y ∈ ys, y ∈ xs := by
  constructor
  · intro h y hy
    have hp : (distinct xs).Subperm ys :=
      List.subperm_of_subset (nodup_distinct xs) fun x hx => hsub x (mem_distinct.mp hx)
    have hy' : y ∈ distinct xs := (hp.perm_of_length_le (Nat.le_of_eq h.symm)).mem_iff.mpr hy
    exact mem_distinct.mp hy'
  · intro h
    exact length_distinct_eq hn fun x => ⟨hsub x, h x⟩

end

variable [DecidableEq κ] {key : α → κ} {xs : List α}

/-- A group is what has one key in a list, for a key that occurs. -/
theorem mem_groupsBy {g : List α} :
    g ∈ groupsBy key xs ↔ ∃ x ∈ xs, g = xs.filter fun y => key y = key x := by
  simp only [groupsBy, List.mem_map, mem_distinct]
  constructor
  · rintro ⟨_, ⟨x, hx, rfl⟩, rfl⟩
    exact ⟨x, hx, rfl⟩
  · rintro ⟨x, hx, rfl⟩
    exact ⟨key x, ⟨x, hx, rfl⟩, rfl⟩

/-- A group begins with an element of its key. -/
theorem head?_of_mem_groupsBy {g : List α} (hg : g ∈ groupsBy key xs) :
    ∃ x ∈ xs, g.head? = some x ∧ g = xs.filter fun y => key y = key x := by
  obtain ⟨x, hx, rfl⟩ := mem_groupsBy.mp hg
  cases h : xs.filter fun y => key y = key x with
  | nil => exact absurd (List.filter_eq_nil_iff.mp h x hx) (by simp)
  | cons y rest =>
    have hy : y ∈ xs ∧ key y = key x := by
      simpa using List.mem_filter.mp (show y ∈ xs.filter fun y => key y = key x by simp [h])
    refine ⟨y, hy.1, rfl, ?_⟩
    rw [hy.2, h]

/-- Elements of different groups have different keys. -/
theorem pairwise_groupsBy :
    (groupsBy key xs).Pairwise fun g h => ∀ x ∈ g, ∀ y ∈ h, key x ≠ key y := by
  rw [groupsBy, List.pairwise_map]
  refine (nodup_distinct (xs.map key)).imp fun hne x hx y hy he => hne ?_
  have hkx := (List.mem_filter.mp hx).2
  have hky := (List.mem_filter.mp hy).2
  rw [← of_decide_eq_true hkx, ← of_decide_eq_true hky, he]

/-! ### Counting by labels -/

/-- Elements with one of two properties that exclude each other are counted one property after
the other. -/
theorem length_filter_or {p q : α → Bool} (xs : List α)
    (h : ∀ x ∈ xs, p x = true → q x = false) :
    (xs.filter fun x => p x || q x).length = (xs.filter p).length + (xs.filter q).length := by
  induction xs with
  | nil => rfl
  | cons x xs ih =>
    have hx := h x (by simp)
    have ih := ih fun y hy => h y (by simp [hy])
    cases hp : p x with
    | true =>
      simp [hp, hx hp, ih]
      omega
    | false =>
      cases hq : q x <;> simp [hp, hq, ih]
      omega

/-- If every element has at most one label then the elements counted label by label are those that
have one of the labels. -/
theorem sum_length_filter {β : Type} {has : α → β → Bool} {labels : List β} (hn : labels.Nodup)
    (h : ∀ x ∈ xs, ∀ a b, has x a = true → has x b = true → a = b) :
    (labels.map fun l => (xs.filter fun x => has x l).length).sum =
      (xs.filter fun x => labels.any (has x)).length := by
  induction labels with
  | nil => simp
  | cons l labels ih =>
    obtain ⟨hl, hn⟩ := List.nodup_cons.mp hn
    have hor := length_filter_or (p := fun x => has x l) (q := fun x => labels.any (has x)) xs
      fun x hx hxl => by
        rw [List.any_eq_false]
        intro m hm hxm
        exact hl (h x hx l m hxl hxm ▸ hm)
    rw [List.map_cons, List.sum_cons, ih hn]
    simp only [List.any_cons]
    exact hor.symm

end JobSearch
