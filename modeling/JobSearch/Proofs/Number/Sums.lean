import JobSearch.Number.Sum
import Mathlib.Data.List.Basic

/-!
# Sums that can be formed

Numbers are added to the parts of a sum one after the other, so whether a sum can be formed depends
on their order: each finite number must stay in the range of doubles while it is carried through the
parts of those before it (`overflowsFrom_eq_false_iff`). It is not enough that all exact sums on the
way lie in that range. Behind a number that is not finite the parts are empty again, and infinities
of both signs have no sum. Nothing else can fail (`exists_roundedSum_iff`).

That the parts have the exact sum of the numbers, as no addition loses anything, is not proved here.

## Main definitions

* `Addable` — numbers whose sum can be formed.
-/

namespace JobSearch.Number

variable {xs : List Float}

/-- Numbers whose sum can be formed: each finite one gets through the parts of the sum of those
before it, and not both infinities are among them. -/
structure Addable (xs : List Float) : Prop where
  carries : ∀ before x after, xs = before ++ x :: after → isFinite x = true →
    isFinite (carry x (before.foldl withAddend [])).2 = true
  notOpposed : ¬(Reading.infinite true ∈ xs.map Reading.ofFloat ∧
    Reading.infinite false ∈ xs.map Reading.ofFloat)

theorem overflowsFrom_eq_false_iff {parts : List Float} : overflowsFrom parts xs = false ↔
    ∀ before x after, xs = before ++ x :: after → isFinite x = true →
      isFinite (carry x (before.foldl withAddend parts)).2 = true := by
  induction xs generalizing parts with
  | nil => simp [overflowsFrom]
  | cons x xs ih =>
    rw [overflowsFrom, Bool.or_eq_false_iff, ih]
    constructor
    · rintro ⟨hx, hrest⟩ before y after h hy
      cases before with
      | nil =>
        obtain ⟨rfl, -⟩ := List.cons.inj h
        simpa [hy] using hx
      | cons z before =>
        obtain ⟨rfl, htail⟩ := List.cons.inj h
        exact hrest before y after htail hy
    · refine fun h => ⟨?_, fun before y after hxs => h (x :: before) y after (congrArg _ hxs)⟩
      cases hx : isFinite x with
      | false => rfl
      | true => simp [show isFinite (carry x parts).2 = true from h [] x xs rfl hx]

/-- All exact sums on the way are in the range of doubles, but the largest double is carried through
the part `2 ^ 970`, and this sum is rounded up beyond the range. -/
example : overflowsFrom [] [-1, 9.979201547673599e291, 1.7976931348623157e308] = true := by
  decide +kernel

/-- A sum can be formed exactly if no number gets beyond the largest double when it is added and not
both infinities are among the numbers. -/
theorem exists_roundedSum_iff : (∃ y, roundedSum xs = .ok y) ↔ Addable xs := by
  have hiff : Addable xs ↔ overflowsFrom [] xs = false ∧
      ¬(Reading.infinite true ∈ xs.map Reading.ofFloat ∧
        Reading.infinite false ∈ xs.map Reading.ofFloat) :=
    ⟨fun h => ⟨overflowsFrom_eq_false_iff.mpr h.carries, h.notOpposed⟩,
      fun h => ⟨overflowsFrom_eq_false_iff.mp h.1, h.2⟩⟩
  rw [hiff, roundedSum]
  simp only [Bool.and_eq_true, List.contains_iff_mem]
  split
  · next hover => simp [hover]
  · next hover =>
    split
    · next hopposed => simp [hopposed]
    · next hopposed =>
      refine iff_of_true ?_ ⟨eq_false_of_ne_true hover, hopposed⟩
      split
      · exact ⟨_, rfl⟩
      · split
        · exact ⟨_, rfl⟩
        · split <;> exact ⟨_, rfl⟩

/-- The sum of finite numbers is that of their parts. -/
theorem Addable.roundedSum_eq (h : Addable xs) (hfinite : ∀ x ∈ xs, isFinite x = true) :
    roundedSum xs = .ok (ofParts (xs.foldl withAddend [])) := by
  have hother : ∀ r : Reading, r.value? = none → (xs.map Reading.ofFloat).contains r = false := by
    intro r hr
    rw [← Bool.not_eq_true, List.contains_iff_mem, List.mem_map]
    rintro ⟨x, hx, rfl⟩
    simpa [isFinite, hr] using hfinite x hx
  simp only [roundedSum, overflowsFrom_eq_false_iff.mpr h.carries, hother .nan rfl,
    hother (.infinite true) rfl, hother (.infinite false) rfl, Bool.and_self, Bool.false_eq_true,
    if_false]

theorem addable_single (x : Float) : Addable [x] where
  carries := by
    intro before y after h hy
    obtain ⟨rfl, rfl, -⟩ : before = [] ∧ x = y ∧ after = [] := by
      cases before with
      | nil => simpa using h
      | cons z before => simp at h
    exact hy
  notOpposed := by
    rintro ⟨hnegative, hpositive⟩
    simp only [List.map_cons, List.map_nil, List.mem_singleton] at hnegative hpositive
    rw [← hnegative] at hpositive
    cases hpositive

end JobSearch.Number
