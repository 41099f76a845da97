import Mathlib.Data.List.Sort

/-!
# Stable sorting

Items that may stand in either order are tied. A stable sort leaves tied items in their order
(`filter_tied_mergeSort`), and a list that is in order is known from the items tied with each
item (`eq_of_filter_tied`). So it makes no difference whether some of the items are picked before
or after all are sorted (`filter_mergeSort`), and an order that the list had before is kept among
tied items (`pairwise_mergeSort_of_pairwise`). In a strict order an item is among the first ones if
few enough items stand before it (`mem_take_iff_of_pairwise`).

## Main definitions

* `Tied` — two items may stand in either order.
-/

namespace JobSearch

variable {α : Type} {le : α → α → Bool}

/-- Two items may stand in either order. -/
def Tied (le : α → α → Bool) (a b : α) : Bool := le a b && le b a

theorem tied_iff {a b : α} : Tied le a b = true ↔ le a b = true ∧ le b a = true := by
  rw [Tied, Bool.and_eq_true]

section order

variable (htrans : ∀ a b c, le a b = true → le b c = true → le a c = true)
  (htotal : ∀ a b, (le a b || le b a) = true)
include htotal

theorem tied_self (a : α) : Tied le a a = true := by
  have h := htotal a a
  rw [Bool.or_self] at h
  rw [tied_iff]
  exact ⟨h, h⟩

/-- The first item of a list in order may stand before every item of the list. -/
theorem le_of_mem_cons {a c : α} {l : List α}
    (hl : (a :: l).Pairwise fun a b => le a b = true) (hc : c ∈ a :: l) : le a c = true := by
  rcases List.mem_cons.mp hc with rfl | hc
  · exact (tied_iff.mp (tied_self htotal c)).1
  · exact (List.pairwise_cons.mp hl).1 c hc

/-- Lists with the same tied items have the same items. -/
theorem mem_of_filter_tied {l m : List α}
    (h : ∀ a, l.filter (Tied le a) = m.filter (Tied le a)) {a : α} (ha : a ∈ l) : a ∈ m := by
  have hin : a ∈ l.filter (Tied le a) := List.mem_filter.mpr ⟨ha, tied_self htotal a⟩
  rw [h a] at hin
  exact (List.mem_filter.mp hin).1

/-- Two lists in order are equal if the items tied with each item are the same. -/
theorem eq_of_filter_tied {l m : List α} (hl : l.Pairwise fun a b => le a b = true)
    (hm : m.Pairwise fun a b => le a b = true)
    (h : ∀ a, l.filter (Tied le a) = m.filter (Tied le a)) : l = m := by
  have hback : ∀ a, m.filter (Tied le a) = l.filter (Tied le a) := fun a => (h a).symm
  induction l generalizing m with
  | nil =>
    refine (List.eq_nil_iff_forall_not_mem.mpr fun a ha => ?_).symm
    exact List.not_mem_nil (mem_of_filter_tied htotal hback ha)
  | cons a l ih =>
    cases m with
    | nil => exact absurd (mem_of_filter_tied htotal h List.mem_cons_self) List.not_mem_nil
    | cons b m =>
      -- Each of the two first items is in both lists, so they are tied and of one class.
      have hab : le a b = true :=
        le_of_mem_cons htotal hl (mem_of_filter_tied htotal hback List.mem_cons_self)
      have hba : le b a = true :=
        le_of_mem_cons htotal hm (mem_of_filter_tied htotal h List.mem_cons_self)
      have hfirst := h a
      rw [List.filter_cons_of_pos (tied_self htotal a),
        List.filter_cons_of_pos (tied_iff.mpr ⟨hab, hba⟩)] at hfirst
      obtain rfl : a = b := (List.cons.inj hfirst).1
      have hrest : ∀ c, l.filter (Tied le c) = m.filter (Tied le c) := by
        intro c
        have hc := h c
        by_cases ht : Tied le c a = true
        · rw [List.filter_cons_of_pos ht, List.filter_cons_of_pos ht] at hc
          exact (List.cons.inj hc).2
        · rwa [List.filter_cons_of_neg ht, List.filter_cons_of_neg ht] at hc
      rw [ih (List.pairwise_cons.mp hl).2 (List.pairwise_cons.mp hm).2 hrest
        fun c => (hrest c).symm]

include htrans

/-- Picked items that are in order keep their places among each other when all are sorted. -/
theorem filter_mergeSort_of_pairwise {l : List α} {p : α → Bool}
    (hp : (l.filter p).Pairwise fun a b => le a b = true) :
    (l.mergeSort le).filter p = l.filter p := by
  have hsub : (l.filter p).Sublist ((l.mergeSort le).filter p) := by
    have h := (List.sublist_mergeSort htrans htotal hp List.filter_sublist).filter p
    rwa [List.filter_filter, show (fun a => p a && p a) = p from funext fun a => Bool.and_self _]
      at h
  have hlen : (l.filter p).length = ((l.mergeSort le).filter p).length :=
    ((List.mergeSort_perm l le).filter p).length_eq.symm
  exact (hsub.eq_of_length hlen).symm

/-- Sorting leaves tied items in their order. -/
theorem filter_tied_mergeSort (l : List α) (a : α) :
    (l.mergeSort le).filter (Tied le a) = l.filter (Tied le a) := by
  refine filter_mergeSort_of_pairwise htrans htotal (List.pairwise_of_forall_mem_list ?_)
  intro b hb c hc
  obtain ⟨-, hba⟩ := tied_iff.mp (List.mem_filter.mp hb).2
  obtain ⟨hac, -⟩ := tied_iff.mp (List.mem_filter.mp hc).2
  exact htrans b a c hba hac

/-- A list in order is the sorted form of every list with the same tied items. -/
theorem mergeSort_eq_of_filter_tied {l m : List α} (hm : m.Pairwise fun a b => le a b = true)
    (h : ∀ a, l.filter (Tied le a) = m.filter (Tied le a)) : l.mergeSort le = m := by
  refine eq_of_filter_tied htotal (List.pairwise_mergeSort htrans htotal l) hm fun a => ?_
  rw [filter_tied_mergeSort htrans htotal, h]

/-- Picking some of the sorted items is sorting the picked ones. -/
theorem filter_mergeSort (l : List α) (p : α → Bool) :
    (l.mergeSort le).filter p = (l.filter p).mergeSort le := by
  refine (mergeSort_eq_of_filter_tied htrans htotal
    ((List.pairwise_mergeSort htrans htotal l).filter p) fun a => ?_).symm
  calc (l.filter p).filter (Tied le a)
      = (l.filter (Tied le a)).filter p := List.filter_comm _ _ _
    _ = ((l.mergeSort le).filter (Tied le a)).filter p := by
        rw [filter_tied_mergeSort htrans htotal]
    _ = ((l.mergeSort le).filter p).filter (Tied le a) := List.filter_comm _ _ _

/-- Items of a list in some order are sorted, and among tied ones they stand in that order. -/
theorem pairwise_mergeSort_of_pairwise {R : α → α → Prop} {l : List α} (hl : l.Pairwise R) :
    (l.mergeSort le).Pairwise fun a b => le a b = true ∧ (le b a = true → R a b) := by
  rw [List.pairwise_iff_forall_sublist]
  intro a b hsub
  have hsorted := (List.pairwise_mergeSort htrans htotal l).sublist hsub
  have hab : le a b = true := (List.pairwise_cons.mp hsorted).1 b (by simp)
  refine ⟨hab, fun hba => ?_⟩
  have hclass : [a, b].filter (Tied le a) = [a, b] := by
    rw [List.filter_eq_self]
    intro c hc
    rcases List.mem_pair.mp hc with rfl | rfl
    · exact tied_self htotal c
    · exact tied_iff.mpr ⟨hab, hba⟩
  have htied := hsub.filter (Tied le a)
  rw [hclass, filter_tied_mergeSort htrans htotal] at htied
  have hpair := hl.sublist (htied.trans List.filter_sublist)
  exact (List.pairwise_cons.mp hpair).1 b (by simp)

end order

/-- An item of a list in strict order is among the first ones exactly if fewer items stand before
it. -/
theorem mem_take_iff_of_pairwise {R : α → α → Prop} [DecidableRel R]
    (hasymm : ∀ a b, R a b → ¬R b a) {l : List α} (hl : l.Pairwise R) {x : α} (hx : x ∈ l)
    (n : Nat) : x ∈ l.take n ↔ (l.filter (R · x)).length < n := by
  have hirrefl : ∀ a, ¬R a a := fun a ha => hasymm a a ha ha
  induction l generalizing n with
  | nil => simp at hx
  | cons a l ih =>
    obtain ⟨ha, hl⟩ := List.pairwise_cons.mp hl
    cases n with
    | zero => simp
    | succ n =>
      rw [List.take_succ_cons, List.mem_cons]
      rcases List.mem_cons.mp hx with rfl | hin
      · have hnone : (x :: l).filter (R · x) = [] := by
          rw [List.filter_eq_nil_iff]
          intro b hb
          rcases List.mem_cons.mp hb with rfl | hb
          · simpa using hirrefl b
          · simpa using hasymm x b (ha b hb)
        simp [hnone]
      · have hne : x ≠ a := by
          rintro rfl
          exact hirrefl x (ha x hin)
        rw [List.filter_cons_of_pos (by simpa using ha x hin), List.length_cons,
          Nat.add_lt_add_iff_right, or_iff_right hne]
        exact ih hl hin n

/-- An item of a list in order that is not among the first ones stands behind all of them. -/
theorem mem_take_or_of_pairwise {R : α → α → Prop} {l : List α} (hl : l.Pairwise R) {x : α}
    (hx : x ∈ l) (n : Nat) : x ∈ l.take n ∨ (l.take n).length = n ∧ ∀ y ∈ l.take n, R y x := by
  rw [← List.take_append_drop n l, List.pairwise_append] at hl
  obtain ⟨-, -, hacross⟩ := hl
  rw [← List.take_append_drop n l, List.mem_append] at hx
  refine hx.imp_right fun hdrop => ⟨?_, fun y hy => hacross y hy x hdrop⟩
  have hlen := List.length_pos_of_mem hdrop
  rw [List.length_drop] at hlen
  rw [List.length_take]
  omega

end JobSearch
