import JobSearch.Proofs.Number.Comparison
import JobSearch.Proofs.Statistics.Columns
import Mathlib

/-!
# Percentiles of exact numbers

Some figures of a summary depend on the order of the values only: the least and the greatest value,
the median and the values at the shares. They are formed by one rule from the values in ascending
order, which a summary applies to doubles (`orderFigures_of_summarize`) and which is read here over
exact numbers. Doubles are put in the order of their exact values (`ascending_exactValue?`), so the
two readings differ only in that the values at the shares are rounded.

Over exact numbers a percentile interpolates within the data. The positions it reads are inside the
list, it lies between the values there and it rises with the share, so the figures of every list
that has a value come in the order of their shares (`percentiles_within_data`).

## Main definitions

* `OrderFigures`, `orderFigures` — the figures that depend on the order only.
* `exactPercentile`, `exactFigures` — percentiles and figures of exact numbers.
-/

namespace JobSearch

open Number

/-! ### Figures of values in order -/

/-- The figures of a summary that depend on the order of the values only. -/
structure OrderFigures (α : Type) where
  min : α
  max : α
  median : α
  /-- The values at the shares of a summary, each with its share. -/
  percentiles : List (Nat × α)
  deriving DecidableEq

/-- The figures of values in ascending order, the shares given as numbers. -/
def orderFigures {α : Type} [Graded α] (share : Nat → α) (ordered : List α) :
    Except PlaceFault (OrderFigures α) :=
  match ordered.head?, ordered.getLast? with
  | some low, some high => do
    let median ← quantile ordered (share 50)
    let percentiles ← summaryShares.mapM fun p => do
      return (p, ← quantile ordered (share p))
    return ⟨low, high, median, percentiles⟩
  | _, _ => .error .noValues

/-- The figures of a summary that depend on the order only. -/
def Summary.orderFigures (s : Summary) : OrderFigures Float :=
  ⟨s.min, s.max, s.median, s.percentiles⟩

/-- A summary forms these figures by the one rule. -/
theorem orderFigures_of_summarize {samples : List Sample} {s : Summary}
    (hs : summarize samples = .ok s) :
    orderFigures (fun p => Float.ofNat p / 100) (ascending (samples.map Sample.value)) =
      .ok s.orderFigures := by
  simp only [summarize] at hs
  generalize ascending (samples.map Sample.value) = ordered at hs ⊢
  split at hs
  · rename_i _ low high _ hlow hhigh
    obtain ⟨mean, -, hs⟩ := bind_eq_ok_iff.mp hs
    obtain ⟨squares, -, hs⟩ := bind_eq_ok_iff.mp hs
    obtain ⟨variance, -, hs⟩ := bind_eq_ok_iff.mp hs
    obtain ⟨median, hmedian, hs⟩ := bind_eq_ok_iff.mp hs
    obtain ⟨most, -, hs⟩ := bind_eq_ok_iff.mp hs
    obtain ⟨percentiles, hpercentiles, hs⟩ := bind_eq_ok_iff.mp hs
    obtain rfl := Except.ok.inj hs
    have hshares : (summaryShares.mapM fun p => do
        return (p, ← quantile ordered (Float.ofNat p / 100))) = .ok percentiles := by
      rw [← List.map_id percentiles]
      refine mapM_eq_ok ((forall₂_of_mapM hpercentiles).imp fun p found hfound => ?_)
      obtain ⟨x, hx, hfound⟩ := bind_eq_ok_iff.mp hfound
      obtain rfl := Except.ok.inj hfound
      exact bind_eq_ok_iff.mpr ⟨x, percentile_eq_ok_iff.mp hx, rfl⟩
    rw [orderFigures, hlow, hhigh]
    exact bind_eq_ok_iff.mpr ⟨median, percentile_eq_ok_iff.mp hmedian,
      bind_eq_ok_iff.mpr ⟨percentiles, hshares, rfl⟩⟩
  · cases hs

/-! ### The order of exact numbers -/

/-- Exact numbers in ascending order. -/
def ascendingExact (qs : List ℚ) : List ℚ := qs.mergeSort fun a b => decide (a ≤ b)

theorem pairwise_ascendingExact (qs : List ℚ) : (ascendingExact qs).Pairwise (· ≤ ·) := by
  refine (List.pairwise_mergeSort (fun a b c hab hbc => ?_) (fun a b => ?_) qs).imp
    of_decide_eq_true
  · exact decide_eq_true ((of_decide_eq_true hab).trans (of_decide_eq_true hbc))
  · simpa using le_total a b

theorem mem_ascendingExact {qs : List ℚ} {q : ℚ} : q ∈ ascendingExact qs ↔ q ∈ qs := List.mem_mergeSort

theorem ascendingExact_ne_nil {qs : List ℚ} (hne : qs ≠ []) : ascendingExact qs ≠ [] := by
  obtain ⟨q, hq⟩ := List.exists_mem_of_ne_nil qs hne
  exact List.ne_nil_of_mem (mem_ascendingExact.mpr hq)

/-- Numbers in any order come in the one ascending order. -/
theorem ascendingExact_eq_of_perm {qs xs : List ℚ} (h : qs.Perm xs) (hxs : xs.Pairwise (· ≤ ·)) :
    ascendingExact qs = xs :=
  ((List.mergeSort_perm qs _).trans h).eq_of_pairwise (fun _ _ _ _ => le_antisymm)
    (pairwise_ascendingExact qs) hxs

/-- Finite doubles are put in the order of their exact values. -/
theorem ascending_exactValue? {xs : List Float} {qs : List ℚ}
    (h : xs.map exactValue? = qs.map some) :
    (ascending xs).map exactValue? = (ascendingExact qs).map some := by
  have hvalue : ∀ x ∈ xs, ∃ q, exactValue? x = some q := by
    intro x hx
    obtain ⟨q, -, hq⟩ := List.mem_map.mp (h ▸ List.mem_map_of_mem hx)
    exact ⟨q, hq.symm⟩
  have hany : xs.any isNaN = false := List.any_eq_false.mpr fun x hx => by
    obtain ⟨q, hq⟩ := hvalue x hx
    simp [isNaN_of_exactValue? hq]
  let le (a b : Option ℚ) : Bool := decide (a.getD 0 ≤ b.getD 0)
  have hle : ∀ x ∈ xs, ∀ y ∈ xs, (!decide (y < x)) = le (exactValue? x) (exactValue? y) := by
    intro x hx y hy
    obtain ⟨p, hp⟩ := hvalue x hx
    obtain ⟨q, hq⟩ := hvalue y hy
    simp [le, hp, hq, lt_iff_of_exactValue? hq hp, ← decide_not]
  calc (ascending xs).map exactValue?
      = (xs.map exactValue?).mergeSort le := by
        rw [ascending, hany, if_neg Bool.false_ne_true, List.map_mergeSort hle]
    _ = (qs.map some).mergeSort le := by rw [h]
    _ = (ascendingExact qs).map some :=
        (List.map_mergeSort (f := some) (s := le) (r := fun a b => decide (a ≤ b))
          fun a _ b _ => rfl).symm

/-! ### Percentiles -/

/-- The value of an ascending list of exact numbers at a percentage. -/
def exactPercentile (xs : List ℚ) (p : ℚ) : Except PlaceFault ℚ := quantile xs (p / 100)

/-- The figures of exact numbers in any order. -/
def exactFigures (qs : List ℚ) : Except PlaceFault (OrderFigures ℚ) :=
  orderFigures (fun p => p / 100) (ascendingExact qs)

section percentiles

variable {xs : List ℚ} {p p' : ℚ} (hne : xs ≠ [])
include hne

/-- A percentage leads to a place inside the list and to the value there. -/
theorem exists_exactPercentile (hlow : 0 ≤ p) (hhigh : p ≤ 100) :
    let place := p / 100 * ((xs.length : ℚ) - 1)
    0 ≤ place.floor ∧ place.ceil < xs.length ∧
      ∃ low high v, LiesAt xs place low high v ∧ exactPercentile xs p = .ok v := by
  have hlow' : 0 ≤ p / 100 := div_nonneg hlow (by norm_num)
  have hhigh' : p / 100 ≤ 1 := (div_le_one (by norm_num)).mpr hhigh
  have hplace : placeOf xs (p / 100) = p / 100 * ((xs.length : ℚ) - 1) := by
    show p / 100 * ((xs.length - 1 : ℤ) : ℚ) = _
    push_cast
    rfl
  rw [← hplace]
  exact ⟨floor_placeOf_nonneg hne hlow', ceil_placeOf_lt hne hhigh',
    exists_liesAt hne hlow' hhigh'⟩

theorem exactPercentile_zero : exactPercentile xs 0 = .ok (xs.head hne) := by
  rw [exactPercentile, zero_div, quantile_zero hne]

theorem exactPercentile_hundred : exactPercentile xs 100 = .ok (xs.getLast hne) := by
  rw [exactPercentile, div_self (by norm_num), quantile_one hne]

theorem exactPercentile_mono (hxs : xs.Pairwise (· ≤ ·)) (hlow : 0 ≤ p) (hle : p ≤ p')
    (hhigh : p' ≤ 100) : ∃ v v', exactPercentile xs p = .ok v ∧ exactPercentile xs p' = .ok v' ∧
      v ≤ v' := by
  refine quantile_mono hne hxs (div_nonneg hlow (by norm_num)) ?_
    ((div_le_one (by norm_num)).mpr hhigh)
  gcongr

end percentiles

/-- The figures are the ends of the list and the values at the shares. -/
theorem orderFigures_eq {α : Type} [Graded α] {share value : Nat → α} {xs : List α} (hne : xs ≠ [])
    (h : ∀ p ∈ summaryShares, quantile xs (share p) = .ok (value p)) :
    orderFigures share xs = .ok ⟨xs.head hne, xs.getLast hne, value 50,
      summaryShares.map fun p => (p, value p)⟩ := by
  have hpercentiles : (summaryShares.mapM fun p => do return (p, ← quantile xs (share p))) =
      .ok (summaryShares.map fun p => (p, value p)) :=
    mapM_eq_ok (List.forall₂_same.mpr fun p hp => by rw [h p hp]; rfl)
  rw [orderFigures, List.head?_eq_some_head hne, List.getLast?_eq_some_getLast hne]
  simp only [h 50 (by decide), hpercentiles]
  rfl

/-- The figures of exact numbers come in the order of their shares. -/
theorem exists_exactFigures {qs : List ℚ} (hne : qs ≠ []) :
    ∃ low p25 p50 p75 p90 p95 p99 high,
      exactFigures qs = .ok ⟨low, high, p50,
        [(25, p25), (50, p50), (75, p75), (90, p90), (95, p95), (99, p99)]⟩ ∧
      (low ∈ qs ∧ ∀ q ∈ qs, low ≤ q) ∧ (high ∈ qs ∧ ∀ q ∈ qs, q ≤ high) ∧
      low ≤ p25 ∧ p25 ≤ p50 ∧ p50 ≤ p75 ∧ p75 ≤ p90 ∧ p90 ≤ p95 ∧ p95 ≤ p99 ∧ p99 ≤ high := by
  have hne' := ascendingExact_ne_nil hne
  have hxs := pairwise_ascendingExact qs
  have hvalue : ∀ p : ℕ, p ≤ 100 → ∃ v, exactPercentile (ascendingExact qs) p = .ok v := by
    intro p hp
    obtain ⟨-, -, -, -, v, -, hv⟩ := exists_exactPercentile hne' p.cast_nonneg
      (by exact_mod_cast hp)
    exact ⟨v, hv⟩
  choose! value hvalue using hvalue
  have hmono : ∀ p p' : ℕ, p ≤ p' → p' ≤ 100 → value p ≤ value p' := by
    intro p p' hle hhigh
    obtain ⟨v, v', hv, hv', hle'⟩ := exactPercentile_mono hne' hxs (Nat.cast_nonneg p)
      (Nat.cast_le.mpr hle) (by exact_mod_cast hhigh)
    rw [hvalue p (hle.trans hhigh)] at hv
    rw [hvalue p' hhigh] at hv'
    rwa [Except.ok.inj hv, Except.ok.inj hv']
  have hfirst : value 0 = (ascendingExact qs).head hne' := by
    have h := hvalue 0 (by norm_num)
    rw [Nat.cast_zero, exactPercentile_zero hne'] at h
    exact (Except.ok.inj h).symm
  have hlast : value 100 = (ascendingExact qs).getLast hne' := by
    have h := hvalue 100 le_rfl
    rw [Nat.cast_ofNat, exactPercentile_hundred hne'] at h
    exact (Except.ok.inj h).symm
  have hfigures : exactFigures qs = .ok ⟨value 0, value 100, value 50,
      summaryShares.map fun p => (p, value p)⟩ := by
    rw [hfirst, hlast]
    exact orderFigures_eq hne' fun p hp => hvalue p (by revert p; decide)
  refine ⟨value 0, value 25, value 50, value 75, value 90, value 95, value 99, value 100,
    hfigures, ⟨?_, fun q hq => ?_⟩, ⟨?_, fun q hq => ?_⟩, ?_⟩
  · rw [hfirst]
    exact mem_ascendingExact.mp (List.head_mem hne')
  · rw [hfirst]
    exact hxs.rel_head (mem_ascendingExact.mpr hq)
  · rw [hlast]
    exact mem_ascendingExact.mp (List.getLast_mem hne')
  · rw [hlast]
    exact hxs.rel_getLast (mem_ascendingExact.mpr hq)
  · refine ⟨hmono _ _ ?_ ?_, hmono _ _ ?_ ?_, hmono _ _ ?_ ?_, hmono _ _ ?_ ?_, hmono _ _ ?_ ?_,
      hmono _ _ ?_ ?_, hmono _ _ ?_ ?_⟩ <;> decide

/-- In an ascending list a percentage leads to a place inside the list, and the value there lies
between the values at the positions around it. It is one of them at a position itself, so the first
and the last percentage give the least and the greatest value, and it never falls from one
percentage to a greater one. Hence the figures of a list in any order come in the order of their
shares. A summary forms the same figures of doubles, which it puts in the order of their exact
values. -/
theorem percentiles_within_data :
    (∀ (xs : List ℚ) (hne : xs ≠ []), xs.Pairwise (· ≤ ·) →
      (∀ p : ℚ, 0 ≤ p → p ≤ 100 →
        let place := p / 100 * ((xs.length : ℚ) - 1)
        0 ≤ place.floor ∧ place.ceil < xs.length ∧
          ∃ low high v, LiesAt xs place low high v ∧ exactPercentile xs p = .ok v ∧
            low ≤ v ∧ v ≤ high ∧ ∀ k : ℤ, place = k → v = low ∧ v = high) ∧
      (exactPercentile xs 0 = .ok (xs.head hne) ∧ ∀ x ∈ xs, xs.head hne ≤ x) ∧
      (exactPercentile xs 100 = .ok (xs.getLast hne) ∧ ∀ x ∈ xs, x ≤ xs.getLast hne) ∧
      ∀ p p' : ℚ, 0 ≤ p → p ≤ p' → p' ≤ 100 →
        ∃ v v', exactPercentile xs p = .ok v ∧ exactPercentile xs p' = .ok v' ∧ v ≤ v') ∧
    (∀ qs : List ℚ, qs ≠ [] → ∃ low p25 p50 p75 p90 p95 p99 high,
      exactFigures qs = .ok ⟨low, high, p50,
        [(25, p25), (50, p50), (75, p75), (90, p90), (95, p95), (99, p99)]⟩ ∧
      (low ∈ qs ∧ ∀ q ∈ qs, low ≤ q) ∧ (high ∈ qs ∧ ∀ q ∈ qs, q ≤ high) ∧
      low ≤ p25 ∧ p25 ≤ p50 ∧ p50 ≤ p75 ∧ p75 ≤ p90 ∧ p90 ≤ p95 ∧ p95 ≤ p99 ∧ p99 ≤ high) ∧
    (∀ samples s, summarize samples = .ok s →
      orderFigures (fun p => Float.ofNat p / 100) (ascending (samples.map Sample.value)) =
        .ok s.orderFigures) ∧
    ∀ xs qs, xs.map exactValue? = qs.map some →
      (ascending xs).map exactValue? = (ascendingExact qs).map some := by
  refine ⟨fun xs hne hxs => ⟨fun p hlow hhigh => ?_, ⟨exactPercentile_zero hne, fun x hx => ?_⟩,
    ⟨exactPercentile_hundred hne, fun x hx => ?_⟩, fun p p' => exactPercentile_mono hne hxs⟩,
    fun qs => exists_exactFigures, fun samples s => orderFigures_of_summarize,
    fun xs qs => ascending_exactValue?⟩
  · obtain ⟨hfloor, hceil, low, high, v, hlies, hv⟩ := exists_exactPercentile hne hlow hhigh
    exact ⟨hfloor, hceil, low, high, v, hlies, hv, hlies.low_le hxs, hlies.le_high hxs,
      fun k => hlies.eq_of_position⟩
  · exact hxs.rel_head hx
  · exact hxs.rel_getLast hx

/-- Nine tenths of the way through five numbers lie between the fourth and the fifth one. Eight
numbers in no order have a median between two of them, and all figures of a single double are that
double. -/
theorem percentiles_of_sample :
    (exactPercentile [1, 2, 3, 4, 5] 90 = .ok (23 / 5) ∧ (4 : ℚ) ≤ 23 / 5 ∧ (23 / 5 : ℚ) ≤ 5) ∧
    (∃ low p25 p50 p75 p90 p95 p99 high,
      exactFigures [9, 4, 5, 2, 4, 7, 5, 4] = .ok ⟨low, high, p50,
        [(25, p25), (50, p50), (75, p75), (90, p90), (95, p95), (99, p99)]⟩ ∧
      low = 2 ∧ p50 = 9 / 2 ∧ p75 = 11 / 2 ∧ p75 ≤ p90 ∧ high = 9) ∧
    ∃ s, summarize [⟨7, false⟩] = .ok s ∧
      s.orderFigures = ⟨7, 7, 7, [(25, 7), (50, 7), (75, 7), (90, 7), (95, 7), (99, 7)]⟩ := by
  obtain ⟨hascending, hany, hsummary, -⟩ := percentiles_within_data
  refine ⟨?_, ?_, ?_⟩
  · obtain ⟨hplaces, -⟩ := hascending [1, 2, 3, 4, 5] (by simp) (by decide +kernel)
    obtain ⟨-, -, low, high, v, hlies, hv, hlow, hhigh, -⟩ := hplaces 90 (by norm_num) (by norm_num)
    have hvalue : (exactPercentile [1, 2, 3, 4, 5] 90).toOption = some (23 / 5) := by
      decide +kernel
    obtain rfl : 23 / 5 = v := Option.some.inj (hvalue.symm.trans (congrArg Except.toOption hv))
    obtain rfl : 4 = low := Option.some.inj (Eq.trans (by decide +kernel) hlies.low_at)
    obtain rfl : 5 = high := Option.some.inj (Eq.trans (by decide +kernel) hlies.high_at)
    exact ⟨hv, hlow, hhigh⟩
  · obtain ⟨low, p25, p50, p75, p90, p95, p99, high, hfigures, -, -, -, -, -, hle, -⟩ :=
      hany [9, 4, 5, 2, 4, 7, 5, 4] (by simp)
    refine ⟨low, p25, p50, p75, p90, p95, p99, high, hfigures, ?_⟩
    have horder : ascendingExact [9, 4, 5, 2, 4, 7, 5, 4] = [2, 4, 4, 4, 5, 5, 7, 9] :=
      ascendingExact_eq_of_perm (by decide +kernel) (by decide +kernel)
    have hvalues : (orderFigures (fun p => (p : ℚ) / 100) [2, 4, 4, 4, 5, 5, 7, 9]).toOption =
        some ⟨2, 9, 9 / 2, [(25, 4), (50, 9 / 2), (75, 11 / 2), (90, 38 / 5), (95, 83 / 10),
          (99, 443 / 50)]⟩ := by decide +kernel
    rw [← horder] at hvalues
    have hsame := hvalues.symm.trans (congrArg Except.toOption hfigures)
    simp only [Except.toOption, Option.some.injEq, OrderFigures.mk.injEq, List.cons.injEq,
      Prod.mk.injEq] at hsame
    obtain ⟨rfl, rfl, rfl, -, -, ⟨-, rfl⟩, -⟩ := hsame
    exact ⟨rfl, rfl, rfl, hle, rfl⟩
  · have hfigures : HasFigures [7] := .single (by decide +kernel)
    have hsingle : (∃ s, summarize [⟨7, false⟩] = .ok s) ↔ HasFigures [7] :=
      exists_summarize_iff (by simp) rfl (by decide +kernel)
    obtain ⟨s, hs⟩ := hsingle.mpr hfigures
    refine ⟨s, hs, ?_⟩
    have hvalues : (orderFigures (fun p => Float.ofNat p / 100) (ascending [7])).toOption =
        some ⟨7, 7, 7, [(25, 7), (50, 7), (75, 7), (90, 7), (95, 7), (99, 7)]⟩ := by
      decide +kernel
    exact (Option.some.inj (hvalues.symm.trans (congrArg Except.toOption (hsummary _ s hs)))).symm

end JobSearch
