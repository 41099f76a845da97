import JobSearch.Proofs.Number.Comparison
import JobSearch.Statistics.Summary

/-!
# The most frequent value

The mode of a list is found in one pass: each key is counted as it is read, and whenever a count
exceeds the highest one so far, its value becomes the best one. So at each step the best value is
the first to have reached the highest count of what was read (`FirstToReach`), and in the end that
of the whole list (`exists_mode?`). Between values that occur equally often the one decides that
was complete first: its last occurrence stands before that of the others
(`FirstToReach.lt_idxOfNth`).

## Main definitions

* `FirstToReach` — a key is the first one to reach the highest count.
-/

namespace JobSearch

open Number

/-! ### Reaching the highest count -/

/-- The key at a position is the first one of a list to reach the highest count of all. -/
structure FirstToReach {κ : Type} [DecidableEq κ] (ks : List κ) (n : Nat) (k : κ) : Prop where
  position : ks[n]? = some k
  most : ∀ l, ks.count l ≤ ks.countBefore k n + 1
  first : ∀ l, l ≠ k → ks.countBefore l n ≤ ks.countBefore k n

section keys

variable {κ : Type} [DecidableEq κ] {ks : List κ} {n : Nat} {k c : κ}

theorem countBefore_concat (h : n ≤ ks.length) (l c : κ) :
    (ks ++ [c]).countBefore l n = ks.countBefore l n := by
  rw [List.countBefore_eq_count_take, List.countBefore_eq_count_take,
    List.take_append_of_le_length h]

theorem countBefore_length_concat (l c : κ) :
    (ks ++ [c]).countBefore l ks.length = ks.count l := by
  rw [countBefore_concat le_rfl, List.countBefore_eq_count_take, List.take_length]

theorem FirstToReach.singleton (k : κ) : FirstToReach [k] 0 k where
  position := rfl
  most l := by simpa using List.count_le_length (a := l) (l := [k])
  first l _ := le_rfl

namespace FirstToReach

theorem lt_length (h : FirstToReach ks n k) : n < ks.length :=
  (List.getElem?_eq_some_iff.mp h.position).1

/-- A key that does not exceed the highest count leaves the best one as it is. -/
theorem concat_of_le (h : FirstToReach ks n k) (hc : ks.count c ≤ ks.countBefore k n) :
    FirstToReach (ks ++ [c]) n k where
  position := by rw [List.getElem?_append_left h.lt_length, h.position]
  most l := by
    rw [countBefore_concat h.lt_length.le, List.count_append, List.count_singleton]
    by_cases hl : c = l
    · subst hl
      simpa using hc
    · simpa [hl] using h.most l
  first l hl := by
    rw [countBefore_concat h.lt_length.le, countBefore_concat h.lt_length.le]
    exact h.first l hl

/-- A key that exceeds the highest count is the first one to do so. -/
theorem concat_of_lt (h : FirstToReach ks n k) (hc : ks.countBefore k n < ks.count c) :
    FirstToReach (ks ++ [c]) ks.length c where
  position := List.getElem?_concat_length
  most l := by
    have hl := h.most l
    rw [countBefore_length_concat, List.count_append, List.count_singleton]
    split
    · next he => rw [← eq_of_beq he]
    · omega
  first l _ := by
    have hl := h.most l
    rw [countBefore_length_concat, countBefore_length_concat]
    omega

/-- The first key to reach the highest count does so with its last occurrence. -/
theorem count_eq (h : FirstToReach ks n k) : ks.count k = ks.countBefore k n + 1 := by
  obtain ⟨hn, hk⟩ := List.getElem?_eq_some_iff.mp h.position
  have hat : (ks[n] == k) = true := beq_iff_eq.mpr hk
  exact le_antisymm (h.most k) (List.countPBefore_lt_countP_of_lt_length_of_pos hat)

theorem idxOfNth_eq (h : FirstToReach ks n k) : ks.idxOfNth k (ks.count k - 1) = n := by
  obtain ⟨hn, hk⟩ := List.getElem?_eq_some_iff.mp h.position
  have hat : (ks[n] == k) = true := beq_iff_eq.mpr hk
  rw [h.count_eq, Nat.add_sub_cancel]
  exact List.idxOfNth_countBefore_of_lt_length_of_beq hat

/-- Another key that occurs as often reaches this count later. -/
theorem lt_idxOfNth (h : FirstToReach ks n k) {l : κ} (hl : l ≠ k)
    (hcount : ks.count l = ks.count k) : n < ks.idxOfNth l (ks.count k - 1) := by
  have hlt : ks.count k - 1 < ks.count l := by
    have := h.count_eq
    omega
  have hm : ks.idxOfNth l (ks.count k - 1) < ks.length := List.idxOfNth_lt_length_of_lt_count hlt
  have hbefore := List.countBefore_idxOfNth_of_lt_count hlt
  have hat : ks[ks.idxOfNth l (ks.count k - 1)] = l := List.getElem_idxOfNth_eq
  generalize ks.idxOfNth l (ks.count k - 1) = m at hm hbefore hat
  by_contra hle
  have hne : m ≠ n := by
    rintro rfl
    have hk := h.position
    rw [List.getElem?_eq_getElem hm, hat] at hk
    exact hl (Option.some.inj hk)
  -- With its occurrence at `m` the other key would have reached the count before `n`.
  have hstep : ks.countBefore l m + 1 ≤ ks.countBefore l n := by
    calc ks.countBefore l m + 1 = ks.countBefore l (m + 1) := by
          rw [List.countBefore_eq_count_take, List.countBefore_eq_count_take,
            List.take_succ_eq_append_getElem hm, List.count_append, hat, List.count_singleton_self]
      _ ≤ ks.countBefore l n := List.countPBefore_mono (by omega)
  have hfirst := h.first l hl
  have hk := h.count_eq
  omega

end FirstToReach

end keys

/-! ### The pass -/

section pass

variable {α κ : Type} [DecidableEq κ] (key : α → κ)

theorem seenTimes_reverse (done : List α) (x : α) :
    seenTimes key done.reverse x = (done.map key).count (key x) := by
  rw [seenTimes, List.filter_reverse, List.length_reverse, ← List.countP_eq_length_filter,
    List.count, List.countP_map]
  rfl

/-- If the best value is the first to have reached the highest count of what was read, then what is
found in the end is the first one of the whole list. -/
theorem exists_modeAfter (rest done : List α) {n : Nat} {best : α} (hbest : done[n]? = some best)
    (h : FirstToReach (done.map key) n (key best)) :
    ∃ m x, (done ++ rest)[m]? = some x ∧
      modeAfter key done.reverse (some best) ((done.map key).countBefore (key best) n + 1) rest =
        some x ∧
      FirstToReach ((done ++ rest).map key) m (key x) := by
  induction rest generalizing done n best with
  | nil =>
    rw [List.append_nil]
    exact ⟨n, best, hbest, rfl, h⟩
  | cons x rest ih =>
    have hconcat : (done ++ [x]).map key = done.map key ++ [key x] := List.map_append
    have hreverse : (done ++ [x]).reverse = x :: done.reverse := List.reverse_concat
    have hrest : done ++ x :: rest = done ++ [x] ++ rest := by simp
    rw [modeAfter, seenTimes_reverse, hrest]
    simp only [Nat.add_lt_add_iff_right]
    by_cases hlt : (done.map key).countBefore (key best) n < (done.map key).count (key x)
    · have hnext := h.concat_of_lt hlt
      have hcount : (done.map key ++ [key x]).countBefore (key x) (done.map key).length =
          (done.map key).count (key x) := countBefore_length_concat (key x) (key x)
      rw [← hconcat, List.length_map] at hnext hcount
      have hfound := ih (done ++ [x]) List.getElem?_concat_length hnext
      rw [hreverse, hcount] at hfound
      rwa [if_pos hlt]
    · have hnext := h.concat_of_le (c := key x) (not_lt.mp hlt)
      have hin : n < done.length := (List.getElem?_eq_some_iff.mp hbest).1
      have hcount := countBefore_concat h.lt_length.le (key best) (key x)
      rw [← hconcat] at hnext hcount
      have hfound := ih (done ++ [x]) ((List.getElem?_append_left hin).trans hbest) hnext
      rw [hreverse, hcount] at hfound
      rwa [if_neg hlt]

/-- The mode of a list is the first value whose key reaches the highest count. -/
theorem exists_mode? {xs : List α} (hne : xs ≠ []) : ∃ n x, xs[n]? = some x ∧
    mode? key xs = some x ∧ FirstToReach (xs.map key) n (key x) := by
  obtain ⟨x, rest, rfl⟩ := List.exists_cons_of_ne_nil hne
  rw [mode?, modeAfter, if_pos (Nat.succ_pos _)]
  exact exists_modeAfter key rest [x] (n := 0) rfl (.singleton (key x))

end pass

/-! ### Counting equal numbers -/

section beq

variable {α κ : Type} [BEq α] [DecidableEq κ] {f : α → κ} {y : α} {xs : List α}

/-- Values that are equal to one are counted by their keys. -/
theorem count_map_of_beq (h : ∀ x ∈ xs, (x == y) = (f x == f y)) :
    (xs.map f).count (f y) = xs.count y := by
  rw [List.count, List.countP_map, List.count]
  exact List.countP_congr fun x hx => by simp [h x hx]

theorem idxOfNth_map_of_beq (h : ∀ x ∈ xs, (x == y) = (f x == f y)) (n : Nat) :
    (xs.map f).idxOfNth (f y) n = xs.idxOfNth y n := by
  induction xs generalizing n with
  | nil => rfl
  | cons x xs ih =>
    have hrest := ih fun x' hx' => h x' (List.mem_cons_of_mem x hx')
    rw [List.map_cons, List.idxOfNth_cons, List.idxOfNth_cons, h x List.mem_cons_self]
    simp only [hrest]

end beq

/-! ### Samples -/

/-- What numbers are counted by. -/
def numberKey (x : Float) : SampleKey :=
  match (Reading.ofFloat x).point? with
  | some p => .at p
  | none => .nowhere

theorem Sample.key_eq {s : Sample} (h : isNaN s.value = false) (i : Nat) :
    s.key i = numberKey s.value := by
  obtain ⟨p, hp, -⟩ := exists_hasPoint h
  rw [key, numberKey, hp]

/-- Numbers are equal if they are counted together. -/
theorem beq_eq_numberKey {x y : Float} (hx : isNaN x = false) (hy : isNaN y = false) :
    (x == y) = (numberKey x == numberKey y) := by
  obtain ⟨p, hp, -⟩ := exists_hasPoint hx
  obtain ⟨q, hq, -⟩ := exists_hasPoint hy
  rw [Bool.eq_iff_iff, beq_iff_point? hx hy, beq_iff_eq, numberKey, numberKey, hp, hq,
    Option.some_inj, SampleKey.at.injEq]

theorem mapIdx_key {samples : List Sample} (h : ∀ s ∈ samples, isNaN s.value = false) :
    (samples.mapIdx fun i s => s.key i) = (samples.map Sample.value).map numberKey := by
  rw [List.map_map]
  refine List.ext_getElem? fun i => ?_
  rw [List.getElem?_mapIdx, List.getElem?_map]
  cases hi : samples[i]? with
  | none => rfl
  | some s => exact congrArg some (Sample.key_eq (h s (List.mem_of_getElem? hi)) i)

/-- The mode is the value of the first sample whose key reaches the highest count. -/
theorem exists_mode {samples : List Sample} (hne : samples ≠ []) : ∃ n s, samples[n]? = some s ∧
    mode samples = .ok s.value ∧
      FirstToReach (samples.mapIdx fun i s => s.key i) n (s.key n) := by
  have hne' : samples.mapIdx (fun i s => (s.value, s.key i)) ≠ [] := by simpa using hne
  obtain ⟨n, p, hp, hmode, hfirst⟩ := exists_mode? (·.2) hne'
  rw [List.getElem?_mapIdx, Option.map_eq_some_iff] at hp
  obtain ⟨s, hs, rfl⟩ := hp
  rw [List.mapIdx_eq_zipIdx_map, List.map_map] at hfirst
  refine ⟨n, s, hs, by rw [mode, hmode], ?_⟩
  rw [List.mapIdx_eq_zipIdx_map]
  exact hfirst

/-- The mode of numbers is one of them that is equal to as many as no other. Of those that are equal
to as many, it is the one that is complete first: if `k` numbers are equal to it then it stands
itself at the place of the last of these, and the last of `k` numbers that are equal to another one
stands behind it. -/
theorem mode_complete_first {samples : List Sample} (hne : samples ≠ [])
    (hnumber : ∀ s ∈ samples, isNaN s.value = false) :
    let xs := samples.map Sample.value
    ∃ x, mode samples = .ok x ∧
      xs[xs.idxOfNth x (xs.count x - 1)]? = some x ∧
      (∀ y ∈ xs, xs.count y ≤ xs.count x) ∧
      ∀ y ∈ xs, (y == x) = false → xs.count y = xs.count x →
        xs.idxOfNth x (xs.count x - 1) < xs.idxOfNth y (xs.count x - 1) := by
  intro xs
  obtain ⟨n, s, hs, hmode, hfirst⟩ := exists_mode hne
  have hx : xs[n]? = some s.value := by rw [List.getElem?_map, hs]; rfl
  rw [mapIdx_key hnumber, Sample.key_eq (hnumber s (List.mem_of_getElem? hs))] at hfirst
  generalize s.value = x at hmode hx hfirst
  have hxs : ∀ y ∈ xs, isNaN y = false := by
    intro y hy
    obtain ⟨s, hs, rfl⟩ := List.mem_map.mp hy
    exact hnumber s hs
  have hkey : ∀ y ∈ xs, ∀ z ∈ xs, (z == y) = (numberKey z == numberKey y) :=
    fun y hy z hz => beq_eq_numberKey (hxs z hz) (hxs y hy)
  have hcount : ∀ y ∈ xs, (xs.map numberKey).count (numberKey y) = xs.count y :=
    fun y hy => count_map_of_beq (hkey y hy)
  have hplace : ∀ y ∈ xs, ∀ k, (xs.map numberKey).idxOfNth (numberKey y) k = xs.idxOfNth y k :=
    fun y hy => idxOfNth_map_of_beq (hkey y hy)
  have hmem : x ∈ xs := List.mem_of_getElem? hx
  have hn : xs.idxOfNth x (xs.count x - 1) = n := by
    rw [← hcount x hmem, ← hplace x hmem, hfirst.idxOfNth_eq]
  refine ⟨x, hmode, by rw [hn, hx], fun y hy => ?_, fun y hy hne hsame => ?_⟩
  · rw [← hcount y hy, ← hcount x hmem, hfirst.count_eq]
    exact hfirst.most _
  · have hother : numberKey y ≠ numberKey x := by
      rw [hkey x hmem y hy] at hne
      exact ne_of_beq_false hne
    rw [hn, ← hcount x hmem, ← hplace y hy]
    exact hfirst.lt_idxOfNth hother (by rw [hcount y hy, hcount x hmem, hsame])

/-- Two zeros of different signs, two ones and two threes: the zeros are complete first, so the
second of them is the mode. -/
theorem mode_of_zeros :
    let samples : List Sample := [3, 0, 1, -0.0, 1, 3].map (⟨·, false⟩)
    let xs := samples.map Sample.value
    mode samples = .ok (-0.0) ∧ xs.count (-0.0) = 2 ∧ (∀ y ∈ xs, xs.count y ≤ 2) ∧
      xs.idxOfNth (-0.0) 1 < xs.idxOfNth 1 1 ∧ xs.idxOfNth (-0.0) 1 < xs.idxOfNth 3 1 := by
  intro samples xs
  have hnumber : ∀ s ∈ samples, isNaN s.value = false := by decide +kernel
  have hmode : (mode samples).toOption = some (-0.0) := by decide +kernel
  have hcount : xs.count (-0.0) = 2 := by decide +kernel
  obtain ⟨x, hx, -, hmost, hfirst⟩ := mode_complete_first (by simp [samples]) hnumber
  obtain rfl : x = -0.0 := by simpa [hx, Except.toOption] using hmode
  rw [hcount] at hmost hfirst
  refine ⟨hx, hcount, hmost, hfirst 1 ?_ ?_ ?_, hfirst 3 ?_ ?_ ?_⟩
  · simp [samples]
  · decide +kernel
  · decide +kernel
  · simp [samples]
  · decide +kernel
  · decide +kernel

end JobSearch
