import JobSearch.Proofs.Loading.Turns

/-!
# The pending load

While no load is aborted, the pending load is the one load that is under way, a dataset is open
only while no load is pending, and a fetch is in flight only while the pending load waits for it
(`Sound`). Each turn keeps this (`Sound.turn`), so it holds after every run (`sound_play`), and at
most one fetch is ever in flight (`Sound.inFlight_le_one`).

## Main definitions

* `Sound` — the pending load, what is open and the fetches agree.
-/

namespace JobSearch

/-- The load has begun and is not over. -/
def Load.UnderWay {α : Type} : Load α → Prop
  | planned | fetching _ | fetched _ => True
  | ended _ | aborted => False

/-- What stands in one place only occurs once. -/
theorem count_le_one {β : Type} [DecidableEq β] {b : β} {xs : List β}
    (h : ∀ i j : Nat, xs[i]? = some b → xs[j]? = some b → i = j) : xs.count b ≤ 1 := by
  induction xs with
  | nil => simp
  | cons x xs ih =>
    by_cases hx : x = b
    · subst hx
      have habsent : x ∉ xs := by
        intro hmem
        obtain ⟨i, hi⟩ := List.mem_iff_getElem?.mp hmem
        have hzero := h 0 (i + 1) rfl hi
        omega
      simp [List.count_eq_zero.mpr habsent]
    · rw [List.count_cons_of_ne hx]
      exact ih fun i j hi hj => Nat.succ.inj (h (i + 1) (j + 1) hi hj)

namespace Loader

variable {α : Type} {l l' : Loader α} {m : Move α}

/-- Whether a move aborts a load. -/
def Move.aborts : Move α → Bool
  | .abort _ => true
  | _ => false

/-- The pending load and how far it has come. -/
def current (l : Loader α) : Option (Load α) := l.pending.bind fun n => l.loads[n]?

theorem current_eq {n : Nat} (hpending : l.pending = some n) : l.current = l.loads[n]? := by
  rw [current, hpending]
  rfl

/-- The pending load, what is open and the fetches agree, and no load was aborted. -/
structure Sound (l : Loader α) : Prop where
  /-- Every attempt has started a fetch. -/
  attempts : l.attempts = l.fetches.length
  /-- The pending load is under way. -/
  underWay : ∀ n, l.pending = some n → ∃ load, l.loads[n]? = some load ∧ load.UnderWay
  /-- All other loads have ended. -/
  ended : ∀ n load, l.loads[n]? = some load → l.pending ≠ some n → ∃ outcome, load = .ended outcome
  /-- What is open was opened by a load, and none is pending. -/
  opened : ∀ n store, l.opened = some (n, store) →
    l.pending = none ∧ l.loads[n]? = some (.ended (.ok store))
  /-- A fetch is in flight if the pending load waits for it. -/
  inFlight : ∀ k, l.fetches[k]? = some .inFlight ↔ l.current = some (.fetching k)

theorem sound_initial : Sound (initial : Loader α) where
  attempts := rfl
  underWay _ h := by cases h
  ended _ _ h := by simp [initial] at h
  opened _ _ h := by cases h
  inFlight _ := by simp [initial, current]

namespace Sound

/-- A load that is under way is the pending one. -/
theorem pending_eq (hl : l.Sound) {n : Nat} {load : Load α} (hload : l.loads[n]? = some load)
    (hunder : load.UnderWay) : l.pending = some n := by
  by_contra hpending
  obtain ⟨outcome, rfl⟩ := hl.ended n load hload hpending
  exact hunder

/-- While no load is pending none is under way. -/
theorem not_underWay (hl : l.Sound) (hpending : l.pending = none) {n : Nat} {load : Load α}
    (hload : l.loads[n]? = some load) : ¬load.UnderWay := by
  intro hunder
  rw [hl.pending_eq hload hunder] at hpending
  cases hpending

/-- Nothing is open while a load is pending. -/
theorem opened_eq_none (hl : l.Sound) {n : Nat} (hpending : l.pending = some n) :
    l.opened = none := by
  cases hopened : l.opened with
  | none => rfl
  | some open? =>
    obtain ⟨hnone, -⟩ := hl.opened open?.1 open?.2 hopened
    rw [hpending] at hnone
    cases hnone

/-- No fetch is in flight unless the pending load waits for one. -/
theorem not_inFlight (hl : l.Sound) {n : Nat} {load : Load α} (hload : l.loads[n]? = some load)
    (hunder : load.UnderWay) {k : Nat} (hk : load ≠ .fetching k) :
    l.fetches[k]? ≠ some .inFlight := by
  intro h
  rw [hl.inFlight, current_eq (hl.pending_eq hload hunder), hload] at h
  exact hk (Option.some.inj h)

/-- A load is planned. -/
theorem plan (hl : l.Sound) (hopened : l.opened = none) (hpending : l.pending = none)
    (callers : List (Caller α)) :
    Sound { l with pending := some l.loads.length, loads := l.loads ++ [.planned], callers } where
  attempts := hl.attempts
  underWay n hn := by
    obtain rfl := Option.some.inj hn
    exact ⟨.planned, by simp, trivial⟩
  ended n load hload hn := by
    have hlt : n < l.loads.length := by
      have hne : n ≠ l.loads.length := fun he => hn (congrArg some he.symm)
      have hle := (List.getElem?_eq_some_iff.mp hload).1
      simp only [List.length_append, List.length_singleton] at hle
      omega
    rw [List.getElem?_append_left hlt] at hload
    exact hl.ended n load hload (by simp [hpending])
  opened n store h := by
    rw [show l.opened = some (n, store) from h] at hopened
    cases hopened
  inFlight k := by
    rw [hl.inFlight k, current, hpending]
    simp [current]

/-- The load that is under way comes further and is still under way. -/
theorem progress (hl : l.Sound) {n : Nat} {load : Load α} (next : Load α)
    (hload : l.loads[n]? = some load) (hunder : load.UnderWay) (hnext : next.UnderWay) {attempts : Nat} {fetches : List Fetch}
    (hattempts : attempts = fetches.length)
    (hfetches : ∀ k, fetches[k]? = some .inFlight ↔ next = .fetching k) :
    Sound { l with attempts, loads := l.loads.set n next, fetches } := by
  have hpending := hl.pending_eq hload hunder
  have hset : (l.loads.set n next)[n]? = some next :=
    List.getElem?_set_self (List.getElem?_eq_some_iff.mp hload).1
  refine ⟨hattempts, fun i hi => ?_, fun i other hi hne => ?_, fun i store hi => ?_, fun k => ?_⟩
  · obtain rfl := Option.some.inj (hpending.symm.trans hi)
    exact ⟨next, hset, hnext⟩
  · have hni : n ≠ i := fun he => hne (hpending.trans (congrArg some he))
    exact hl.ended i other ((List.getElem?_set_ne hni).symm.trans hi) hne
  · have hnone := hl.opened_eq_none hpending
    rw [show l.opened = some (i, store) from hi] at hnone
    cases hnone
  · have hcurrent : current { l with attempts, loads := l.loads.set n next, fetches } = some next :=
      (current_eq (by exact hpending)).trans hset
    rw [hfetches, hcurrent, Option.some.injEq]

/-- The load that is under way ends. -/
theorem finish (hl : l.Sound) {n : Nat} {a : Arrival α} (hload : l.loads[n]? = some (.fetched a))
    {outcome : Except LoadFailure α} {opened : Option (Nat × α)}
    (hopened : ∀ i store, opened = some (i, store) → i = n ∧ outcome = .ok store) :
    Sound { l with opened, pending := none, loads := l.loads.set n (.ended outcome) } := by
  have hpending := hl.pending_eq hload trivial
  have hset : (l.loads.set n (.ended outcome))[n]? = some (.ended outcome) :=
    List.getElem?_set_self (List.getElem?_eq_some_iff.mp hload).1
  refine ⟨hl.attempts, fun i hi => (by cases hi), fun i other hi _ => ?_, fun i store hi => ?_,
    fun k => ?_⟩
  · by_cases hni : n = i
    · subst hni
      exact ⟨outcome, Option.some.inj (hi.symm.trans hset)⟩
    · refine hl.ended i other ((List.getElem?_set_ne hni).symm.trans hi) fun h => hni ?_
      exact Option.some.inj (hpending.symm.trans h)
  · obtain ⟨rfl, rfl⟩ := hopened i store hi
    exact ⟨rfl, hset⟩
  · simp only [hl.not_inFlight hload trivial (k := k) (by simp), current, false_iff]
    exact Option.some_ne_none _ ∘ Eq.symm

/-- Only the callers change. -/
theorem withCallers (hl : l.Sound) (callers : List (Caller α)) : Sound { l with callers } :=
  ⟨hl.attempts, hl.underWay, hl.ended, hl.opened, hl.inFlight⟩

theorem close (hl : l.Sound) : Sound { l with opened := none } :=
  ⟨hl.attempts, hl.underWay, hl.ended, fun _ _ h => (by cases h), hl.inFlight⟩

/-- A turn that does not abort a load keeps the pending load and the fetches together. -/
theorem turn (hl : l.Sound) (hm : m.aborts = false) (h : Turn l m l') : l'.Sound := by
  cases h with
  | serve => exact hl.withCallers _
  | join => exact hl.withCallers _
  | plan hopened hpending => exact hl.plan hopened hpending _
  | start hload =>
    refine hl.progress (.fetching l.fetches.length) hload trivial trivial
      (by simp [hl.attempts]) fun k => ?_
    have hnone := hl.not_inFlight hload trivial (k := k) (by simp)
    rw [Load.fetching.injEq]
    rcases Nat.lt_trichotomy k l.fetches.length with hk | rfl | hk
    · rw [List.getElem?_append_left hk]
      exact iff_of_false hnone (by omega)
    · simp
    · rw [List.getElem?_eq_none (by rw [List.length_append, List.length_singleton]; omega)]
      exact iff_of_false (by simp) (by omega)
  | @arrive n fetch a hload =>
    refine hl.progress (.fetched a) hload trivial trivial (by simp [hl.attempts])
      fun k => iff_of_false ?_ (by simp)
    by_cases hk : fetch = k
    · subst hk
      rw [List.getElem?_set_self']
      cases l.fetches[fetch]? <;> simp
    · rw [List.getElem?_set_ne hk]
      exact hl.not_inFlight hload trivial (by simpa using hk)
  | succeed hload houtcome =>
    exact hl.finish hload fun i store h => by
      obtain ⟨rfl, rfl⟩ := Prod.mk.inj (Option.some.inj h)
      exact ⟨rfl, rfl⟩
  | fail hload houtcome =>
    have hnone := hl.opened_eq_none (hl.pending_eq hload trivial)
    exact hl.finish hload fun i store h => by
      rw [hnone] at h
      cases h
  | tell => exact hl.withCallers _
  | cancel => exact hl.withCallers _
  | drop => cases hm
  | abort => cases hm
  | close => exact hl.close
  | idle => exact hl

/-- At most one fetch is in flight. -/
theorem inFlight_le_one (hl : l.Sound) : l.inFlight ≤ 1 := by
  refine count_le_one fun i j hi hj => ?_
  rw [hl.inFlight] at hi hj
  rw [hi] at hj
  simpa using hj

end Sound

/-- After a run in which no load is aborted the pending load and the fetches agree. -/
theorem sound_play {ms : List (Move α)} (hl : l.Sound) (hms : ∀ m ∈ ms, m.aborts = false) :
    (l.play ms).Sound :=
  play_induction (Q := fun m => !m.aborts) (fun l m l' hm h hl => hl.turn (by simpa using hm) h) hl
    fun m hm => by simpa using hms m hm

/-! ### Events -/

/-- Whether an event aborts a load. -/
def Event.aborts : Event α → Bool
  | .abort => true
  | _ => false

/-- Events that abort no load are moves that abort none. -/
theorem exists_play_eq_run (l : Loader α) {es : List (Event α)} (hes : ∀ e ∈ es, e.aborts = false) :
    ∃ ms, (∀ m ∈ ms, m.aborts = false) ∧ l.run es = l.play ms := by
  induction es generalizing l with
  | nil => exact ⟨[], by simp, rfl⟩
  | cons e es ih =>
    have he := hes e (by simp)
    obtain ⟨ms, hms, hrun⟩ := ih (l.step e) fun e' he' => hes e' (by simp [he'])
    refine ⟨l.moves e ++ ms, fun m hm => ?_, hrun.trans (play_append _ _ _).symm⟩
    rcases List.mem_append.mp hm with hm | hm
    · cases e with
      | load => rcases (by simpa [moves] using hm) with rfl | rfl <;> rfl
      | arrive a =>
        rw [moves] at hm
        split at hm
        · rcases (by simpa [tellAll] using hm) with rfl | rfl | ⟨i, -, rfl⟩ <;> rfl
        · cases hm
      | cancel i => rw [List.mem_singleton.mp hm]; rfl
      | abort => cases he
      | close => rw [List.mem_singleton.mp hm]; rfl
    · exact hms m hm

end Loader

end JobSearch
