import JobSearch.Proofs.Loading.Callers

/-!
# One fetch for all callers

However the turns of loads, callers and fetches interleave, as long as no load is aborted one fetch
at a time serves all callers (`callers_share_fetch`). What is open stays open without a further
fetch until it is closed (`Sound.play_of_opened`), and a failure leaves nothing behind: the next
caller plans one load, and until that load ends it starts one fetch and no other load does
(`Sound.play_of_free`, `Sound.play_of_planned`).

## Main definitions

* `Shared` — what callers can rely on in a state of a loader, whatever happens next.
-/

namespace JobSearch.Loader

variable {α : Type} {l l' : Loader α} {m : Move α}

/-- Whether a move closes what is open. -/
def Move.closes : Move α → Bool
  | .close => true
  | _ => false

/-- Whether a move is a caller's asking for the dataset. -/
def Move.asks : Move α → Bool
  | .ask => true
  | _ => false

/-- Whether a move is the first turn of a load. -/
def Move.starts (n : Nat) : Move α → Bool
  | .start load => load == n
  | _ => false

/-- Whether a move is the end of a load. -/
def Move.finishes (n : Nat) : Move α → Bool
  | .finish load => load == n
  | _ => false

/-- A run keeps what each of its moves keeps, together with `Sound`. -/
theorem Sound.play_induction {P : Loader α → Prop} {Q : Move α → Bool}
    (hstep : ∀ l m l', l.Sound → Q m = true → m.aborts = false → Turn l m l' → P l → P l')
    (hl : l.Sound) (hp : P l) {ms : List (Move α)} (hspare : ∀ m ∈ ms, m.aborts = false)
    (hms : ∀ m ∈ ms, Q m = true) : P (l.play ms) := by
  have hboth : (l.play ms).Sound ∧ P (l.play ms) :=
    Loader.play_induction (P := fun l => l.Sound ∧ P l) (Q := fun m => !m.aborts && Q m)
      (fun l m l' hm h ⟨hl, hp⟩ => by
        obtain ⟨hm, hok⟩ := Bool.and_eq_true_iff.mp hm
        have hm : m.aborts = false := by simpa using hm
        exact ⟨hl.turn hm h, hstep l m l' hl hok hm h hp⟩)
      ⟨hl, hp⟩ fun m hm => by simp [hspare m hm, hms m hm]
  exact hboth.2

/-! ### After a success -/

/-- What is open stays open and no fetch starts, until it is closed. -/
theorem Sound.turn_of_opened (hl : l.Sound) {n : Nat} {store : α}
    (hopened : l.opened = some (n, store)) (hm : m.aborts = false) (hclose : m.closes = false)
    (h : Turn l m l') : l'.opened = some (n, store) ∧ l'.fetches = l.fetches := by
  have hpending := (hl.opened n store hopened).1
  cases h with
  | plan hnone =>
    rw [hopened] at hnone
    cases hnone
  | start hload => exact absurd trivial (hl.not_underWay hpending hload)
  | arrive a hload => exact absurd trivial (hl.not_underWay hpending hload)
  | succeed hload => exact absurd trivial (hl.not_underWay hpending hload)
  | fail hload => exact absurd trivial (hl.not_underWay hpending hload)
  | drop => cases hm
  | abort => cases hm
  | close => cases hclose
  | _ => exact ⟨hopened, rfl⟩

theorem Sound.play_of_opened (hl : l.Sound) {n : Nat} {store : α}
    (hopened : l.opened = some (n, store)) {ms : List (Move α)}
    (hms : ∀ m ∈ ms, m.aborts = false) (hclose : ∀ m ∈ ms, m.closes = false) :
    (l.play ms).opened = some (n, store) ∧ (l.play ms).fetches = l.fetches :=
  hl.play_induction (P := fun k => k.opened = some (n, store) ∧ k.fetches = l.fetches)
    (Q := fun m => !m.closes)
    (fun k m k' hk hok hm h ⟨hopened, hfetches⟩ => by
      have hnext := hk.turn_of_opened hopened hm (by simpa using hok) h
      exact ⟨hnext.1, hnext.2.trans hfetches⟩)
    ⟨hopened, rfl⟩ hms fun m hm => by simpa using hclose m hm

/-! ### After a failure -/

/-- While no load is pending and nothing is open, no fetch starts unless a caller asks. -/
theorem Sound.turn_of_free (hl : l.Sound) (hopened : l.opened = none) (hpending : l.pending = none)
    (hm : m.aborts = false) (hask : m.asks = false) (h : Turn l m l') :
    l'.opened = none ∧ l'.pending = none ∧ l'.fetches = l.fetches := by
  cases h with
  | serve => cases hask
  | join => cases hask
  | plan => cases hask
  | start hload => exact absurd trivial (hl.not_underWay hpending hload)
  | arrive a hload => exact absurd trivial (hl.not_underWay hpending hload)
  | succeed hload => exact absurd trivial (hl.not_underWay hpending hload)
  | fail hload => exact absurd trivial (hl.not_underWay hpending hload)
  | drop => cases hm
  | abort => cases hm
  | close => exact ⟨rfl, hpending, rfl⟩
  | _ => exact ⟨hopened, hpending, rfl⟩

theorem Sound.play_of_free (hl : l.Sound) (hopened : l.opened = none) (hpending : l.pending = none)
    {ms : List (Move α)} (hms : ∀ m ∈ ms, m.aborts = false) (hask : ∀ m ∈ ms, m.asks = false) :
    (l.play ms).opened = none ∧ (l.play ms).pending = none ∧ (l.play ms).fetches = l.fetches :=
  hl.play_induction
    (P := fun k => k.opened = none ∧ k.pending = none ∧ k.fetches = l.fetches)
    (Q := fun m => !m.asks)
    (fun k m k' hk hok hm h ⟨hopened, hpending, hfetches⟩ => by
      have hnext := hk.turn_of_free hopened hpending hm (by simpa using hok) h
      exact ⟨hnext.1, hnext.2.1, hnext.2.2.trans hfetches⟩)
    ⟨hopened, hpending, rfl⟩ hms fun m hm => by simpa using hask m hm

/-! ### One attempt -/

/-- The pending load has started its fetch and is not over. -/
structure Started (l : Loader α) (n : Nat) : Prop where
  pending : l.pending = some n
  load : ∃ load, l.loads[n]? = some load ∧ load.UnderWay ∧ load ≠ .planned

/-- While the pending load is under way no other load has a turn. -/
theorem Sound.eq_of_underWay (hl : l.Sound) {n i : Nat} {load : Load α}
    (hpending : l.pending = some n) (hi : l.loads[i]? = some load) (hunder : load.UnderWay) :
    i = n :=
  Option.some.inj ((hl.pending_eq hi hunder).symm.trans hpending)

/-- After the pending load has started its fetch no other starts, until the load ends. -/
theorem Sound.turn_of_started (hl : l.Sound) {n : Nat} (hn : l.Started n) (hm : m.aborts = false)
    (hfinish : m.finishes n = false) (h : Turn l m l') :
    l'.Started n ∧ l'.fetches.length = l.fetches.length := by
  obtain ⟨load, hload, hunder, hplanned⟩ := hn.load
  cases h with
  | plan _ hnone =>
    rw [hn.pending] at hnone
    cases hnone
  | start hi =>
    obtain rfl := hl.eq_of_underWay hn.pending hi trivial
    exact absurd (Option.some.inj (hload.symm.trans hi)) hplanned
  | arrive a hi =>
    obtain rfl := hl.eq_of_underWay hn.pending hi trivial
    have hset := List.getElem?_set_self (a := .fetched a) (List.getElem?_eq_some_iff.mp hi).1
    exact ⟨⟨hn.pending, _, hset, trivial, by simp⟩, List.length_set⟩
  | succeed hi =>
    obtain rfl := hl.eq_of_underWay hn.pending hi trivial
    simp [Move.finishes] at hfinish
  | fail hi =>
    obtain rfl := hl.eq_of_underWay hn.pending hi trivial
    simp [Move.finishes] at hfinish
  | drop => cases hm
  | abort => cases hm
  | _ => exact ⟨⟨hn.pending, load, hload, hunder, hplanned⟩, rfl⟩

theorem Sound.play_of_started (hl : l.Sound) {n : Nat} (hn : l.Started n) {ms : List (Move α)}
    (hms : ∀ m ∈ ms, m.aborts = false) (hfinish : ∀ m ∈ ms, m.finishes n = false) :
    (l.play ms).fetches.length = l.fetches.length :=
  (hl.play_induction (P := fun k => k.Started n ∧ k.fetches.length = l.fetches.length)
    (Q := fun m => !m.finishes n)
    (fun k m k' hk hok hm h ⟨hn, hlength⟩ => by
      have hnext := hk.turn_of_started hn hm (by simpa using hok) h
      exact ⟨hnext.1, hnext.2.trans hlength⟩)
    ⟨hn, rfl⟩ hms fun m hm => by simpa using hfinish m hm).2

/-- The pending load starts one fetch at its first turn, and until then none starts. -/
theorem Sound.turn_of_planned (hl : l.Sound) {n : Nat} (hpending : l.pending = some n)
    (hload : l.loads[n]? = some .planned) (hm : m.aborts = false) (h : Turn l m l') :
    m.starts n = true ∧ l'.Started n ∧ l'.fetches.length = l.fetches.length + 1 ∨
      m.starts n = false ∧ l'.pending = some n ∧ l'.loads[n]? = some .planned ∧
        l'.fetches = l.fetches := by
  cases h with
  | plan _ hnone =>
    rw [hpending] at hnone
    cases hnone
  | start hi =>
    obtain rfl := hl.eq_of_underWay hpending hi trivial
    have hset := List.getElem?_set_self (a := Load.fetching (α := α) l.fetches.length)
      (List.getElem?_eq_some_iff.mp hi).1
    exact Or.inl ⟨by simp [Move.starts], ⟨hpending, _, hset, trivial, by simp⟩, by simp⟩
  | arrive a hi =>
    obtain rfl := hl.eq_of_underWay hpending hi trivial
    cases hload.symm.trans hi
  | succeed hi =>
    obtain rfl := hl.eq_of_underWay hpending hi trivial
    cases hload.symm.trans hi
  | fail hi =>
    obtain rfl := hl.eq_of_underWay hpending hi trivial
    cases hload.symm.trans hi
  | drop => cases hm
  | abort => cases hm
  | @idle m hblocked =>
    have hstarts : m.starts n = false := by
      by_contra hstarts
      cases m with
      | start i =>
        obtain rfl : i = n := by simpa [Move.starts] using hstarts
        exact hblocked hload
      | _ => exact hstarts rfl
    exact Or.inr ⟨hstarts, hpending, hload, rfl⟩
  | _ => exact Or.inr ⟨rfl, hpending, hload, rfl⟩

/-- Until the pending load ends, it starts one fetch if it has its first turn, and no other load
starts any. -/
theorem Sound.play_of_planned (hl : l.Sound) {n : Nat} (hpending : l.pending = some n)
    (hload : l.loads[n]? = some .planned) {ms : List (Move α)} (hms : ∀ m ∈ ms, m.aborts = false)
    (hfinish : ∀ m ∈ ms, m.finishes n = false) :
    (l.play ms).fetches.length = l.fetches.length + (ms.any (Move.starts n)).toNat := by
  induction ms generalizing l with
  | nil => rfl
  | cons m ms ih =>
    have hm := hms m (by simp)
    have hrest : ∀ m' ∈ ms, m'.aborts = false := fun m' hm' => hms m' (by simp [hm'])
    have hrest' : ∀ m' ∈ ms, m'.finishes n = false := fun m' hm' => hfinish m' (by simp [hm'])
    have hnext := hl.turn hm (l.turn_move m)
    rw [play_cons, List.any_cons]
    rcases hl.turn_of_planned hpending hload hm (l.turn_move m) with
      ⟨hstarts, hstarted, hlength⟩ | ⟨hstarts, hpending, hload, hfetches⟩
    · rw [hnext.play_of_started hstarted hrest hrest', hlength, hstarts]
      rfl
    · rw [ih hnext hpending hload hrest hrest', hfetches, hstarts, Bool.false_or]

/-- The caller that asks when nothing is open and no load is pending plans a load. -/
theorem ask_of_free (hopened : l.opened = none) (hpending : l.pending = none) :
    l.ask.pending = some l.loads.length ∧ l.ask.loads[l.loads.length]? = some .planned ∧
      l.ask.attempts = l.attempts := by
  rw [ask, hopened, hpending]
  exact ⟨rfl, List.getElem?_concat_length, rfl⟩

theorem finish_of_ok {n : Nat} {a : Arrival α} {store : α}
    (hload : l.loads[n]? = some (.fetched a)) (houtcome : a.outcome = .ok store) :
    (l.finish n).opened = some (n, store) ∧ (l.finish n).fetches = l.fetches := by
  rw [finish, hload]
  simp only [houtcome, and_self]

theorem finish_of_error {n : Nat} {a : Arrival α} {failure : LoadFailure}
    (hload : l.loads[n]? = some (.fetched a)) (houtcome : a.outcome = .error failure) :
    (l.finish n).opened = l.opened ∧ (l.finish n).pending = none ∧
      (l.finish n).fetches = l.fetches := by
  rw [finish, hload]
  simp only [houtcome, and_self]

/-! ### Callers of one load -/

/-- A caller of a load waits while the load is pending, and hears its outcome afterwards. -/
theorem Sound.joined (hl : l.Sound) (hi : l.Informed) {i n : Nat} {c : Caller α}
    (hc : l.callers[i]? = some c) (hjoined : c.load? = some n) :
    (l.pending = some n ∧ c = .waiting n) ∨
      ∃ outcome, l.loads[n]? = some (.ended outcome) ∧ (c = .waiting n ∨ c = .told n outcome) ∧
        (l.tell i).callers[i]? = some (.told n outcome) := by
  rcases hi c (List.mem_of_getElem? hc) n hjoined with ⟨hwaiting, hlt⟩ | ⟨outcome, hended, htold⟩
  · by_cases hpending : l.pending = some n
    · exact Or.inl ⟨hpending, hwaiting⟩
    · have hload := List.getElem?_eq_getElem hlt
      obtain ⟨outcome, hended⟩ := hl.ended n _ hload hpending
      rw [hended] at hload
      exact Or.inr ⟨outcome, hload, Or.inl hwaiting, hi.tell hc hjoined hload⟩
  · exact Or.inr ⟨outcome, hended, Or.inr htold, hi.tell hc hjoined hended⟩

/-! ### All together -/

/-- What callers can rely on in a state of a loader, whatever happens next. -/
structure Shared (l : Loader α) : Prop where
  /-- At most one fetch is in flight. -/
  inFlight : l.inFlight ≤ 1
  /-- The attempts are the fetches that were started. -/
  attempts : l.attempts = l.fetches.length
  /-- A caller that joined a load and was not cancelled waits while the load is pending. Once the
  load has ended, the caller hears its outcome at its next turn, if it has not heard it before, and
  keeps it for good. -/
  joined : ∀ (i : Nat) (c : Caller α) (n : Nat), l.callers[i]? = some c → c.load? = some n →
    (l.pending = some n ∧ c = .waiting n) ∨
      ∃ outcome, l.loads[n]? = some (.ended outcome) ∧ (c = .waiting n ∨ c = .told n outcome) ∧
        ∀ ms, ((l.tell i).play ms).callers[i]? = some (.told n outcome)
  /-- A load that has ended keeps its outcome. -/
  ended : ∀ (n : Nat) outcome, l.loads[n]? = some (.ended outcome) →
    ∀ ms, (l.play ms).loads[n]? = some (.ended outcome)
  /-- A caller that is cancelled changes nothing and no one else. -/
  cancelled : ∀ i ms, ∃ callers, (l.cancel i).play ms = { l.play ms with callers } ∧
    ∀ j, j ≠ i → callers[j]? = (l.play ms).callers[j]?
  /-- What a load has opened stays open without a further fetch, until it is closed. -/
  success : ∀ (n : Nat) a store, l.loads[n]? = some (.fetched a) → a.outcome = .ok store →
    ∀ ms, (∀ m ∈ ms, m.aborts = false ∧ m.closes = false) →
      ((l.finish n).play ms).opened = some (n, store) ∧
        ((l.finish n).play ms).fetches = l.fetches
  /-- After a failure nothing is open, no load is pending and no fetch starts, until a caller asks.
  Then one load is planned, and until it ends it starts one fetch and no other load any. -/
  failure : ∀ (n : Nat) a failure, l.loads[n]? = some (.fetched a) → a.outcome = .error failure →
    ∀ ms, (∀ m ∈ ms, m.aborts = false ∧ m.asks = false) →
      let failed := (l.finish n).play ms
      failed.loaded = false ∧ failed.pending = none ∧ failed.fetches = l.fetches ∧
        ∀ rest, (∀ m ∈ rest, m.aborts = false ∧ m.finishes failed.loads.length = false) →
          (failed.ask.play rest).attempts =
            failed.attempts + (rest.any (Move.starts failed.loads.length)).toNat

/-- However loads, callers and fetches take turns, if no load is aborted all callers share one
fetch at a time. -/
theorem callers_share_fetch (before : List (Move α)) (hbefore : ∀ m ∈ before, m.aborts = false) :
    Shared (initial.play before) := by
  have hl : (initial.play before).Sound := sound_play sound_initial hbefore
  have hi : (initial.play before).Informed := informed_play sound_initial informed_initial hbefore
  generalize initial.play before = l at hl hi
  have hfinished : ∀ n, (l.finish n).Sound := fun n => hl.turn rfl (l.turn_move (.finish n))
  refine ⟨hl.inFlight_le_one, hl.attempts, fun i c n hc hjoined => ?joined,
    fun n outcome hn ms => ended_play hn ms, fun i ms => l.play_cancel i ms,
    fun n a store hload houtcome ms hms => ?success,
    fun n a failure hload houtcome ms hms => ?failure⟩
  case joined =>
    rcases hl.joined hi hc hjoined with hwaiting | ⟨outcome, hended, hheard, htold⟩
    · exact Or.inl hwaiting
    · exact Or.inr ⟨outcome, hended, hheard, fun ms => told_play htold ms⟩
  case success =>
    obtain ⟨hopened, hfetches⟩ := finish_of_ok hload houtcome
    have hplay := (hfinished n).play_of_opened hopened (fun m hm => (hms m hm).1)
      fun m hm => (hms m hm).2
    exact ⟨hplay.1, hplay.2.trans hfetches⟩
  case failure =>
    obtain ⟨hopened, hpending, hfetches⟩ := finish_of_error hload houtcome
    rw [hl.opened_eq_none (hl.pending_eq hload trivial)] at hopened
    have hspare : ∀ m ∈ ms, m.aborts = false := fun m hm => (hms m hm).1
    have hplay := (hfinished n).play_of_free hopened hpending hspare fun m hm => (hms m hm).2
    have hfailed := sound_play (hfinished n) hspare
    generalize (l.finish n).play ms = failed at hplay hfailed
    obtain ⟨hopened, hpending, hplay⟩ := hplay
    refine ⟨by simp [loaded, hopened], hpending, hplay.trans hfetches, fun rest hrest => ?_⟩
    -- The caller plans a load, and all that follows is an attempt of this load.
    obtain ⟨hplanned, hload, hattempts⟩ := ask_of_free hopened hpending
    have hasked : failed.ask.Sound := hfailed.turn rfl (failed.turn_move .ask)
    have hspare : ∀ m ∈ rest, m.aborts = false := fun m hm => (hrest m hm).1
    rw [(sound_play hasked hspare).attempts, ← hattempts, hasked.attempts]
    exact hasked.play_of_planned hplanned hload hspare fun m hm => (hrest m hm).2

/-- Two callers share a load, one of them is cancelled and the load fails. The next caller plans
another load, the fetch of which has ended. -/
def retried : List (Move Nat) :=
  [.ask, .ask, .start 0, .cancel 0, .arrive 0 (.crashed "refused"), .ask, .finish 0, .tell 1, .ask,
    .start 1, .arrive 1 (.opened 7)]

theorem callers_share_fetch_retried :
    (∀ m ∈ retried, m.aborts = false) ∧ Shared (initial.play retried) ∧
      (initial.play retried).callers =
        [.cancelled, .failed 0 (.broken "refused"), .waiting 0, .waiting 1] ∧
      (initial.play retried).fetches = [.ended, .ended] := by
  have hspare : ∀ m ∈ retried, m.aborts = false := by
    intro m hm
    simp only [retried, List.mem_cons, List.not_mem_nil, or_false] at hm
    rcases hm with rfl | rfl | rfl | rfl | rfl | rfl | rfl | rfl | rfl | rfl | rfl <;> rfl
  exact ⟨hspare, callers_share_fetch retried hspare, rfl, rfl⟩

end JobSearch.Loader
