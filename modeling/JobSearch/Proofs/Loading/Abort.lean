import JobSearch.Proofs.Loading.Callers

/-!
# Loads that are over

A load that has ended, in success or failure, is pending no more. No later caller hears how it
ended: a caller gets what is open, waits for a load that is under way, or plans one (`Past`). A load
that was aborted remains the pending one, and nothing ever takes it away. No load starts any more,
and every later caller is cancelled (`Stuck.play`). After every run one or the other holds of all
loads that are over (`sound_or_stuck`, `only_aborted_stays_pending`).

## Main definitions

* `Stuck` — a load was aborted.
* `Past` — what later callers hear of a load that has ended.
* `Responsive` — what a caller gets.
* `Guarded` — what becomes of the loads that are over.
-/

namespace JobSearch

/-- What stands in a list with one more element at its end. -/
theorem getElem?_concat_cases {β : Type} {xs : List β} {x y : β} {i : Nat}
    (h : (xs ++ [x])[i]? = some y) : xs[i]? = some y ∨ y = x := by
  rcases Nat.lt_or_ge i xs.length with hlt | hle
  · exact Or.inl ((List.getElem?_append_left hlt).symm.trans h)
  · rw [List.getElem?_append_right hle] at h
    exact Or.inr (List.mem_singleton.mp (List.mem_of_getElem? h))

/-- What a caller hears is about the load that it joined. -/
theorem Loader.load?_hear {α : Type} (l : Loader α) {c : Caller α} {n : Nat}
    (h : (l.hear c).load? = some n) : c.load? = some n := by
  cases c with
  | waiting load =>
    rw [Loader.hear] at h
    split at h
    · rwa [Caller.load?_told] at h
    · cases h
    · exact h
  | _ => exact h

theorem Caller.load?_cancel {α : Type} {c : Caller α} {n : Nat} (h : c.cancel.load? = some n) :
    c.load? = some n := by
  cases c with
  | waiting load => cases h
  | _ => exact h

namespace Loader

variable {α : Type} {l k k' : Loader α} {m : Move α} {n : Nat}

/-! ### After an abort -/

/-- A load was aborted. It is the pending one, all other loads have ended and nothing is open. -/
structure Stuck (l : Loader α) (n : Nat) : Prop where
  pending : l.pending = some n
  aborted : l.loads[n]? = some .aborted
  ended : ∀ i load, l.loads[i]? = some load → i ≠ n → ∃ outcome, load = .ended outcome
  opened : l.opened = none

/-- The load under way is aborted. -/
theorem Sound.stuck (hl : l.Sound) {load : Load α} (hload : l.loads[n]? = some load)
    (hunder : load.UnderWay) (fetches : List Fetch) :
    Stuck { l with loads := l.loads.set n .aborted, fetches } n := by
  have hpending := hl.pending_eq hload hunder
  refine ⟨hpending, List.getElem?_set_self (List.getElem?_eq_some_iff.mp hload).1,
    fun i other hi hne => ?_, hl.opened_eq_none hpending⟩
  refine hl.ended i other ((List.getElem?_set_ne hne.symm).symm.trans hi) fun h => hne ?_
  exact Option.some.inj (h.symm.trans hpending)

namespace Stuck

theorem not_underWay (hl : l.Stuck n) {i : Nat} {load : Load α} (hi : l.loads[i]? = some load) :
    ¬load.UnderWay := by
  by_cases hne : i = n
  · subst hne
    obtain rfl := Option.some.inj (hl.aborted.symm.trans hi)
    exact id
  · obtain ⟨outcome, rfl⟩ := hl.ended i load hi hne
    exact id

theorem hear (hl : l.Stuck n) : l.hear (.waiting n) = .cancelled := by
  simp only [Loader.hear, hl.aborted]

end Stuck

/-- Nothing but the callers is different, and those who came since are cancelled. -/
structure Frozen (l k : Loader α) : Prop where
  same : ∃ callers, k = { l with callers }
  cancelled : ∀ i c, l.callers.length ≤ i → k.callers[i]? = some c → c = .cancelled

theorem Frozen.refl (l : Loader α) : l.Frozen l := by
  refine ⟨⟨l.callers, rfl⟩, fun i c hi hc => ?_⟩
  rw [List.getElem?_eq_none hi] at hc
  cases hc

/-- What is cancelled stays so when one caller has its turn. -/
theorem cancelled_modify {cs : List (Caller α)} {first : Nat}
    (hcs : ∀ i c, first ≤ i → cs[i]? = some c → c = .cancelled) {f : Caller α → Caller α}
    (hf : f .cancelled = .cancelled) (caller : Nat) :
    ∀ i c, first ≤ i → (cs.modify caller f)[i]? = some c → c = .cancelled := by
  intro i c hi hc
  rw [List.getElem?_modify] at hc
  obtain ⟨d, hd, rfl⟩ := Option.map_eq_some_iff.mp hc
  obtain rfl := hcs i d hi hd
  split
  · exact hf
  · rfl

/-- After an abort a turn changes nothing but the callers. -/
theorem Stuck.turn (hl : l.Stuck n) (hk : l.Frozen k) (h : Turn k m k') : l.Frozen k' := by
  obtain ⟨⟨callers, rfl⟩, hcancelled⟩ := hk
  have hstuck : Stuck { l with callers } n := ⟨hl.pending, hl.aborted, hl.ended, hl.opened⟩
  cases h with
  | serve hopened => cases hl.opened.symm.trans hopened
  | @join load _ hpending =>
    obtain rfl : n = load := Option.some.inj (hl.pending.symm.trans hpending)
    refine ⟨⟨_, rfl⟩, fun i c hi hc => ?_⟩
    rw [hstuck.hear] at hc
    exact (getElem?_concat_cases hc).elim (hcancelled i c hi) id
  | plan _ hpending => cases hl.pending.symm.trans hpending
  | start hload => exact absurd trivial (hl.not_underWay hload)
  | arrive a hload => exact absurd trivial (hl.not_underWay hload)
  | succeed hload => exact absurd trivial (hl.not_underWay hload)
  | fail hload => exact absurd trivial (hl.not_underWay hload)
  | tell caller => exact ⟨⟨_, rfl⟩, cancelled_modify hcancelled rfl caller⟩
  | cancel caller => exact ⟨⟨_, rfl⟩, cancelled_modify hcancelled rfl caller⟩
  | drop hload hbefore =>
    refine absurd ?_ (hl.not_underWay hload)
    rcases hbefore with rfl | ⟨a, rfl⟩ <;> trivial
  | abort hload => exact absurd trivial (hl.not_underWay hload)
  | close => exact ⟨⟨callers, by rw [← hl.opened]⟩, hcancelled⟩
  | idle => exact ⟨⟨callers, rfl⟩, hcancelled⟩

/-- After an abort nothing but the callers ever changes. -/
theorem Stuck.play (hl : l.Stuck n) (ms : List (Move α)) : l.Frozen (l.play ms) :=
  play_induction (P := l.Frozen) (Q := fun _ => true) (fun _ _ _ _ h hk => hl.turn hk h) (.refl l)
    fun _ _ => rfl

/-- A turn leaves the pending load and the fetches together, or it aborts a load. -/
theorem Sound.turn_or_stuck (hl : l.Sound) (h : Turn l m k) : k.Sound ∨ ∃ n, k.Stuck n := by
  cases hm : m.aborts with
  | false => exact Or.inl (hl.turn hm h)
  | true =>
    cases h with
    | drop hload hbefore =>
      refine Or.inr ⟨_, hl.stuck hload ?_ l.fetches⟩
      rcases hbefore with rfl | ⟨a, rfl⟩ <;> trivial
    | abort hload => exact Or.inr ⟨_, hl.stuck hload trivial _⟩
    | idle => exact Or.inl hl
    | _ => cases hm

theorem Frozen.stuck (hl : l.Stuck n) (hk : l.Frozen k) : k.Stuck n := by
  obtain ⟨callers, rfl⟩ := hk.same
  exact ⟨hl.pending, hl.aborted, hl.ended, hl.opened⟩

/-- After every run the pending load and the fetches agree, or a load was aborted. -/
theorem sound_or_stuck (ms : List (Move α)) :
    (initial.play ms).Sound ∨ ∃ n, (initial.play ms).Stuck n := by
  refine play_induction (P := fun l => l.Sound ∨ ∃ n, l.Stuck n) (Q := fun _ => true)
    (fun l m l' _ h hl => ?_) (Or.inl sound_initial) fun _ _ => rfl
  rcases hl with hl | ⟨n, hl⟩
  · exact hl.turn_or_stuck h
  · exact Or.inr ⟨n, (hl.turn (.refl l) h).stuck hl⟩

/-! ### After the end of a load -/

/-- A load has ended and is not the pending one. Of the callers that came since, all of which
stand behind the first ones, those who heard of it got what it has opened. -/
structure Past (n first : Nat) (kept : Option (Nat × α)) (l : Loader α) : Prop where
  ended : ∃ outcome, l.loads[n]? = some (.ended outcome)
  pending : l.pending ≠ some n
  opened : ∀ store, l.opened = some (n, store) → kept = some (n, store)
  heard : ∀ i c, first ≤ i → l.callers[i]? = some c → c.load? = some n →
    ∃ store, c = .served n store ∧ kept = some (n, store)

namespace Past

variable {first : Nat} {kept : Option (Nat × α)}

/-- One more caller has heard nothing of the load, or it got what is open. -/
theorem heard_concat (hl : l.Past n first kept) {d : Caller α}
    (hd : d.load? = some n → ∃ store, d = .served n store ∧ kept = some (n, store)) :
    ∀ i c, first ≤ i → (l.callers ++ [d])[i]? = some c → c.load? = some n →
      ∃ store, c = .served n store ∧ kept = some (n, store) := by
  intro i c hi hc
  rcases getElem?_concat_cases hc with hc | rfl
  · exact hl.heard i c hi hc
  · exact hd

/-- A caller who has its turn hears nothing new of the load. -/
theorem heard_modify (hl : l.Past n first kept) {f : Caller α → Caller α}
    (hload : ∀ c, (f c).load? = some n → c.load? = some n)
    (hserved : ∀ store, f (.served n store) = .served n store) (caller : Nat) :
    ∀ i c, first ≤ i → (l.callers.modify caller f)[i]? = some c → c.load? = some n →
      ∃ store, c = .served n store ∧ kept = some (n, store) := by
  intro i c hi hc hjoined
  rw [List.getElem?_modify] at hc
  obtain ⟨d, hd, rfl⟩ := Option.map_eq_some_iff.mp hc
  split at hjoined
  · next heq =>
    obtain ⟨store, rfl, hkept⟩ := hl.heard i d hi hd (hload d hjoined)
    exact ⟨store, by rw [if_pos heq, hserved], hkept⟩
  · next hne =>
    rw [if_neg hne]
    exact hl.heard i d hi hd hjoined

/-- A load that is not over is another one. -/
theorem ne_of_underWay (hl : l.Past n first kept) {i : Nat} {load : Load α}
    (hi : l.loads[i]? = some load) (hunder : load.UnderWay) : i ≠ n := by
  rintro rfl
  obtain ⟨outcome, hended⟩ := hl.ended
  obtain rfl := Option.some.inj (hended.symm.trans hi)
  exact hunder

theorem turn (hl : l.Past n first kept) (h : Turn l m k) : k.Past n first kept := by
  obtain ⟨outcome, hended⟩ := hl.ended
  have hended' : ∃ outcome, k.loads[n]? = some (.ended outcome) := ⟨outcome, h.ended hended⟩
  cases h with
  | serve hopened =>
    refine ⟨hended', hl.pending, hl.opened, hl.heard_concat fun hload => ?_⟩
    obtain rfl := Option.some.inj hload
    exact ⟨_, rfl, hl.opened _ hopened⟩
  | join _ hpending =>
    refine ⟨hended', hl.pending, hl.opened, hl.heard_concat fun hload => ?_⟩
    exact absurd (hpending.trans (l.load?_hear hload)) hl.pending
  | plan =>
    have hne : l.loads.length ≠ n := Nat.ne_of_gt (List.getElem?_eq_some_iff.mp hended).1
    refine ⟨hended', fun h => hne (Option.some.inj h), hl.opened, hl.heard_concat fun hload => ?_⟩
    exact absurd (Option.some.inj hload) hne
  | start => exact ⟨hended', hl.pending, hl.opened, hl.heard⟩
  | arrive => exact ⟨hended', hl.pending, hl.opened, hl.heard⟩
  | succeed hload =>
    have hne := hl.ne_of_underWay hload trivial
    exact ⟨hended', nofun, fun store h => absurd (Prod.mk.inj (Option.some.inj h)).1 hne, hl.heard⟩
  | fail => exact ⟨hended', nofun, hl.opened, hl.heard⟩
  | tell caller =>
    exact ⟨hended', hl.pending, hl.opened,
      hl.heard_modify (fun _ => l.load?_hear) (fun _ => rfl) caller⟩
  | cancel caller =>
    exact ⟨hended', hl.pending, hl.opened,
      hl.heard_modify (fun _ => Caller.load?_cancel) (fun _ => rfl) caller⟩
  | drop => exact ⟨hended', hl.pending, hl.opened, hl.heard⟩
  | abort => exact ⟨hended', hl.pending, hl.opened, hl.heard⟩
  | close => exact ⟨hended', hl.pending, nofun, hl.heard⟩
  | idle => exact hl

theorem play (hl : l.Past n first kept) (ms : List (Move α)) : (l.play ms).Past n first kept :=
  play_induction (P := Past n first kept) (Q := fun _ => true) (fun _ _ _ _ h hl => hl.turn h) hl
    fun _ _ => rfl

end Past

/-- When a load has ended and is not the pending one, no one has come since. -/
theorem past_of_ended {outcome : Except LoadFailure α}
    (hended : l.loads[n]? = some (.ended outcome)) (hpending : l.pending ≠ some n) :
    l.Past n l.callers.length l.opened := by
  refine ⟨⟨outcome, hended⟩, hpending, fun _ => id, fun i c hi hc => ?_⟩
  rw [List.getElem?_eq_none hi] at hc
  cases hc

/-! ### All together -/

/-- A load that is over is pending if and only if it was aborted. -/
theorem pending_iff_aborted (hl : l.Sound ∨ ∃ n, l.Stuck n) {load : Load α}
    (hload : l.loads[n]? = some load) (hover : ¬load.UnderWay) :
    l.pending = some n ↔ load = .aborted := by
  rcases hl with hl | ⟨i, hl⟩
  · have hpending : l.pending ≠ some n := by
      intro hpending
      obtain ⟨other, hother, hunder⟩ := hl.underWay n hpending
      obtain rfl := Option.some.inj (hother.symm.trans hload)
      exact hover hunder
    obtain ⟨outcome, rfl⟩ := hl.ended n load hload hpending
    exact iff_of_false hpending nofun
  · by_cases hne : n = i
    · subst hne
      exact iff_of_true hl.pending (Option.some.inj (hload.symm.trans hl.aborted))
    · obtain ⟨outcome, rfl⟩ := hl.ended n load hload hne
      refine iff_of_false (fun h => hne ?_) nofun
      exact Option.some.inj (h.symm.trans hl.pending)

/-- A caller gets what is open, waits for a load that is under way, or plans a load, which makes
another attempt at its first turn. -/
def Responsive (l : Loader α) : Prop :=
  (∃ n store, l.opened = some (n, store) ∧
    l.ask = { l with callers := l.callers ++ [.served n store] }) ∨
  (∃ n load, l.pending = some n ∧ l.loads[n]? = some load ∧ load.UnderWay ∧
    l.ask = { l with callers := l.callers ++ [.waiting n] }) ∨
  (l.ask.pending = some l.loads.length ∧ l.ask.loads = l.loads ++ [.planned] ∧
    l.ask.callers = l.callers ++ [.waiting l.loads.length] ∧
    (l.ask.start l.loads.length).attempts = l.attempts + 1 ∧
    (l.ask.start l.loads.length).fetches = l.fetches ++ [.inFlight])

theorem Sound.responsive (hl : l.Sound) : l.Responsive := by
  cases hopened : l.opened with
  | some opened =>
    refine Or.inl ⟨opened.1, opened.2, hopened, ?_⟩
    simp only [ask, hopened]
  | none =>
    cases hpending : l.pending with
    | some n =>
      obtain ⟨load, hload, hunder⟩ := hl.underWay n hpending
      refine Or.inr (Or.inl ⟨n, load, hpending, hload, hunder, ?_⟩)
      simp only [ask, hopened, hpending, hear_of_underWay hload hunder]
    | none =>
      refine Or.inr (Or.inr ?_)
      simp [ask, start, hopened, hpending]

/-- What becomes of the loads that are over. -/
structure Guarded (l : Loader α) : Prop where
  /-- A load that is over is pending if and only if it was aborted. -/
  leftBehind : ∀ (n : Nat) load, l.loads[n]? = some load → ¬load.UnderWay →
    (l.pending = some n ↔ load = .aborted)
  /-- While no load was aborted, whoever asks gets the store or waits for a load not yet over. -/
  asked : (∀ n : Nat, l.loads[n]? ≠ some .aborted) → l.Responsive
  /-- Whoever comes after the end of a load hears nothing of it, unless it gets what the load has
  opened. -/
  ended : ∀ (n : Nat) outcome, l.loads[n]? = some (.ended outcome) →
    ∀ ms i c, l.callers.length ≤ i → (l.play ms).callers[i]? = some c → c.load? = some n →
      ∃ store, c = .served n store ∧ l.opened = some (n, store)
  /-- After an abort nothing but the callers ever changes, and whoever comes is cancelled. -/
  aborted : ∀ n : Nat, l.loads[n]? = some .aborted →
    ∀ ms, (∃ callers, l.play ms = { l with callers }) ∧
      ∀ i c, l.callers.length ≤ i → (l.play ms).callers[i]? = some c → c = .cancelled

/-- However loads, callers and fetches take turns, and whichever loads are aborted, of the loads
that are over only one that was aborted stays the pending one. -/
theorem only_aborted_stays_pending (before : List (Move α)) :
    Guarded (initial.play before) := by
  have hl := sound_or_stuck before
  generalize initial.play before = l at hl
  refine ⟨fun n load hload hover => pending_iff_aborted hl hload hover, fun hspare => ?asked,
    fun n outcome hended ms i c hi hc hjoined => ?ended, fun n haborted ms => ?aborted⟩
  case asked =>
    rcases hl with hl | ⟨n, hl⟩
    · exact hl.responsive
    · exact absurd hl.aborted (hspare n)
  case ended =>
    have hpending : l.pending ≠ some n := fun h => by
      cases (pending_iff_aborted hl hended id).mp h
    exact ((past_of_ended hended hpending).play ms).heard i c hi hc hjoined
  case aborted =>
    rcases hl with hl | ⟨i, hl⟩
    · have hpending := (pending_iff_aborted (.inl hl) haborted id).mpr rfl
      obtain ⟨load, hload, hunder⟩ := hl.underWay n hpending
      obtain rfl := Option.some.inj (haborted.symm.trans hload)
      exact hunder.elim
    · exact ⟨(hl.play ms).same, (hl.play ms).cancelled⟩

/-- A load whose fetch is in flight is aborted and its caller is cancelled. The load is over but
stays pending; the next caller, even after the loader was closed, is cancelled as well and makes no
further attempt. -/
theorem aborted_load_stays_pending :
    let l : Loader Nat := initial.play [.ask, .start 0, .abort 0, .tell 0]
    let next := l.play [.close, .ask, .start 1, .tell 1]
    (¬∀ (n : Nat) load, l.loads[n]? = some load → ¬load.UnderWay → l.pending ≠ some n) ∧
      l.callers = [.cancelled] ∧ l.attempts = 1 ∧ next.pending = some 0 ∧
      next.callers = [.cancelled, .cancelled] ∧ next.attempts = 1 ∧ next.fetches = [.ended] :=
  ⟨fun h => h 0 .aborted rfl id rfl, rfl, rfl, rfl, rfl, rfl, rfl⟩

end Loader

end JobSearch
