import JobSearch.Dataset.Loader
import Mathlib.Data.List.Basic

/-!
# The turns of a loader

What a move does depends on what is open, which load is pending and how far a load has come.
`Turn` says so with one case for each possibility, and `turn_move` that these are all of them: what
holds after a move is shown by going through the cases, and what holds after every move holds after
a run (`play_induction`).

## Main definitions

* `Blocked` — a move for which a load has not come far enough, or too far.
* `Turn` — a move and its effect.
-/

namespace JobSearch.Loader

variable {α : Type}

/-- The load of a move is not at the point where the move is possible. -/
def Blocked (l : Loader α) : Move α → Prop
  | .start load => l.loads[load]? ≠ some .planned
  | .arrive load _ => ∀ fetch, l.loads[load]? ≠ some (.fetching fetch)
  | .finish load => ∀ a, l.loads[load]? ≠ some (.fetched a)
  | .abort load => ∀ before, l.loads[load]? = some before →
      before = .aborted ∨ ∃ outcome, before = .ended outcome
  | _ => False

/-- A move and its effect. -/
inductive Turn (l : Loader α) : Move α → Loader α → Prop where
  /-- A caller finds a dataset open. -/
  | serve {load : Nat} {store : α} (hopened : l.opened = some (load, store)) :
      Turn l .ask { l with callers := l.callers ++ [.served load store] }
  /-- A caller joins the pending load. -/
  | join {load : Nat} (hopened : l.opened = none) (hpending : l.pending = some load) :
      Turn l .ask { l with callers := l.callers ++ [l.hear (.waiting load)] }
  /-- A caller plans a load. -/
  | plan (hopened : l.opened = none) (hpending : l.pending = none) :
      Turn l .ask
        { l with
          pending := some l.loads.length
          loads := l.loads ++ [.planned]
          callers := l.callers ++ [.waiting l.loads.length] }
  /-- A load starts its fetch. -/
  | start {load : Nat} (hload : l.loads[load]? = some .planned) :
      Turn l (.start load)
        { l with
          attempts := l.attempts + 1
          loads := l.loads.set load (.fetching l.fetches.length)
          fetches := l.fetches ++ [.inFlight] }
  /-- The fetch of a load ends. -/
  | arrive {load fetch : Nat} (a : Arrival α) (hload : l.loads[load]? = some (.fetching fetch)) :
      Turn l (.arrive load a)
        { l with
          loads := l.loads.set load (.fetched a)
          fetches := l.fetches.set fetch .ended }
  /-- A load ends and has opened a dataset. -/
  | succeed {load : Nat} {a : Arrival α} {store : α} (hload : l.loads[load]? = some (.fetched a))
      (houtcome : a.outcome = .ok store) :
      Turn l (.finish load)
        { l with
          opened := some (load, store)
          pending := none
          loads := l.loads.set load (.ended (.ok store)) }
  /-- A load ends in failure. -/
  | fail {load : Nat} {a : Arrival α} {failure : LoadFailure}
      (hload : l.loads[load]? = some (.fetched a)) (houtcome : a.outcome = .error failure) :
      Turn l (.finish load)
        { l with
          pending := none
          loads := l.loads.set load (.ended (.error failure)) }
  /-- A caller hears what it can hear. -/
  | tell (caller : Nat) :
      Turn l (.tell caller) { l with callers := l.callers.modify caller l.hear }
  | cancel (caller : Nat) :
      Turn l (.cancel caller) { l with callers := l.callers.modify caller Caller.cancel }
  /-- A load that has no fetch in flight is aborted. -/
  | drop {load : Nat} {before : Load α} (hload : l.loads[load]? = some before)
      (hbefore : before = .planned ∨ ∃ a, before = .fetched a) :
      Turn l (.abort load) { l with loads := l.loads.set load .aborted }
  /-- A load and its fetch are aborted. -/
  | abort {load fetch : Nat} (hload : l.loads[load]? = some (.fetching fetch)) :
      Turn l (.abort load)
        { l with
          loads := l.loads.set load .aborted
          fetches := l.fetches.set fetch .ended }
  | close : Turn l .close { l with opened := none }
  /-- The move is not possible. -/
  | idle {m : Move α} (hm : l.Blocked m) : Turn l m l

/-- Every move is a turn. -/
theorem turn_move (l : Loader α) (m : Move α) : Turn l m (l.move m) := by
  cases m with
  | ask =>
    rw [move, ask]
    split
    · next hopened => exact .serve hopened
    · next hopened hpending => exact .join hopened hpending
    · next hopened hpending => exact .plan hopened hpending
  | start load =>
    rw [move, start]
    split
    · next hload => exact .start hload
    · next hload => exact .idle hload
  | arrive load a =>
    rw [move, arrive]
    split
    · next hload => exact .arrive a hload
    · next hload => exact .idle hload
  | finish load =>
    rw [move, finish]
    split
    · next a hload =>
      cases houtcome : a.outcome with
      | ok store => exact .succeed hload houtcome
      | error failure => exact .fail hload houtcome
    · next hload => exact .idle hload
  | tell caller => exact .tell caller
  | cancel caller => exact .cancel caller
  | abort load =>
    rw [move, abort]
    split
    · next hload => exact .drop hload (.inl rfl)
    · next a hload => exact .drop hload (.inr ⟨a, rfl⟩)
    · next hload => exact .abort hload
    · next hplanned hfetched hfetching =>
      refine .idle fun before hbefore => ?_
      cases before with
      | planned => exact absurd hbefore hplanned
      | fetching fetch => exact absurd hbefore (hfetching fetch)
      | fetched a => exact absurd hbefore (hfetched a)
      | ended outcome => exact Or.inr ⟨outcome, rfl⟩
      | aborted => exact Or.inl rfl
  | close => exact .close

theorem play_cons (l : Loader α) (m : Move α) (ms : List (Move α)) :
    l.play (m :: ms) = (l.move m).play ms := rfl

theorem play_append (l : Loader α) (ms ns : List (Move α)) :
    l.play (ms ++ ns) = (l.play ms).play ns := List.foldl_append

/-- What every turn of some kind preserves is preserved by a run of such moves. -/
theorem play_induction {P : Loader α → Prop} {Q : Move α → Bool}
    (hstep : ∀ l m l', Q m = true → Turn l m l' → P l → P l') {l : Loader α} (hl : P l)
    {ms : List (Move α)} (hms : ∀ m ∈ ms, Q m = true) : P (l.play ms) := by
  induction ms generalizing l with
  | nil => exact hl
  | cons m ms ih =>
    exact ih (hstep l m _ (hms m (by simp)) (turn_move l m) hl) fun m' hm' => hms m' (by simp [hm'])

end JobSearch.Loader
