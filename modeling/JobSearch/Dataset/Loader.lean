import JobSearch.Dataset.LoadFailure

/-!
# Loading a dataset once

All callers who want the dataset share one load. The first caller plans a load, which fetches an
image and opens it; callers that come meanwhile wait for the same load. When it ends all waiting
callers hear its outcome, and after a failure the next caller plans a new load. A caller that is
cancelled leaves the others and the load alone.

A load and its callers take turns. A planned load starts its fetch only when its turn comes, an
image that has arrived is opened at a later turn, and a caller hears of the end of the load at
one of its own turns; anything may happen in between. A move is what happens in one turn. An
event is a move together with all turns that it brings about, when nothing else happens
meanwhile.

The load itself can be aborted, for instance when the program shuts down. Then it remains the
pending load: later callers wait for a load that is over and are cancelled too.

## Main definitions

* `Loader` — the state of a loader, of its loads and of its callers.
* `Loader.Move`, `Loader.move`, `Loader.play` — what can happen in one turn, and its effect.
* `Loader.Event`, `Loader.step`, `Loader.run` — moves with all they bring about.
-/

namespace JobSearch

/-- What became of a caller. -/
inductive Caller (α : Type) where
  /-- The caller waits for a load. -/
  | waiting (load : Nat)
  /-- The caller got what a load opened. -/
  | served (load : Nat) (store : α)
  /-- The caller was told why a load failed. -/
  | failed (load : Nat) (failure : LoadFailure)
  | cancelled

/-- What became of a fetch. -/
inductive Fetch where
  | inFlight
  | ended
  deriving DecidableEq

/-- How a fetch ends. -/
inductive Arrival (α : Type) where
  /-- An image arrived that can be opened. -/
  | opened (store : α)
  /-- An image arrived that cannot be opened. -/
  | undecodable (failure : LoadFailure)
  /-- The source of the dataset says why there is no image. -/
  | refused (failure : LoadFailure)
  /-- The fetch failed in some other way. -/
  | crashed (reason : String)

/-- The outcome of a load whose fetch has ended. -/
def Arrival.outcome {α : Type} : Arrival α → Except LoadFailure α
  | opened store => .ok store
  | undecodable failure => .error failure
  | refused failure => .error failure
  | crashed reason => .error (.broken reason)

/-- How far a load has come. -/
inductive Load (α : Type) where
  /-- The load has not had its first turn. -/
  | planned
  /-- The load waits for one of the fetches. -/
  | fetching (fetch : Nat)
  /-- The fetch has ended, and the load has not gone on yet. -/
  | fetched (arrival : Arrival α)
  | ended (outcome : Except LoadFailure α)
  | aborted

/-- What a caller is told of a load that has ended. -/
def Caller.told {α : Type} (load : Nat) : Except LoadFailure α → Caller α
  | .ok store => served load store
  | .error failure => failed load failure

/-- A caller that waits is cancelled. -/
def Caller.cancel {α : Type} : Caller α → Caller α
  | waiting _ => cancelled
  | c => c

/-- The state of a loader: what is open, with the load that opened it; the load that callers
wait for; the number of attempts; and what became of all loads, fetches and callers in the order
in which they began. -/
structure Loader (α : Type) where
  opened : Option (Nat × α)
  pending : Option Nat
  attempts : Nat
  loads : List (Load α)
  fetches : List Fetch
  callers : List (Caller α)

namespace Loader

variable {α : Type}

/-- A loader that was never asked. -/
def initial : Loader α := ⟨none, none, 0, [], [], []⟩

/-- Whether a dataset is open. -/
def loaded (l : Loader α) : Bool := l.opened.isSome

/-- The number of fetches in flight. -/
def inFlight (l : Loader α) : Nat := l.fetches.count .inFlight

/-! ### Single turns -/

/-- What a caller hears at its turn: the outcome of its load if that is over. -/
def hear (l : Loader α) : Caller α → Caller α
  | .waiting load =>
    match l.loads[load]? with
    | some (.ended outcome) => .told load outcome
    | some .aborted => .cancelled
    | _ => .waiting load
  | c => c

/-- One more caller: it gets what is open, or waits for the pending load, or plans a load. -/
def ask (l : Loader α) : Loader α :=
  match l.opened, l.pending with
  | some (load, store), _ => { l with callers := l.callers ++ [.served load store] }
  | none, some load => { l with callers := l.callers ++ [l.hear (.waiting load)] }
  | none, none =>
    { l with
      pending := some l.loads.length
      loads := l.loads ++ [.planned]
      callers := l.callers ++ [.waiting l.loads.length] }

/-- A planned load starts its fetch. -/
def start (l : Loader α) (load : Nat) : Loader α :=
  match l.loads[load]? with
  | some .planned =>
    { l with
      attempts := l.attempts + 1
      loads := l.loads.set load (.fetching l.fetches.length)
      fetches := l.fetches ++ [.inFlight] }
  | _ => l

/-- The fetch of a load ends. -/
def arrive (l : Loader α) (load : Nat) (a : Arrival α) : Loader α :=
  match l.loads[load]? with
  | some (.fetching fetch) =>
    { l with
      loads := l.loads.set load (.fetched a)
      fetches := l.fetches.set fetch .ended }
  | _ => l

/-- A load whose fetch has ended comes to its end. -/
def finish (l : Loader α) (load : Nat) : Loader α :=
  match l.loads[load]? with
  | some (.fetched a) =>
    { l with
      opened := match a.outcome with
        | .ok store => some (load, store)
        | .error _ => l.opened
      pending := none
      loads := l.loads.set load (.ended a.outcome) }
  | _ => l

/-- A caller has its turn. -/
def tell (l : Loader α) (caller : Nat) : Loader α :=
  { l with callers := l.callers.modify caller l.hear }

/-- One caller is cancelled. -/
def cancel (l : Loader α) (caller : Nat) : Loader α :=
  { l with callers := l.callers.modify caller Caller.cancel }

/-- A load is aborted, and with it its fetch; it stays the pending one. -/
def abort (l : Loader α) (load : Nat) : Loader α :=
  match l.loads[load]? with
  | some .planned | some (.fetched _) => { l with loads := l.loads.set load .aborted }
  | some (.fetching fetch) =>
    { l with
      loads := l.loads.set load .aborted
      fetches := l.fetches.set fetch .ended }
  | _ => l

/-- What is open is closed; a pending load goes on. -/
def close (l : Loader α) : Loader α := { l with opened := none }

/-- What can happen in one turn. -/
inductive Move (α : Type) where
  | ask
  | start (load : Nat)
  | arrive (load : Nat) (a : Arrival α)
  | finish (load : Nat)
  | tell (caller : Nat)
  | cancel (caller : Nat)
  | abort (load : Nat)
  | close

/-- The effect of a move; a move that is not possible has none. -/
def move (l : Loader α) : Move α → Loader α
  | .ask => l.ask
  | .start load => l.start load
  | .arrive load a => l.arrive load a
  | .finish load => l.finish load
  | .tell caller => l.tell caller
  | .cancel caller => l.cancel caller
  | .abort load => l.abort load
  | .close => l.close

/-- The state after some moves. -/
def play (l : Loader α) (moves : List (Move α)) : Loader α := moves.foldl move l

/-! ### Events -/

/-- What can happen to a loader when all that it brings about happens at once. -/
inductive Event (α : Type) where
  | load
  | arrive (a : Arrival α)
  | cancel (caller : Nat)
  | abort
  | close

/-- Every caller has its turn. -/
def tellAll (l : Loader α) : List (Move α) := (List.range l.callers.length).map .tell

/-- The moves of an event. -/
def moves (l : Loader α) : Event α → List (Move α)
  | .load => [.ask, .start l.loads.length]
  | .arrive a =>
    match l.pending with
    | some load => [.arrive load a, .finish load] ++ l.tellAll
    | none => []
  | .cancel caller => [.cancel caller]
  | .abort =>
    match l.pending with
    | some load => .abort load :: l.tellAll
    | none => []
  | .close => [.close]

/-- What an event changes. -/
def step (l : Loader α) (e : Event α) : Loader α := l.play (l.moves e)

/-- The state after some events. -/
def run (l : Loader α) (events : List (Event α)) : Loader α := events.foldl step l

/-- One more caller, for whom a fetch under way ends at once, and what became of it. -/
def loadNow (l : Loader α) (a : Arrival α) : Loader α × Caller α :=
  let l := (l.step .load).step (.arrive a)
  (l, l.callers.getLast?.getD .cancelled)

end Loader

end JobSearch
