import JobSearch.Distinct
import JobSearch.Fault
import JobSearch.Filter.Criteria
import JobSearch.Filter.Policy

/-!
# Refreshing facets

Facet lists are asked for while the user goes on changing the criteria. Every request carries
the generation of criteria for which it was made. When its answer comes after a further change
it is stale and dropped; otherwise it becomes the list shown for its field. Nothing is
withdrawn when the criteria change.

One task asks for one field, or for several. It issues its requests one by one, each at a turn
of its own, and the criteria may change in between. A task for several fields fails as soon as
one of its requests does; its other requests are still issued and show their answers.

## Main definitions

* `Refresher` — criteria, shown lists, requests and tasks.
* `Refresher.Move`, `Refresher.move`, `Refresher.play` — what can happen in one turn, and its
  effect.
* `Refresher.Event`, `Refresher.step`, `Refresher.run` — the same, but that a task issues all its
  requests at once.
* `Refresher.results` — what a finished task returns.
-/

namespace JobSearch

/-- A label and the number of postings that would match it. -/
structure Facet where
  label : String
  count : Int
  deriving DecidableEq

/-- A facet as a document. -/
def Facet.toJson (f : Facet) : Json := .object [("label", .text f.label), ("count", .int f.count)]

/-- What became of a request. -/
inductive RequestState where
  | waiting
  /-- The answer was shown. -/
  | shown (facets : List Facet)
  /-- The answer came too late. -/
  | stale
  | failed (f : Fault)
  | cancelled

/-- A request for the facets of a field. -/
structure FacetRequest where
  field : String
  criteria : Criteria
  search : Option String
  policy : Policy
  generation : Nat
  state : RequestState

/-- Whether a request still waits for its answer. -/
def FacetRequest.isWaiting (r : FacetRequest) : Bool :=
  match r.state with
  | .waiting => true
  | _ => false

/-- What became of a task. -/
inductive TaskState where
  | running
  | finished
  | failed (f : Fault)
  | cancelled

/-- A task, the fields that it still has to ask for, and the places of its requests. -/
structure RefreshTask where
  /-- Whether the task asks for several fields. -/
  several : Bool
  fields : List String
  requests : List Nat
  state : TaskState

/-- Criteria, the lists shown for them, and all requests and tasks so far. -/
structure Refresher where
  criteria : Criteria
  search : Option String
  policy : Policy
  /-- How often the criteria have changed. -/
  generation : Nat
  facets : List (String × List Facet)
  requests : List FacetRequest
  tasks : List RefreshTask

namespace Refresher

/-- A refresher that shows nothing yet. -/
def initial (criteria : Criteria) (search : Option String) (policy : Policy) : Refresher :=
  ⟨criteria, search, policy, 0, [], [], []⟩

/-- A request made now. -/
def request (r : Refresher) (field : String) : FacetRequest :=
  ⟨field, r.criteria, r.search, r.policy, r.generation, .waiting⟩

/-- A task all of whose requests have been issued and answered is finished. -/
def conclude (requests : List FacetRequest) (t : RefreshTask) : RefreshTask :=
  match t.state with
  | .running =>
    if t.fields.isEmpty && t.requests.all fun i => match requests[i]? with
      | some q => !q.isWaiting
      | none => true
    then { t with state := .finished } else t
  | _ => t

/-- A new task that will ask for some fields. -/
def plan (r : Refresher) (several : Bool) (fields : List String) : Refresher :=
  { r with tasks := r.tasks ++ [conclude r.requests ⟨several, fields, [], .running⟩] }

/-- A task issues its next request. -/
def issue (r : Refresher) (task : Nat) : Refresher :=
  match r.tasks[task]? with
  | none => r
  | some t =>
    match t.fields with
    | [] => r
    | field :: fields =>
      { r with
        requests := r.requests ++ [r.request field]
        tasks := r.tasks.set task
          { t with fields, requests := t.requests ++ [r.requests.length] } }

/-- The criteria change; without a new search text the old one stays. -/
def notify (r : Refresher) (criteria : Criteria) (search : Option String) : Refresher :=
  { r with
    criteria
    search := search.or r.search
    generation := r.generation + 1 }

/-- A request whose answer has come. -/
def settle (generation : Nat) (answer : Except Fault (List Facet)) (q : FacetRequest) :
    FacetRequest :=
  match answer with
  | .error f => { q with state := .failed f }
  | .ok facets =>
    if q.generation = generation then { q with state := .shown facets }
    else { q with state := .stale }

/-- A task one of whose requests has failed fails, if it has not ended before. -/
def failTask (place : Nat) (f : Fault) (t : RefreshTask) : RefreshTask :=
  match t.state with
  | .running => if place ∈ t.requests then { t with state := .failed f } else t
  | _ => t

/-- The answer to a request comes; it changes nothing unless the request waits for it. -/
def answer (r : Refresher) (place : Nat) (answer : Except Fault (List Facet)) : Refresher :=
  match r.requests[place]? with
  | none => r
  | some q =>
    if q.isWaiting then
      let requests := r.requests.set place (settle r.generation answer q)
      let tasks := match answer with
        | .error f => r.tasks.map (failTask place f)
        | .ok _ => r.tasks
      { r with
        facets := match answer with
          | .ok facets =>
            if q.generation = r.generation then Ordered.insert q.field facets r.facets
            else r.facets
          | .error _ => r.facets
        requests
        tasks := tasks.map (conclude requests) }
    else r

/-- A request is withdrawn if it still waits. -/
def withdraw (q : FacetRequest) : FacetRequest :=
  if q.isWaiting then { q with state := .cancelled } else q

/-- A running task is cancelled, and with it its requests; it issues no more. -/
def cancel (r : Refresher) (task : Nat) : Refresher :=
  match r.tasks[task]? with
  | none => r
  | some t =>
    match t.state with
    | .running =>
      { r with
        requests := r.requests.mapIdx fun i q => if i ∈ t.requests then withdraw q else q
        tasks := r.tasks.set task { t with fields := [], state := .cancelled } }
    | _ => r

/-- What can happen in one turn. -/
inductive Move where
  | plan (several : Bool) (fields : List String)
  | issue (task : Nat)
  | notify (criteria : Criteria) (search : Option String)
  | answer (place : Nat) (answer : Except Fault (List Facet))
  | cancel (task : Nat)

/-- The effect of a move; a move that is not possible has none. -/
def move (r : Refresher) : Move → Refresher
  | .plan several fields => r.plan several fields
  | .issue task => r.issue task
  | .notify criteria search => r.notify criteria search
  | .answer place answer => r.answer place answer
  | .cancel task => r.cancel task

/-- The state after some moves. -/
def play (r : Refresher) (moves : List Move) : Refresher := moves.foldl move r

/-! ### Events -/

/-- The moves of a task that asks for some fields at once. -/
def starts (r : Refresher) (several : Bool) (fields : List String) : List Move :=
  .plan several fields :: List.replicate fields.length (.issue r.tasks.length)

/-- What can happen to a refresher when tasks ask for all their fields at once. -/
inductive Event where
  | start (field : String)
  | startAll (fields : List String)
  | notify (criteria : Criteria) (search : Option String)
  | answer (place : Nat) (answer : Except Fault (List Facet))
  | cancel (task : Nat)

/-- The moves of an event. -/
def moves (r : Refresher) : Event → List Move
  | .start field => r.starts false [field]
  | .startAll fields => r.starts true fields
  | .notify criteria search => [.notify criteria search]
  | .answer place answer => [.answer place answer]
  | .cancel task => [.cancel task]

/-- What an event changes. -/
def step (r : Refresher) (e : Event) : Refresher := r.play (r.moves e)

/-- The state after some events. -/
def run (r : Refresher) (events : List Event) : Refresher := events.foldl step r

/-- The list that a request returned: nothing if it went stale. -/
def returned (r : Refresher) (place : Nat) : Option (String × Option (List Facet)) :=
  r.requests[place]?.map fun q =>
    (q.field, match q.state with
      | .shown facets => some facets
      | _ => none)

/-- The lists that the requests of a task returned, by field; the last request of a field
counts. -/
def results (r : Refresher) (t : RefreshTask) : List (String × Option (List Facet)) :=
  Ordered.ofList (t.requests.filterMap r.returned)

end Refresher

end JobSearch
