import JobSearch.Browse.Facets
import JobSearch.Dataset.Loader
import JobSearch.Settings

/-!
# The service

All requests go through one service, which loads the dataset when the first of them needs it
and keeps it. A request that finds no dataset says why the load failed, and the next one tries
again.

## Main definitions

* `Service` — settings, loader, and what a fetch brings.
* `Service.ask` — the answer to a request that needs the dataset.
* `Service.page`, `posting?`, `facets`, `metadata`, `suggest`, `runReport`, `refresh`.
-/

namespace JobSearch

/-- The state of a service. -/
structure Service where
  settings : Settings
  /-- What a fetch brings. -/
  source : Arrival Store
  loader : Loader Store
  refresher : Option Refresher

/-- An answer and the state behind it. -/
abbrev Reply (α : Type) := Except Fault α × Service

/-- The reports that can be run. Only the standing ones are known here; any other file of
reports cannot be opened. -/
def Settings.reports (s : Settings) : Except Fault (List StandingReport) :=
  match s.reportsFile with
  | none => .ok StandingReport.all
  | some path => .error (.unopened path)

/-- The report of a name. -/
def Settings.report (s : Settings) (name : String) : Except Fault StandingReport := do
  Report.findNamed StandingReport.name name (← s.reports)

namespace Service

variable {α : Type}

/-- A service that was never asked. -/
def initial (settings : Settings) (source : Arrival Store) : Service :=
  ⟨settings, source, .initial, none⟩

/-- The open dataset, loaded if it is not open yet. -/
def store (s : Service) : Reply Store :=
  let (loader, caller) := s.loader.loadNow s.source
  (match caller with
    | .served _ store => .ok store
    | .failed _ failure => .error (.loadFailed failure)
    | .waiting _ => .error .cancelled
    | .cancelled => .error .cancelled,
    { s with loader })

/-- The answer to a request that needs the dataset. -/
def ask (s : Service) (request : Store → Except Fault α) : Reply α :=
  let (store, s) := s.store
  (store.bind request, s)

/-- The size of a page: the one asked for, or the usual one if none is or zero is. -/
def sizeOf (s : Service) (size : Option Int) : Int :=
  match size with
  | none => s.settings.pageSize
  | some n => if n = 0 then s.settings.pageSize else n

/-- One page of the postings that match. -/
def page (s : Service) (q : PageRequest) : Reply Page :=
  s.ask fun store => store.page s.settings.batchHydration q

/-- The posting with an id, if there is one. -/
def posting? (s : Service) (id : Int) : Reply (Option Posting) := s.ask (·.posting? id)

/-- The labels of the field of a key under the criteria on all other fields. -/
def facets (s : Service) (key : String) (c : Criteria) (search : String) (policy : Policy) :
    Reply (List Facet) :=
  s.ask (·.facets key c search policy)

/-- Unfiltered facets and the number of postings. -/
def metadata (s : Service) : Reply Metadata := s.ask Store.metadata

/-- The labels that contain a term; nothing is loaded for a blank term. -/
def suggest (s : Service) (q : SuggestionRequest) : Reply (List Suggestion) :=
  if q.needle.isEmpty then (.ok [], s) else s.ask (·.suggest q)

/-- The answer of the report of a name. -/
def runReport (s : Service) (name : String) (c : Criteria) : Reply ReportAnswer :=
  s.ask fun store => (s.settings.report name).bind fun r => r.run store c

/-- The answer of a report. -/
def answer (s : Service) (r : StandingReport) (c : Criteria) : Reply ReportAnswer :=
  s.ask fun store => r.run store c

/-- Whether a table has a column. -/
def hasColumn (s : Service) (table column : String) : Reply Bool :=
  s.ask (·.hasColumn table column)

/-- The dataset is closed; the next request loads it again. -/
def close (s : Service) : Service := { s with loader := s.loader.close }

/-! ### Refreshing facets -/

/-- Facets are shown for criteria from now on. -/
def watch (s : Service) (c : Criteria) (search : Option String) (policy : Policy) : Service :=
  { s with refresher := some (.initial c search policy) }

/-- The criteria that facets are shown for change. -/
def notify (s : Service) (c : Criteria) (search : Option String) : Reply Nat :=
  match s.refresher with
  | none => (.error .wrongKind, s)
  | some r =>
    let r := r.notify c search
    (.ok r.generation, { s with refresher := some r })

/-- The outcome of the last task of a refresher. -/
def lastOutcome (r : Refresher) : Except Fault (List (String × Option (List Facet))) :=
  match r.tasks.getLast? with
  | none => .ok []
  | some t =>
    match t.state with
    | .failed f => .error f
    | .finished => .ok (r.results t)
    | _ => .error .cancelled

/-- The facets of some fields, asked for at once; the dataset is loaded once for all. -/
def refresh (s : Service) (fields : List String) :
    Reply (List (String × Option (List Facet))) :=
  match s.refresher with
  | none => (.error .wrongKind, s)
  | some r =>
    let begun := r.step (.startAll fields)
    let (store, s) := if fields.isEmpty then (.error .notLoaded, s) else s.store
    let answers := fields.mapIdx fun i key =>
      Refresher.Event.answer (r.requests.length + i)
        (store.bind fun st => st.facets key r.criteria (r.search.getD "") r.policy)
    let ended := begun.run answers
    (lastOutcome ended, { s with refresher := some ended })

end Service

end JobSearch
