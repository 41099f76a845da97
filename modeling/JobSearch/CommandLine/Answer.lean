import JobSearch.CommandLine.Arguments
import JobSearch.Filter.Argument
import JobSearch.Json.Printer
import JobSearch.Service

/-!
# Answers of the command line

A command line is answered in two steps. The first one needs no dataset: it reads the
arguments, the settings and the criteria, and says where the dataset lies. The second one
answers the command once it is known what a fetch from there brings.

## Main definitions

* `Exit`, `Exit.status`, `Exit.output` — how a program ends.
* `Task`, `plan` — what is to be done.
* `Task.exit` — how the program ends.
-/

namespace JobSearch

/-- How a program ends. -/
inductive Exit where
  /-- It prints a document. -/
  | printed (document : Json)
  /-- It explains its use. -/
  | explained
  /-- The command line, the criteria or the location of the dataset are not usable. -/
  | misused (reason : String)
  /-- The request has no answer. -/
  | unanswered (f : Fault)
  /-- The program breaks off. -/
  | broken (f : Fault)

/-- How the program is used, in words. -/
def usage : String :=
  "usage: " ++ ", ".intercalate Command.words ++ "; options: " ++
    ", ".intercalate (Switch.names.map (·.1))

namespace Exit

/-- The status with which the program ends. -/
def status : Exit → Nat
  | printed _ => 0
  | explained => 0
  | misused _ => 2
  | unanswered _ => 1
  | broken _ => 1

/-- The document that the program prints, if it prints one. -/
def document? : Exit → Option Json
  | printed document => some document
  | _ => none

/-- What the program prints. -/
def output : Exit → String
  | printed document => document.indented ++ "\n"
  | explained => usage ++ "\n"
  | _ => ""

/-- What the program complains about. -/
def complaint : Exit → String
  | misused reason => usage ++ "\nerror: " ++ reason ++ "\n"
  | unanswered f => "Query failed: " ++ f.message ++ "\n"
  | broken f => f.message ++ "\n"
  | _ => ""

end Exit

/-- Whether a request without an answer ends a program in order. -/
def Fault.isExpected : Fault → Bool
  | unknownField _ => true
  | missingTable .. => true
  | missingColumn .. => true
  | unreadableImage .. => true
  | beyondLimits .. => true
  | undecodable .. => true
  | loadFailed _ => true
  | notLoaded => true
  | unknownReport _ => true
  | absentMember _ => true
  | _ => false

/-- How a program ends that has an answer or a fault. -/
def Exit.ofReply : Except Fault Json → Exit
  | .ok document => printed document
  | .error f => if f.isExpected then unanswered f else broken f

/-- A command line that is understood: the command with its target, the page that is asked
for, the criteria, the settings, and where the dataset lies. -/
structure Task where
  invocation : Invocation
  settings : Settings
  criteria : Criteria
  policy : Policy
  location : Location

/-- A usage fault in words. -/
def UsageFault.message : UsageFault → String
  | ambiguous argument => "ambiguous option: " ++ argument
  | unrecognized argument => "unrecognized arguments: " ++ argument
  | valueExpected _ => "expected one argument"
  | valueUnexpected _ => "ignored explicit argument"
  | badValue _ value => "invalid value: " ++ Text.quoted value
  | badCommand word => "invalid choice: " ++ Text.quoted word
  | commandExpected => "the following arguments are required: command"

/-- The policy of a word that was checked; a policy that was left empty is none. -/
def Policy.ofWord : Option String → Except Fault Policy
  | none => .error (.unknownPolicy (.list []))
  | some word => .ok (if word = "or" then any else all)

/-- The settings under which a command line runs: a dataset file that it names goes before the
one of the environment. -/
def Invocation.settings (i : Invocation) (s : Settings) : Settings :=
  match given? i.datasetFile with
  | some path => { s with datasetFile := some path }
  | none => s

/-- The criteria that a command line gives. A filter that was left empty is found when its turn
comes. -/
def Invocation.criteria (i : Invocation) : Except Fault Criteria := do
  let mapping ← readArguments ((i.filters.takeWhile Option.isSome).filterMap id)
  if i.filters.all Option.isSome then Criteria.ofMapping mapping else throw .notAnObject

/-- How a program ends whose criteria have a fault. -/
def Exit.ofCriteriaFault : Fault → Exit
  | .notAnObject => broken .notAnObject
  | f => misused f.message

/-- What is to be done for a command line, or how the program ends at once. -/
def plan (argv : List String) (valueOf? : String → Option String) : Except Exit Task :=
  match Invocation.read argv with
  | .error f => .error (.misused f.message)
  | .ok .help => .error .explained
  | .ok (.invocation i) =>
    match (Settings.ofVariables valueOf?).toExcept with
    | .error f => .error (.broken f)
    | .ok settings =>
      let settings := i.settings settings
      match i.criteria with
      | .error f => .error (.ofCriteriaFault f)
      | .ok criteria =>
        match settings.location, Policy.ofWord i.policy with
        | .error f, _ => .error (.misused f.message)
        | _, .error f => .error (.broken f)
        | .ok location, .ok policy => .ok ⟨i, settings, criteria, policy, location⟩

/-- A posting as it is printed: with its salary in words. -/
def Posting.printed (p : Posting) (currency : String) : Json :=
  .object (p.members ++ [("salary_display", .text (p.salary.display "MDL" currency))])

/-- A page as it is printed. -/
def Page.printed (p : Page) (currency : String) : Json :=
  .object [
    ("entities", .list (p.postings.map fun q => q.printed currency)),
    ("total_count", .int p.total), ("total_pages", .int p.pages), ("page", .int p.number),
    ("page_size", .int p.size)]

/-- A value of any kind as it is printed: an infinity and no number count as nothing. -/
def Json.printed : Json → Json
  | .real x => if Number.isFinite x then .real x else .null
  | v => v

/-- The answer of a report as it is printed. -/
def ReportAnswer.printed (a : ReportAnswer) : Json :=
  .object [
    ("name", .text a.name), ("sql", .text a.statement),
    ("params", .list (a.params.map fun c => c.toJson.printed)), ("columns", .texts a.columns),
    ("rows", .list (a.rows.map fun row => .object (row.map fun p => (p.1, p.2.printed)))),
    ("statistics", .object (a.statistics.map fun p => (p.1, p.2.toJson)))]

/-- Facets as they are printed. -/
def printedFacets (fs : List Facet) : Json := .list (fs.map Facet.toJson)

namespace Task

/-- A page of the postings that are asked for. -/
def pageRequest (t : Task) (s : Service) (number : Int) : PageRequest :=
  ⟨number, s.sizeOf t.invocation.pageSize, t.criteria, t.invocation.search,
    some t.invocation.sortKey, t.policy⟩

/-- The page that is asked for. A number that was left empty is refused where a number below one
would be. -/
def page (t : Task) (s : Service) : Except Fault Page :=
  match t.invocation.page with
  | some number => (s.page (t.pageRequest s number)).1
  | none => (s.page (t.pageRequest s 0)).1.mapError fun
    | .pageBelowOne _ => .wrongKind
    | f => f

/-- How the program ends, given what a fetch of the dataset brings. -/
def exit (t : Task) (source : Arrival Store) : Exit :=
  let s := Service.initial t.settings source
  let currency := t.settings.defaultCurrency
  match t.invocation.command, given? t.invocation.target with
  | .page, _ => .ofReply ((t.page s).map fun p => p.printed currency)
  | .facets, none => .misused "facets needs a field key"
  | .facets, some key =>
    .ofReply ((s.facets key t.criteria t.invocation.search t.policy).1.map printedFacets)
  | .entity, none => .misused "entity needs a posting id"
  | .entity, some id =>
    match (Json.text id).readInteger with
    | .error f => .ofReply (.error f)
    | .ok id => .ofReply ((s.posting? id).1.map fun p =>
      match p with
      | some p => p.printed currency
      | none => .null)
  | .analysis, none => .ofReply (t.settings.reports.map fun rs => .texts (rs.map (·.name)))
  | .analysis, some name => .ofReply ((s.runReport name t.criteria).1.map ReportAnswer.printed)
  | .metadata, _ => .ofReply (s.metadata.1.map Metadata.toJson)

end Task

end JobSearch
