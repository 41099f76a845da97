import JobSearch.Distinct
import JobSearch.Fault
import JobSearch.Text.Substitute

/-!
# Reports

A report is a statement with gaps: one for the joins that the user's criteria need, and one
for the criteria themselves, either as a condition of their own or in addition to one. A
report names the fields whose labels its statement shows.

## Main definitions

* `Report`, `Report.toJson`.
* `joinsGap`, `whereGap`, `andWhereGap` — the gaps.
* `Report.read` — a report from a document.
* `Report.readAll` — the reports of a document, no two of one name.
* `Report.findNamed` — the report of a name.
-/

namespace JobSearch

/-- A statement with gaps. -/
structure Report where
  name : String
  description : String
  category : String
  chart : String
  /-- The keys of the fields whose tables the statement itself needs. -/
  joins : List String
  template : String

/-- The gap for joins. -/
def joinsGap : String := "\x7bjoins\x7d"

/-- The gap for criteria that are the only condition. -/
def whereGap : String := "\x7bwhere\x7d"

/-- The gap for criteria besides another condition. -/
def andWhereGap : String := "\x7band_where\x7d"

namespace Report

/-- A report as a document. -/
def toJson (r : Report) : Json :=
  .object [
    ("name", .text r.name), ("description", .text r.description),
    ("category", .text r.category), ("chart_type", .text r.chart), ("joins", .texts r.joins),
    ("sql", .text r.template)]

/-! ### Reading -/

/-- Text with exactly one gap for criteria and some for joins. -/
def checkTemplate (s : String) : Except Refusal String :=
  if Text.countOf whereGap s + Text.countOf andWhereGap s ≠ 1 then
    .error (.broken ("sql must contain exactly one of " ++ whereGap ++ " or " ++ andWhereGap))
  else if Text.countOf joinsGap s = 0 then .error (.broken ("sql must contain " ++ joinsGap))
  else .ok s

/-- Keys of fields with at most one label per posting, up to the first other key. A key
without a field is a fault of its own. -/
def checkJoins : List String → Except Fault (Option Refusal)
  | [] => .ok none
  | key :: rest =>
    match Field.resolve key with
    | .error u => .error (.unknownField u)
    | .ok f =>
      if f.isMultiValued then
        .ok (some (.broken (Text.quoted key ++ " is not a lookup field and cannot be joined")))
      else checkJoins rest

/-- The keys that a report joins. -/
def readJoins (entry : Json) : Except Fault (Checked (List String)) :=
  match entry.member? "joins" with
  | none => .ok (.valid [])
  | some v =>
    match v.readTexts ["joins"] with
    | .invalid vs => .ok (.invalid vs)
    | .valid keys =>
      match checkJoins keys with
      | .error f => .error f
      | .ok none => .ok (.valid keys)
      | .ok (some refusal) => .ok (.refuse ["joins"] refusal)

/-- The template of a report. -/
def readTemplate (v : Json) : Except Refusal String :=
  match v.readText with
  | .ok s => checkTemplate s
  | .error r => .error r

/-- The report that a document describes. -/
def read (entry : Json) : Except Fault Report := do
  let joins ← readJoins entry
  Checked.toExcept <|
    Report.mk <$> .required Json.readText "name" entry
      <*> .withDefault Json.readText "" "description" entry
      <*> .withDefault Json.readText "general" "category" entry
      <*> .withDefault Json.readText "bar" "chart_type" entry
      <*> joins
      <*> .required readTemplate "sql" entry

/-- One entry of a document, which must be an object. -/
def readEntry : Json → Except Fault Report
  | .object members => read (.object members)
  | _ => .error .wrongKind

/-- The names that occur more than once, in order. -/
def repeatedNames (names : List String) : List String :=
  (distinct (names.filter fun n => 1 < names.count n)).mergeSort fun a b => decide (a ≤ b)

/-- The entries of a document: those under the key `analyses`, none if it has no such key. -/
def entries (document : Json) : Except Fault (List Json) :=
  if document.isBlankValue then .ok []
  else match document with
    | .object members =>
      match (Ordered.find? "analyses" members).getD (.list []) |>.elements? with
      | some items => .ok items
      | none => .error .wrongKind
    | _ => .error .notAnObject

/-- Reports of which no two have one name; `place` says where they come from. -/
def requireDistinct (place : String) (reports : List Report) : Except Fault (List Report) :=
  match repeatedNames (reports.map (·.name)) with
  | [] => .ok reports
  | names => .error (.repeatedReports place names)

/-- The reports of a document. -/
def readAll (place : String) (document : Json) : Except Fault (List Report) := do
  requireDistinct place (← (← entries document).mapM readEntry)

/-- The first of some reports, of whatever kind, that has a name. -/
def findNamed {α : Type} (nameOf : α → String) (name : String) (reports : List α) :
    Except Fault α :=
  match reports.find? fun r => nameOf r == name with
  | some r => .ok r
  | none => .error (.unknownReport name)

end Report

end JobSearch
