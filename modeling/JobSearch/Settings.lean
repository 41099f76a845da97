import JobSearch.Dataset.Server
import JobSearch.Fault
import JobSearch.FilePath
import JobSearch.Text.Case

/-!
# Settings

Where the dataset comes from and how answers are shaped. Settings are read from a record or
from the variables of the environment; a variable that is unset or empty leaves its default.

## Main definitions

* `Settings`, `Settings.read`, `Settings.ofVariables`.
* `Location`, `Settings.location` — where the dataset comes from.
-/

namespace JobSearch

/-- Where the dataset comes from and how answers are shaped. -/
structure Settings where
  datasetUrl : Option String
  datasetPath : String
  datasetFile : Option String
  fetchTimeout : Float
  pageSize : Int
  defaultCurrency : String
  /-- Whether the labels of all postings of a page are fetched at once. -/
  batchHydration : Bool
  /-- The file that reports are read from, instead of the standing ones. -/
  reportsFile : Option String

/-! ### Parts of settings -/

/-- The integer that a double is; it must lie strictly between the ends of 64 signed bits. -/
def wholeOfReal (x : Float) : Except Refusal Int :=
  match Number.exactValue? x with
  | none => .error .notFinite
  | some q =>
    if q.den ≠ 1 then .error .fractional
    else if q.num.natAbs < Number.twoTo 63 then .ok q.num
    else .error .tooLong

/-- A value that must be an integer; text may end in a point and zeros. -/
def Json.readWhole : Json → Except Refusal Int
  | .int n => .ok n
  | .bool b => .ok (if b then 1 else 0)
  | .real x => wholeOfReal x
  | .text s =>
    (Number.readPlainInteger s).mapError fun
      | .unreadable => .unreadableInt
      | .tooLong _ => .tooLong
  | _ => .error .notInt

/-- A value that must be a positive integer. -/
def Json.readPositive (v : Json) : Except Refusal Int :=
  match v.readWhole with
  | .ok n => if n < 1 then .error .belowOne else .ok n
  | .error r => .error r

/-- The words for true. -/
def trueWords : List String := ["1", "on", "t", "true", "y", "yes"]

/-- The words for false. -/
def falseWords : List String := ["0", "off", "f", "false", "n", "no"]

/-- The truth value that an integer stands for. -/
def boolOfWhole (n : Int) : Except Refusal Bool :=
  if n = 0 then .ok false else if n = 1 then .ok true else .error .unreadableBool

/-- A value that must be a truth value; an integer must fit 64 signed bits. -/
def Json.readBool : Json → Except Refusal Bool
  | .bool b => .ok b
  | .int n => if (Cell.int n).fits then boolOfWhole n else .error .notBool
  | .real x =>
    match wholeOfReal x with
    | .ok n => boolOfWhole n
    | .error _ => .error .notBool
  | .text s =>
    if Text.lowerAscii s ∈ trueWords then .ok true
    else if Text.lowerAscii s ∈ falseWords then .ok false
    else .error .unreadableBool
  | _ => .error .notBool

/-- A value that must be the path of a file. -/
def Json.readPath (v : Json) : Except Refusal (Option String) :=
  v.readText.map fun s => some (plainPath s)

namespace Settings

/-- Settings from a record. -/
def read (record : Json) : Checked Settings :=
  Settings.mk <$> .optional Json.readText "dataset_url" record
    <*> .withDefault Json.readText defaultPath "dataset_path" record
    <*> .optional Json.readText "dataset_file" record
    <*> .withDefault Json.readReal 30 "fetch_timeout" record
    <*> .withDefault Json.readPositive 20 "page_size" record
    <*> .withDefault Json.readText "MDL" "default_currency" record
    <*> .withDefault Json.readBool false "batch_hydration" record
    <*> .withDefault Json.readPath none "analyses_file" record

/-- The settings that variables give as text, each with the name of its variable. -/
def variableNames : List (String × String) := [
  ("dataset_url", "JOBQUERY_DATASET_URL"), ("dataset_path", "JOBQUERY_DATASET_PATH"),
  ("dataset_file", "JOBQUERY_DATASET_FILE"), ("fetch_timeout", "JOBQUERY_FETCH_TIMEOUT"),
  ("page_size", "JOBQUERY_PAGE_SIZE"), ("default_currency", "JOBQUERY_DEFAULT_CURRENCY"),
  ("analyses_file", "JOBQUERY_ANALYSES_FILE")]

/-- The variable that says whether labels are fetched at once: only the word `true`, in any
case, means yes. -/
def batchVariable : String := "JOBQUERY_BATCH_HYDRATION"

/-- Settings from the variables of the environment. -/
def ofVariables (valueOf? : String → Option String) : Checked Settings :=
  let given := variableNames.filterMap fun v =>
    match valueOf? v.2 with
    | some "" => none
    | some s => some (v.1, Json.text s)
    | none => none
  let batch := Text.lower ((valueOf? batchVariable).getD "false") == "true"
  read (.object (given ++ [("batch_hydration", .bool batch)]))

end Settings

/-- Where a dataset comes from. -/
inductive Location where
  | file (path : String)
  | server (url : String) (timeout : Float)

/-- Text that is there and not empty. -/
def given? : Option String → Option String
  | some "" => none
  | other => other

/-- Where the dataset comes from; a file goes before a server. -/
def Settings.location (s : Settings) : Except Fault Location :=
  match given? s.datasetFile, given? s.datasetUrl with
  | some path, _ => .ok (.file (plainPath path))
  | none, some base => .ok (.server (JobSearch.datasetUrl base s.datasetPath) s.fetchTimeout)
  | none, none => .error .noLocation

end JobSearch
