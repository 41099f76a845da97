import JobSearch.Catalog.Resolve
import JobSearch.Dataset.Image.Fault
import JobSearch.Dataset.LoadFailure
import JobSearch.Query.Limits
import JobSearch.Record.Checked
import JobSearch.Relation.Cell

/-!
# Faults

Why a request has no answer. Each cause carries what its words need.

## Main definitions

* `Fault`, `Fault.message`.
-/

namespace JobSearch

/-- Which figure was asked for. -/
inductive Figure where
  | summary
  | percentile
  | mode
  deriving DecidableEq

/-- The name of a figure. -/
def Figure.name : Figure → String
  | summary => "summarize()"
  | percentile => "percentile()"
  | mode => "mode()"

/-- Why a request has no answer. -/
inductive Fault where
  | unknownField (u : UnknownField)
  /-- A table that a statement reads is missing. -/
  | missingTable (table statement : String) (params : List Cell)
  /-- A column that a statement names is missing. -/
  | missingColumn (column statement : String) (params : List Cell)
  /-- The image of the dataset begins like a database but cannot be read. -/
  | unreadableImage (why : ImageFault) (statement : String) (params : List Cell)
  /-- A statement is beyond the limits of the engine. -/
  | beyondLimits (why : Query.Excess) (statement : String) (params : List Cell)
  /-- The columns of a table cannot be told, as the image cannot be read. -/
  | unreadableSchema (why : ImageFault)
  /-- A result would show text that is stored as bytes which are none. -/
  | undecodable (column : String) (bytes : List UInt8) (statement : String) (params : List Cell)
  | loadFailed (f : LoadFailure)
  | notLoaded
  /-- A load was cancelled before it ended. -/
  | cancelled
  | violations (vs : List Violation)
  | pageBelowOne (page : Int)
  | pageSizeBelowOne (size : Int)
  /-- The labels of a field with at most one label were asked for by posting. -/
  | singleValued (key : String)
  /-- The labels of no posting at all were asked for. -/
  | noOwners
  | unknownPolicy (value : Json)
  | unknownBound (key : String)
  | notReal (text : String)
  | notInteger (text : String)
  /-- Text has more digits than an integer may have. -/
  | tooManyDigits (digits : Nat)
  /-- A value that is neither finite nor text stands for an integer. -/
  | notFinite
  /-- A figure of no values was asked for. -/
  | noValues (figure : Figure)
  /-- Infinities of both signs are added. -/
  | opposedInfinities
  | repeatedReports (place : String) (names : List String)
  | unknownReport (name : String)
  /-- A file of reports cannot be read. -/
  | unreadableReports
  /-- Neither a dataset file nor a server is named. -/
  | noLocation
  | absentMember (key : String)
  | malformedFilter (item : String)
  /-- No file can be opened at a path. -/
  | unopened (path : String)
  /-- A value of a kind that the request cannot use. -/
  | wrongKind
  /-- A document is read by key but is no object. -/
  | notAnObject
  /-- A number does not fit. -/
  | overflow
  /-- A position lies behind the end. -/
  | pastEnd

/-- Values as they appear inside a message. -/
def Cell.shownAll (cells : List Cell) : String := (Json.list (cells.map Cell.toJson)).shown

/-- The words for a statement that failed. -/
def failedStatement (reason statement : String) (params : List Cell) : String :=
  reason ++ "\nSQL: " ++ Text.trim statement ++ "\nParams: " ++ Cell.shownAll params

/-- How much of the words about text that is none is shown. -/
def undecodableLength : Nat := 198

/-- The words for bytes that are no text, up to the first zero; other characters than those of
one byte are not shown. -/
def undecodableText (column : String) (bytes : List UInt8) : String :=
  let shown := bytes.takeWhile (· ≠ 0)
  let words := "Could not decode to UTF-8 column '" ++ column ++ "' with text '" ++
    String.ofList (shown.map fun b => if b < 128 then Char.ofNat b.toNat else '\uFFFD') ++ "'"
  (words.take undecodableLength).toString

/-- How much of the text that is no integer is shown. -/
def shownLength : Nat := 200

/-- A fault in words. -/
def Fault.message : Fault → String
  | unknownField u => u.message
  | missingTable table statement params =>
    failedStatement ("no such table: " ++ table) statement params
  | missingColumn column statement params =>
    failedStatement ("no such column: " ++ column) statement params
  | unreadableImage why statement params => failedStatement why.message statement params
  | beyondLimits why statement params => failedStatement why.message statement params
  | unreadableSchema why => why.message
  | undecodable column bytes statement params =>
    failedStatement (undecodableText column bytes) statement params
  | loadFailed f => f.message
  | notLoaded => "Dataset not loaded. Await DatasetLoader.load() first."
  | cancelled => "The load was cancelled"
  | violations vs => "\n".intercalate (vs.map fun v => v.refusal.message)
  | pageBelowOne page => "page must be >= 1, got " ++ Number.intText page
  | pageSizeBelowOne size => "page_size must be >= 1, got " ++ Number.intText size
  | singleValued key =>
    Text.quoted key ++ " is single-valued and is resolved by the join graph"
  | noOwners => "attribute_query needs at least one entity id"
  | unknownPolicy value => value.shown ++ " is not a valid CombinePolicy"
  | unknownBound key =>
    "Unknown range bound " ++ Text.quoted key ++
      "; expected one of ('salary_min', 'salary_max', 'experience_min', 'experience_max')"
  | notReal text => "could not convert string to float: " ++ Text.quoted text
  | notInteger text =>
    "invalid literal for int() with base 10: " ++ (Text.quoted text).take shownLength
  | tooManyDigits digits =>
    "Exceeds the limit (" ++ Number.natText Number.digitLimit ++
      " digits) for integer string conversion: value has " ++ Number.natText digits ++
      " digits; use sys.set_int_max_str_digits() to increase the limit"
  | notFinite => "cannot convert float NaN to integer"
  | noValues figure => figure.name ++ " needs at least one value"
  | opposedInfinities => "-inf + inf in fsum"
  | repeatedReports place names =>
    "Duplicate analysis names in " ++ place ++ ": " ++ ", ".intercalate names
  | unreadableReports => "The file of reports cannot be read"
  | unknownReport name => Text.quoted ("No analysis named " ++ Text.quoted name)
  | noLocation => "Set JOBQUERY_DATASET_FILE or JOBQUERY_DATASET_URL to locate the dataset"
  | absentMember key => Text.quoted key
  | malformedFilter item => "Filters must look like field=value, got " ++ Text.quoted item
  | unopened path => (pathFault path).message path
  | wrongKind => "The value is of the wrong kind"
  | notAnObject => "The document is not an object"
  | overflow => "The number is too large"
  | pastEnd => "The position lies behind the end"

/-- A value, or the fault that its violations are. -/
def Checked.toExcept {α : Type} : Checked α → Except Fault α
  | valid a => .ok a
  | invalid vs => .error (.violations vs)

end JobSearch
