import JobSearch.Fault
import JobSearch.Posting.Basic

/-!
# Reading postings

A posting is assembled from one flat row and the lists attached to it. The parts are checked
one after the other; a part with violations ends the reading. A column that the row does not
have holds nothing, but the row must have an id.

## Main definitions

* `Json.readInteger` — the integer that a value stands for.
* `Posting.read` — the posting of a row.
-/

namespace JobSearch

/-- A number without its fraction. -/
def truncate (q : Rat) : Int := q.num.tdiv q.den

/-- The integer that a value stands for. A number loses its fraction, and text may be written
in the digits of any script. -/
def Json.readInteger : Json → Except Fault Int
  | .int n => .ok n
  | .bool b => .ok (if b then 1 else 0)
  | .real x =>
    match Number.exactValue? x with
    | some q => .ok (truncate q)
    | none => .error (if Number.isNaN x then .notFinite else .overflow)
  | .text s =>
    (Number.readInteger s).mapError fun
      | .unreadable => .notInteger s
      | .tooLong digits => .tooManyDigits digits
  | _ => .error .wrongKind

namespace Posting

/-- The values of a row, null where it has none. -/
def column (row : Json) (name : String) : Json := (row.member? name).getD .null

/-- Text, or nothing, in a column of a row, under the name of a part. -/
def textPart (row : Json) (part name : String) : Checked (Option String) :=
  .ofExcept [part] ((column row name).readOptional Json.readText)

/-- Text, or nothing, in the column that has the name of the part. -/
def ownText (row : Json) (part : String) : Checked (Option String) := textPart row part part

/-- The items attached under a key, none if nothing is. -/
def attachedItems (attached : Json) (key : String) : Except Fault (List Json) :=
  match attached.member? key with
  | none => .ok []
  | some v =>
    match v.elements? with
    | some items => .ok items
    | none => .error .wrongKind

/-- The location of a row. -/
def Location.read (row : Json) : Checked Location :=
  Location.mk <$> ownText row "city" <*> ownText row "region" <*> ownText row "country"
    <*> ownText row "remote_work"

/-- The column of a row that holds a part of the salary. -/
def salaryColumn (part : String) : String :=
  match part with
  | "min" => "min_salary"
  | "max" => "max_salary"
  | "currency" => "salary_currency"
  | "period" => "salary_period"
  | "min_mdl" => "min_salary_mdl"
  | _ => "max_salary_mdl"

/-- The terms of employment of a row. -/
def Employment.read (row : Json) : Checked Employment :=
  Employment.mk <$> textPart row "type" "employment_type"
    <*> textPart row "contract" "contract_type" <*> textPart row "schedule" "work_schedule"

/-- The requirements of a row, with the lists attached to it. -/
def Requirements.read (row attached : Json) : Except Fault Requirements := do
  let languages ← attachedItems attached "languages"
  let hardSkills ← attachedItems attached "hard_skills"
  let softSkills ← attachedItems attached "soft_skills"
  let certifications ← attachedItems attached "certifications"
  Checked.toExcept <|
    Requirements.mk <$> textPart row "education" "education_level"
      <*> .ofExcept ["experience_years"]
        ((column row "experience_years").readOptional Json.readReal)
      <*> (Json.list languages).readTexts ["languages"]
      <*> (Json.list hardSkills).readTexts ["hard_skills"]
      <*> (Json.list softSkills).readTexts ["soft_skills"]
      <*> (Json.list certifications).readTexts ["certifications"]

/-- The origin of a row. -/
def Origin.read (row : Json) : Checked Origin :=
  Origin.mk <$> ownText row "site" <*> textPart row "url" "job_url"

/-- The details attached to a row. -/
def Details.read (attached : Json) : Except Fault Details := do
  let responsibilities ← attachedItems attached "responsibilities"
  let workEnvironment ← attachedItems attached "work_environment"
  let professionalDevelopment ← attachedItems attached "professional_development"
  Checked.toExcept <|
    Details.mk <$> (Json.list responsibilities).readTexts ["responsibilities"]
      <*> (Json.list workEnvironment).readTexts ["work_environment"]
      <*> (Json.list professionalDevelopment).readTexts ["professional_development"]

/-- The words of a row. -/
def Wording.read (row : Json) : Checked Wording :=
  Wording.mk <$> ownText row "original_title" <*> ownText row "original_company"
    <*> ownText row "original_description"

/-- The id of a row. -/
def readId (row : Json) : Except Fault Int :=
  match row.member? "id" with
  | some v => v.readInteger
  | none => .error (.absentMember "id")

/-- The posting of a row, with the lists attached to it. -/
def read (row attached : Json) : Except Fault Posting := do
  let id ← readId row
  let location ← (Location.read row).toExcept
  let salary ← (Salary.read fun part => column row (salaryColumn part)).toExcept
  let employment ← (Employment.read row).toExcept
  let requirements ← Requirements.read row attached
  let benefits ← attachedItems attached "benefits"
  let origin ← (Origin.read row).toExcept
  let details ← Details.read attached
  let wording ← (Wording.read row).toExcept
  Checked.toExcept <|
    Posting.mk id <$> ownText row "title" <*> ownText row "job_function"
      <*> ownText row "specialization" <*> ownText row "seniority_level"
      <*> ownText row "company" <*> ownText row "company_size" <*> pure location
      <*> pure salary <*> pure employment <*> pure requirements
      <*> (Json.list benefits).readTexts ["benefits"] <*> ownText row "posting_date"
      <*> pure origin <*> pure details <*> pure wording <*> ownText row "industry"
      <*> ownText row "department" <*> ownText row "job_family" <*> ownText row "shift_details"
      <*> textPart row "travel_requirements" "travel_required"

end Posting

end JobSearch
