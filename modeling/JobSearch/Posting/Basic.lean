import JobSearch.Posting.Salary

/-!
# Postings

A posting as it is shown: its labels and columns, grouped by what they are about, and the
lists of labels attached to it.

## Main definitions

* `Posting` — a posting and its parts.
* `Posting.toJson` — a posting as a document.
-/

namespace JobSearch

namespace Posting

/-- Where the work is done. -/
structure Location where
  city : Option String
  region : Option String
  country : Option String
  remoteWork : Option String

/-- The terms of employment. -/
structure Employment where
  kind : Option String
  contract : Option String
  schedule : Option String

/-- What is asked of an applicant. -/
structure Requirements where
  education : Option String
  experienceYears : Option Float
  languages : List String
  hardSkills : List String
  softSkills : List String
  certifications : List String

/-- Where a posting was found. -/
structure Origin where
  site : Option String
  url : Option String

/-- What was read out of the description. -/
structure Details where
  responsibilities : List String
  workEnvironment : List String
  professionalDevelopment : List String

/-- The words of the posting itself. -/
structure Wording where
  title : Option String
  company : Option String
  description : Option String

end Posting

/-- A posting as it is shown. -/
structure Posting where
  id : Int
  title : Option String
  jobFunction : Option String
  specialization : Option String
  seniorityLevel : Option String
  company : Option String
  companySize : Option String
  location : Posting.Location
  salary : Salary
  employment : Posting.Employment
  requirements : Posting.Requirements
  benefits : List String
  postingDate : Option String
  origin : Posting.Origin
  details : Posting.Details
  wording : Posting.Wording
  industry : Option String
  department : Option String
  jobFamily : Option String
  shiftDetails : Option String
  travelRequirements : Option String

namespace Posting

/-- A location as a document. -/
def Location.toJson (l : Location) : Json :=
  .object [
    ("city", .ofText? l.city), ("region", .ofText? l.region), ("country", .ofText? l.country),
    ("remote_work", .ofText? l.remoteWork)]

/-- The terms of employment as a document. -/
def Employment.toJson (e : Employment) : Json :=
  .object [
    ("type", .ofText? e.kind), ("contract", .ofText? e.contract),
    ("schedule", .ofText? e.schedule)]

/-- Requirements as a document. -/
def Requirements.toJson (r : Requirements) : Json :=
  .object [
    ("education", .ofText? r.education), ("experience_years", .ofReal? r.experienceYears),
    ("languages", .texts r.languages), ("hard_skills", .texts r.hardSkills),
    ("soft_skills", .texts r.softSkills), ("certifications", .texts r.certifications)]

/-- An origin as a document. -/
def Origin.toJson (o : Origin) : Json :=
  .object [("site", .ofText? o.site), ("url", .ofText? o.url)]

/-- Details as a document. -/
def Details.toJson (d : Details) : Json :=
  .object [
    ("responsibilities", .texts d.responsibilities),
    ("work_environment", .texts d.workEnvironment),
    ("professional_development", .texts d.professionalDevelopment)]

/-- The words of a posting as a document. -/
def Wording.toJson (w : Wording) : Json :=
  .object [
    ("original_title", .ofText? w.title), ("original_company", .ofText? w.company),
    ("original_description", .ofText? w.description)]

/-- The members of a posting as a document. -/
def members (p : Posting) : List (String × Json) := [
  ("id", .int p.id), ("title", .ofText? p.title), ("job_function", .ofText? p.jobFunction),
  ("specialization", .ofText? p.specialization),
  ("seniority_level", .ofText? p.seniorityLevel), ("company", .ofText? p.company),
  ("company_size", .ofText? p.companySize), ("location", p.location.toJson),
  ("salary", p.salary.toJson), ("employment", p.employment.toJson),
  ("requirements", p.requirements.toJson), ("benefits", .texts p.benefits),
  ("posting_date", .ofText? p.postingDate), ("source", p.origin.toJson),
  ("parsed_view", p.details.toJson), ("raw", p.wording.toJson),
  ("industry", .ofText? p.industry), ("department", .ofText? p.department),
  ("job_family", .ofText? p.jobFamily), ("shift_details", .ofText? p.shiftDetails),
  ("travel_requirements", .ofText? p.travelRequirements)]

/-- A posting as a document. -/
def toJson (p : Posting) : Json := .object p.members

end Posting

end JobSearch
