import JobSearch.Catalog.Field

/-!
# What is searched, sorted by and shown

The columns and fields that free text is looked for in, the orders in which postings can be
listed, the bounds on numbers, and the columns of a posting that are shown.

## Main definitions

* `Bound` — the four bounds on numbers.
* `SortChoice` — the orders of a list of postings.
* `searchColumns`, `searchFields` — where free text is looked for.
* `displayFields`, `displayColumns`, `convertedColumns`, `attachedFields` — what is shown.
-/

namespace JobSearch

/-! ### Bounds -/

/-- The quantities of a posting that can be bounded. -/
inductive Quantity where
  | salary
  | experience
  deriving DecidableEq

/-- A bound on a quantity. -/
inductive Bound where
  | salaryMin
  | salaryMax
  | experienceMin
  | experienceMax
  deriving DecidableEq

namespace Bound

/-- The bounds, in the order in which they are written. -/
def all : List Bound := [.salaryMin, .salaryMax, .experienceMin, .experienceMax]

/-- The key of a bound. -/
def key : Bound → String
  | salaryMin => "salary_min"
  | salaryMax => "salary_max"
  | experienceMin => "experience_min"
  | experienceMax => "experience_max"

/-- The quantity that is bounded. -/
def quantity : Bound → Quantity
  | salaryMin | salaryMax => .salary
  | experienceMin | experienceMax => .experience

/-- The column that is compared with the bound. -/
def column : Bound → String
  | salaryMin => "min_salary"
  | salaryMax => "max_salary"
  | experienceMin | experienceMax => "experience_years"

/-- Whether the bound is a lower one. -/
def isLower : Bound → Bool
  | salaryMin | experienceMin => true
  | salaryMax | experienceMax => false

end Bound

/-- The name of a quantity. -/
def Quantity.key : Quantity → String
  | salary => "salary"
  | experience => "experience"

/-! ### Orders -/

/-- An order in which postings are listed. -/
inductive SortChoice where
  | dateDescending
  | dateAscending
  | salaryDescending
  | salaryAscending
  | titleAscending
  | titleDescending
  | companyAscending
  | companyDescending
  deriving DecidableEq

namespace SortChoice

/-- All orders; the first one is the default. -/
def all : List SortChoice := [
  .dateDescending, .dateAscending, .salaryDescending, .salaryAscending, .titleAscending,
  .titleDescending, .companyAscending, .companyDescending]

/-- The key of an order. -/
def key : SortChoice → String
  | dateDescending => "date_desc"
  | dateAscending => "date_asc"
  | salaryDescending => "salary_desc"
  | salaryAscending => "salary_asc"
  | titleAscending => "title_asc"
  | titleDescending => "title_desc"
  | companyAscending => "company_asc"
  | companyDescending => "company_desc"

/-- The field whose labels are sorted by, if the order is not by a column of the posting. -/
def field? : SortChoice → Option Field
  | titleAscending | titleDescending => some .title
  | companyAscending | companyDescending => some .company
  | _ => none

/-- The column of the posting that is sorted by, if the order is not by a field. -/
def postingColumn : SortChoice → String
  | salaryDescending | salaryAscending => "min_salary"
  | _ => "posting_date"

/-- Whether an order is descending. -/
def isDescending : SortChoice → Bool
  | dateDescending | salaryDescending | titleDescending | companyDescending => true
  | _ => false

/-- The order of a key; no key and an unknown key mean newest first. -/
def ofKey (key : Option String) : SortChoice :=
  match key with
  | none => .dateDescending
  | some k => (all.find? fun s => s.key == k).getD .dateDescending

end SortChoice

/-! ### Search -/

/-- The columns of a posting that free text is looked for in. -/
def searchColumns : List String := ["job_title"]

/-- The fields whose labels free text is looked for in. -/
def searchFields : List Field := [.title, .company, .jobFunction, .specialization]

/-! ### Display -/

/-- The fields whose label is shown with a posting, in the order of the columns. -/
def displayFields : List Field := [
  .title, .jobFunction, .specialization, .seniorityLevel, .company, .companySize, .city,
  .region, .country, .remoteWork, .salaryCurrency, .salaryPeriod, .employmentType,
  .contractType, .workSchedule, .educationLevel, .industry, .department, .jobFamily,
  .shiftDetails, .travelRequired]

/-- The columns of a posting that are shown, each with the name it is shown under. -/
def displayColumns : List (String × String) := [
  ("min_salary", "min_salary"), ("max_salary", "max_salary"),
  ("experience_years", "experience_years"), ("posting_date", "posting_date"),
  ("site", "site"), ("job_url", "job_url"), ("job_title", "original_title"),
  ("company_name", "original_company"), ("job_description", "original_description")]

/-- The columns of converted salaries, shown only if the dataset has both. -/
def convertedColumns : List String := ["min_salary_mdl", "max_salary_mdl"]

/-- The fields with several labels that are attached to a posting. -/
def attachedFields : List Field := [
  .hardSkills, .softSkills, .certifications, .benefits, .responsibilities, .languages,
  .workEnvironment, .professionalDevelopment]

end JobSearch
