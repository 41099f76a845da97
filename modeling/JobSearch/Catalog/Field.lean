/-!
# The fields of a posting

A posting carries labels in a fixed set of fields. A field's labels are stored in one of three
ways: the posting refers to one row of a table of labels; a table of labels refers to the
posting; or a table of pairs connects postings with the rows of a table of labels. The entry
of a field names the tables and columns, the qualifier that statements use for its labels, and
the name shown to people. Every table and column name in a statement comes from here.

## Main definitions

* `Field` — the fields, in catalog order.
* `Shape`, `Entry`, `Field.entry` — how a field's labels are stored.
* `Field.ofKey?` — the field of a key.
-/

namespace JobSearch

/-- The table of postings. -/
def postingTable : String := "job_details"

/-- The qualifier of the table of postings. -/
def postingQualifier : String := "jd"

/-- The fields of a posting. -/
inductive Field where
  | title
  | jobFunction
  | specialization
  | seniorityLevel
  | industry
  | department
  | jobFamily
  | company
  | companySize
  | city
  | region
  | country
  | remoteWork
  | employmentType
  | contractType
  | workSchedule
  | shiftDetails
  | travelRequired
  | educationLevel
  | salaryCurrency
  | salaryPeriod
  | languages
  | responsibilities
  | hardSkills
  | softSkills
  | certifications
  | licensesRequired
  | benefits
  | workEnvironment
  | professionalDevelopment
  | workLifeBalance
  | physicalRequirements
  | workConditions
  | specialRequirements
  deriving DecidableEq

/-- How the labels of a field belong to postings. -/
inductive Shape where
  /-- A posting has at most one label: its column `foreignKey` refers to a row of the table. -/
  | lookup
  /-- A posting has any number of labels: the column `foreignKey` of the table refers to it. -/
  | children
  /-- A posting has any number of labels: the table `pairs` has a row for each, with the posting
  in the column `owner` and a row of the label table in the column `foreignKey`. -/
  | junction (pairs owner : String)
  deriving DecidableEq

/-- Where a field's labels are stored and what they are called. -/
structure Entry where
  key : String
  shape : Shape
  table : String
  labelColumn : String
  foreignKey : String
  qualifier : String
  /-- The name shown to people. -/
  title : String
  /-- Whether postings can be filtered by the field. -/
  filterable : Bool
  deriving DecidableEq

namespace Entry

/-- A field that postings can be filtered by, with one row of a table for each label. -/
def lookup (key table foreignKey qualifier title : String) : Entry :=
  ⟨key, .lookup, table, "name", foreignKey, qualifier, title, true⟩

/-- A field whose labels refer to the posting. -/
def children (key table labelColumn title : String) (filterable : Bool) : Entry :=
  ⟨key, .children, table, labelColumn, "job_detail_id", key ++ "_o2m", title, filterable⟩

/-- A field whose labels are connected with postings by pairs. -/
def junction (key table title labelColumn : String) : Entry :=
  ⟨key, .junction (postingTable ++ "_" ++ table) "job_details_id", table, labelColumn,
    table ++ "_id", key ++ "_m2m", title, true⟩

end Entry

namespace Field

/-- The entry of a field. -/
def entry : Field → Entry
  | title => .lookup "title" "titles" "title_id" "t" "Job Title"
  | jobFunction => .lookup "job_function" "job_functions" "job_function_id" "jf" "Job Function"
  | specialization =>
    .lookup "specialization" "specializations" "specialization_id" "sp" "Specialization"
  | seniorityLevel =>
    .lookup "seniority_level" "seniority_levels" "seniority_level_id" "sl" "Seniority Level"
  | industry => .lookup "industry" "industries" "industry_id" "ind" "Industry"
  | department => .lookup "department" "departments" "department_id" "d" "Department"
  | jobFamily => .lookup "job_family" "job_families" "job_family_id" "jf2" "Job Family"
  | company => .lookup "company" "companies" "company_name_id" "c" "Company"
  | companySize => .lookup "company_size" "company_sizes" "company_size_id" "cs" "Company Size"
  | city => .lookup "city" "cities" "city_id" "ci" "City"
  | region => .lookup "region" "regions" "region_id" "reg" "Region"
  | country => .lookup "country" "countries" "country_id" "cou" "Country"
  | remoteWork => .lookup "remote_work" "remote_work_options" "remote_work_id" "rw" "Remote Work"
  | employmentType =>
    .lookup "employment_type" "employment_types" "employment_type_id" "et" "Employment Type"
  | contractType => .lookup "contract_type" "contract_types" "contract_type_id" "ct" "Contract Type"
  | workSchedule => .lookup "work_schedule" "work_schedules" "work_schedule_id" "ws" "Work Schedule"
  | shiftDetails => .lookup "shift_details" "shift_details" "shift_details_id" "sd" "Shift Details"
  | travelRequired =>
    .lookup "travel_required" "travel_requirements" "travel_required_id" "tr" "Travel Required"
  | educationLevel =>
    .lookup "education_level" "education_levels" "required_education_id" "el" "Education Level"
  | salaryCurrency =>
    ⟨"salary_currency", .lookup, "currencies", "code", "salary_currency_id", "curr",
      "Currency", false⟩
  | salaryPeriod =>
    ⟨"salary_period", .lookup, "salary_periods", "name", "salary_period_id", "sper",
      "Salary Period", false⟩
  | languages => .children "languages" "job_languages" "language" "Languages" true
  | responsibilities =>
    .children "responsibilities" "responsibilities" "description" "Responsibilities" false
  | hardSkills => .junction "hard_skills" "hard_skills" "Hard Skills" "name"
  | softSkills => .junction "soft_skills" "soft_skills" "Soft Skills" "name"
  | certifications => .junction "certifications" "certifications" "Certifications" "name"
  | licensesRequired => .junction "licenses_required" "licenses" "Licenses" "name"
  | benefits => .junction "benefits" "benefits" "Benefits" "description"
  | workEnvironment =>
    .junction "work_environment" "work_environment" "Work Environment"
      "description"
  | professionalDevelopment =>
    .junction "professional_development" "professional_development" "Professional Development"
      "description"
  | workLifeBalance =>
    .junction "work_life_balance" "work_life_balance" "Work-Life Balance"
      "description"
  | physicalRequirements =>
    .junction "physical_requirements" "physical_requirements" "Physical Requirements"
      "description"
  | workConditions => .junction "work_conditions" "work_conditions" "Work Conditions" "description"
  | specialRequirements =>
    .junction "special_requirements" "special_requirements" "Special Requirements"
      "description"

/-- All fields in catalog order. -/
def all : List Field := [
  .title, .jobFunction, .specialization, .seniorityLevel, .industry, .department, .jobFamily,
  .company, .companySize, .city, .region, .country, .remoteWork, .employmentType, .contractType,
  .workSchedule, .shiftDetails, .travelRequired, .educationLevel, .salaryCurrency,
  .salaryPeriod, .languages, .responsibilities, .hardSkills, .softSkills, .certifications,
  .licensesRequired, .benefits, .workEnvironment, .professionalDevelopment, .workLifeBalance,
  .physicalRequirements, .workConditions, .specialRequirements]

/-- The key of a field. -/
def key (f : Field) : String := f.entry.key

/-- The place of a field in the catalog. -/
def position (f : Field) : Nat := all.idxOf f

/-- The field of a key. -/
def ofKey? (key : String) : Option Field := all.find? fun f => f.key == key

/-- Whether a posting may have several labels in a field. -/
def isMultiValued (f : Field) : Bool := f.entry.shape != .lookup

/-- The fields that postings can be filtered by. -/
def filterable : List Field := all.filter fun f => f.entry.filterable

/-- Every field is in the catalog. -/
theorem mem_all (f : Field) : f ∈ all := by cases f <;> decide

end Field

end JobSearch
