import JobSearch.Query.Facets
import JobSearch.Report.Render

/-!
# Standing reports

Eight reports come with the library: numbers of postings and mean salaries by experience, by
place, by kind of work and so on. A standing report is given by what it shows, so that it has
both a template and a meaning.

## Main definitions

* `StandingReport` — with `template`, `report` and `statement`.
* `StandingReport.all` — the eight reports.
-/

namespace JobSearch

open Query

/-- A report given by what it shows. The first column is the one that rows are grouped by. -/
structure StandingReport where
  name : String
  description : String
  category : String
  chart : String
  /-- The fields whose labels are shown. -/
  fields : List Field
  /-- What a row stands for. -/
  group : Output
  /-- The figures of a row. -/
  figures : List Output
  /-- The tables joined besides those of the fields. -/
  joins : List Join
  /-- The columns that must hold something. -/
  present : List Column
  order : List SortTerm
  limit : Option Nat

namespace StandingReport

/-- What rows are grouped by as text: a column as it is, anything else by its name. -/
def groupText (o : Output) : String :=
  match o.expression with
  | .column c => c.text
  | _ => o.name

/-- The columns of the result. -/
def outputs (r : StandingReport) : List Output := r.group :: r.figures

/-- The conditions of the report itself. -/
def required (r : StandingReport) : List Term := r.present.map .present

/-- The order as text; a choice among labels starts on a line of its own. -/
def orderText : List SortTerm → String
  | [⟨.ranked name labels, _⟩] => "ORDER BY\n    " ++ (SortKey.ranked name labels).text
  | terms => "ORDER BY " ++ ", ".intercalate (terms.map SortTerm.text)

/-- The lines of the template. -/
def lines (r : StandingReport) : List String :=
  ["SELECT\n    " ++ ",\n    ".intercalate (r.outputs.map Output.text)] ++
    [(Source.mk postingTable postingQualifier []).head] ++ r.joins.map Join.text ++
    [joinsGap] ++
    (if r.present.isEmpty then [whereGap]
      else ["WHERE " ++ " AND ".intercalate (r.required.map Condition.text), andWhereGap]) ++
    ["GROUP BY " ++ groupText r.group, orderText r.order] ++
    (match r.limit with
      | none => []
      | some n => ["LIMIT " ++ Number.natText n])

/-- The template. -/
def template (r : StandingReport) : String := String.join (r.lines.map (· ++ "\n"))

/-- A standing report as a report. -/
def report (r : StandingReport) : Report :=
  { name := r.name
    description := r.description
    category := r.category
    chart := r.chart
    joins := r.fields.map Field.key
    template := r.template }

/-- What a standing report means under a predicate. -/
def statement (r : StandingReport) (p : Predicate) : Statement :=
  { outputs := r.outputs
    source :=
      ⟨postingTable, postingQualifier, r.joins ++ Report.joinsWith (lookupJoins r.fields) p⟩
    condition := Condition.all? (r.required ++ (p.condition.map Condition.grouped).toList)
    grouping := .keyed r.group.expression
    order := r.order
    window := match r.limit with
      | none => .all
      | some n => .first n }

/-! ### The reports -/

/-- The number of postings. -/
def jobCount : Output := ⟨.countDistinct postingId, "job_count"⟩

/-- The mean of the lower ends of the salaries. -/
def meanMinSalary : Output :=
  ⟨.roundedMean (postingColumn "min_salary") (postingColumn rowNumber), "avg_min_salary"⟩

/-- The mean of the upper ends of the salaries, added in the order of a column. -/
def meanMaxSalaryBy (place : Column) : Output :=
  ⟨.roundedMean (postingColumn "max_salary") place, "avg_max_salary"⟩

/-- The mean of the upper ends of the salaries. -/
def meanMaxSalary : Output := meanMaxSalaryBy (postingColumn rowNumber)

/-- The most frequent first, and those of equal number by name. -/
def byCount (name : String) : List SortTerm :=
  [⟨.output jobCount.name, .descending⟩, ⟨.output name, .ascending⟩]

/-- The labels of buckets in order, the last one apart. -/
def byBucket (name : String) (buckets : List Bucket) : List SortTerm :=
  [⟨.ranked name (buckets.map (·.label)), .unspoken⟩]

/-- The levels of experience below the highest. -/
def experienceLevels : List Bucket := [
  ⟨.equals 0, "Entry Level (0 years)"⟩, ⟨.between 1 2, "Junior (1-2 years)"⟩,
  ⟨.between 3 5, "Mid-Level (3-5 years)"⟩, ⟨.between 6 10, "Senior (6-10 years)"⟩]

/-- Salaries by level of experience. -/
def experience : StandingReport :=
  { name := "Salary Insights by Experience"
    description := "See how salary varies by experience level to guide career expectations"
    category := "salary"
    chart := "bar"
    fields := []
    group :=
      ⟨.bucket (postingColumn "experience_years") experienceLevels "Expert (10+ years)",
        "experience_level"⟩
    figures := [jobCount, meanMinSalary, meanMaxSalary]
    joins := []
    present := [postingColumn "experience_years", postingColumn "max_salary"]
    order := byBucket "experience_level" experienceLevels
    limit := none }

/-- Work on site, at home, or both. -/
def flexibility : StandingReport :=
  { name := "Work Flexibility Options"
    description := "Compare remote, hybrid, and office work opportunities"
    category := "work_arrangement"
    chart := "pie"
    fields := [.remoteWork]
    group := ⟨.orElse Field.remoteWork.labelColumn "Not Specified", "work_arrangement"⟩
    figures := [jobCount, meanMaxSalary]
    joins := []
    present := []
    order := byCount "work_arrangement"
    limit := none }

/-- The cities with the most postings. -/
def locations : StandingReport :=
  { name := "Job Opportunities by Location"
    description := "Explore which cities have the most opportunities"
    category := "location"
    chart := "bar"
    fields := [.city]
    group := ⟨.column Field.city.labelColumn, "city"⟩
    figures := [jobCount, meanMaxSalary]
    joins := []
    present := [Field.city.labelColumn]
    order := byCount "city"
    limit := some 15 }

/-- The industries with the most postings. -/
def industries : StandingReport :=
  { name := "Industries Hiring Most"
    description := "Discover which industries are actively hiring"
    category := "industry"
    chart := "bar"
    fields := [.industry]
    group := ⟨.orElse Field.industry.labelColumn "Various Industries", "industry"⟩
    figures := [jobCount, meanMaxSalary]
    joins := []
    present := []
    order := byCount "industry"
    limit := some 15 }

/-- Postings with a salary by kind of employment. -/
def employment : StandingReport :=
  { name := "Employment Type Comparison"
    description := "See breakdown of full-time, part-time, and contract positions"
    category := "work_arrangement"
    chart := "pie"
    fields := [.employmentType]
    group := ⟨.orElse Field.employmentType.labelColumn "Not Specified", "employment_type"⟩
    figures := [jobCount, meanMaxSalary]
    joins := []
    present := [postingColumn "max_salary"]
    order := byCount "employment_type"
    limit := none }

/-- The companies with the most postings. -/
def companies : StandingReport :=
  { name := "Top Hiring Companies"
    description := "See which companies are actively recruiting"
    category := "company"
    chart := "bar"
    fields := [.company]
    group := ⟨.column Field.company.labelColumn, "company"⟩
    figures := [jobCount, meanMaxSalary]
    joins := []
    present := [Field.company.labelColumn]
    order := byCount "company"
    limit := some 20 }

/-- The ranges of salaries below the highest. -/
def salaryRanges : List Bucket := [
  ⟨.below 15000, "Under 15k MDL"⟩, ⟨.below 25000, "15k-25k MDL"⟩,
  ⟨.below 35000, "25k-35k MDL"⟩, ⟨.below 50000, "35k-50k MDL"⟩]

/-- Postings by range of salary. -/
def salaries : StandingReport :=
  { name := "Salary Range Distribution"
    description := "Understand the market salary ranges"
    category := "salary"
    chart := "bar"
    fields := []
    group := ⟨.bucket (postingColumn "max_salary") salaryRanges "50k+ MDL", "salary_range"⟩
    figures := [jobCount]
    joins := []
    present := [postingColumn "max_salary"]
    order := byBucket "salary_range" salaryRanges
    limit := none }

/-- The label of a skill. -/
def skillLabel : Column := ⟨"hs", "name"⟩

/-- The skills that the most postings ask for. -/
def skills : StandingReport :=
  { name := "Most In-Demand Skills"
    description := "See which skills employers are looking for"
    category := "skills"
    chart := "bar"
    fields := []
    group := ⟨.column skillLabel, "skill"⟩
    figures := [jobCount, meanMaxSalaryBy ⟨"jhs", rowNumber⟩]
    joins := [
      ⟨.inner, "job_details_hard_skills", "jhs", ⟨"jhs", "job_details_id"⟩, postingId⟩,
      ⟨.inner, "hard_skills", "hs", ⟨"hs", "id"⟩, ⟨"jhs", "hard_skills_id"⟩⟩]
    present := []
    order := byCount "skill"
    limit := some 20 }

/-- The standing reports, in the order in which they are listed. -/
def all : List StandingReport :=
  [experience, flexibility, locations, industries, employment, companies, salaries, skills]

end StandingReport

end JobSearch
