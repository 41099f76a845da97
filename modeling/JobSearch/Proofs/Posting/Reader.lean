import JobSearch.Posting.Reader
import JobSearch.Proofs.Ordered
import JobSearch.Proofs.Number.Rounding
import JobSearch.Proofs.Record.Checked

/-!
# Reading typed rows

A row whose columns hold what they should is read without a fault: text or null where text is
read, a number of the storage or null where a number is, and lists of texts attached to it. The
posting then has the id of the row (`Posting.read_eq_ok`).

## Main definitions

* `Json.IsText`, `Json.IsNumber` — the values of typed columns.
* `Posting.Typed` — a row whose columns hold what is read from them.
-/

namespace JobSearch

/-! ### Typed values -/

namespace Json

/-- The value is text or null. -/
def IsText (v : Json) : Prop := v = null ∨ ∃ s, v = text s

/-- The value is an integer that fits the storage, a double or null. -/
def IsNumber (v : Json) : Prop :=
  v = null ∨ (∃ n, v = int n ∧ (Cell.int n).fits = true) ∨ ∃ x, v = real x

/-- An integer of the storage has a nearest double. -/
theorem exists_ofInt? {n : Int} (h : (Cell.int n).fits = true) :
    ∃ x, Number.ofInt? n = some x := by
  rcases eq_or_ne n 0 with rfl | hn
  · exact ⟨_, rfl⟩
  · have hbound : n.natAbs ≤ Number.twoTo 63 := by
      rw [Cell.fits, Bool.and_eq_true, decide_eq_true_iff, decide_eq_true_iff] at h
      omega
    have hlt : ((n.natAbs : Nat) : ℚ) / (1 : Nat) < 2 ^ (1000 : ℤ) := by
      rw [Nat.cast_one, div_one]
      calc ((n.natAbs : Nat) : ℚ) ≤ (Number.twoTo 63 : Nat) := by exact_mod_cast hbound
        _ = 2 ^ (63 : ℤ) := Number.cast_twoTo 63
        _ < 2 ^ (1000 : ℤ) := zpow_lt_zpow_right₀ (by norm_num) (by norm_num)
    obtain ⟨x, hx, -⟩ :=
      Number.exists_ofRatio? (Int.natAbs_pos.mpr hn) Nat.one_pos (decide (n < 0)) hlt
    exact ⟨x, hx⟩

/-- The text of a value. -/
def text? : Json → Option String
  | text s => some s
  | _ => none

/-- The number of a value, as a double. -/
def real? : Json → Option Float
  | int n => Number.ofInt? n
  | real x => some x
  | _ => none

theorem IsText.readOptional {v : Json} (h : v.IsText) : v.readOptional readText = .ok v.text? := by
  rcases h with rfl | ⟨s, rfl⟩ <;> rfl

theorem IsNumber.readOptional {v : Json} (h : v.IsNumber) :
    v.readOptional readReal = .ok v.real? := by
  rcases h with rfl | ⟨n, rfl, hn⟩ | ⟨x, rfl⟩
  · rfl
  · obtain ⟨x, hx⟩ := exists_ofInt? hn
    simp only [Json.readOptional, readReal, real?, hx]
    rfl
  · rfl

end Json

/-- A list of texts is read. -/
theorem Json.readTexts_map (place : List String) (ts : List String) :
    (Json.list (ts.map text)).readTexts place = .valid ts := by
  have hitems : ((ts.map text).mapIdx fun i v =>
      Checked.ofExcept (place ++ [Number.natText i]) v.readText) = ts.map Checked.valid := by
    refine List.ext_getElem (by simp) fun i _ _ => ?_
    simp [readText, Checked.ofExcept]
  rw [readTexts, hitems, Checked.all_valid]

/-! ### Typed rows -/

namespace Posting

/-- The columns of a row from which numbers are read. -/
def numberColumns : List String :=
  ["min_salary", "max_salary", "min_salary_mdl", "max_salary_mdl", "experience_years"]

/-- A row with an id whose columns hold what is read from them. -/
structure Typed (row : Json) (id : Int) : Prop where
  id : row.member? "id" = some (.int id)
  texts : ∀ name, name ≠ "id" → name ∉ numberColumns → (column row name).IsText
  numbers : ∀ name ∈ numberColumns, (column row name).IsNumber

variable {row : Json} {id : Int}

theorem Typed.readId (h : Typed row id) : readId row = .ok id := by
  rw [Posting.readId, h.id]
  rfl

theorem Typed.textPart (h : Typed row id) (part : String) {name : String} (hid : name ≠ "id")
    (hname : name ∉ numberColumns) :
    Checked.ofExcept [part] ((column row name).readOptional Json.readText) =
      .valid (column row name).text? := by
  rw [(h.texts name hid hname).readOptional]
  rfl

theorem Typed.numberPart (h : Typed row id) (part : String) {name : String}
    (hname : name ∈ numberColumns) :
    Checked.ofExcept [part] ((column row name).readOptional Json.readReal) =
      .valid (column row name).real? := by
  rw [(h.numbers name hname).readOptional]
  rfl

/-- Lists of texts are attached under some keys. -/
def Attached (attached : List (String × Json)) : Prop :=
  ∀ p ∈ attached, ∃ ts : List String, p.2 = .list (ts.map .text)

theorem Attached.items {attached : List (String × Json)} (h : Attached attached) (key : String) :
    ∃ ts : List String, attachedItems (.object attached) key = .ok (ts.map .text) := by
  rw [attachedItems, Json.member?]
  cases hfind : Ordered.find? key attached with
  | none => exact ⟨[], rfl⟩
  | some v =>
    obtain ⟨ts, hts⟩ := h _ (Ordered.mem_of_find?_eq_some hfind)
    obtain rfl : v = .list (ts.map .text) := hts
    exact ⟨ts, rfl⟩

theorem Typed.salary (h : Typed row id) :
    ∃ s, Salary.read (fun part => column row (salaryColumn part)) = .valid s := by
  simp (disch := decide) only [Salary.read, salaryColumn, h.textPart, h.numberPart,
    Checked.map_valid, Checked.seq_valid, Checked.valid.injEq, exists_eq']

theorem Typed.requirements (h : Typed row id) {attached : List (String × Json)}
    (ha : Attached attached) : ∃ r, Requirements.read row (.object attached) = .ok r := by
  choose ts hts using ha.items
  simp (disch := decide) only [Requirements.read, hts, bind, Except.bind, Posting.textPart,
    h.textPart, h.numberPart, Json.readTexts_map, Checked.map_valid, Checked.seq_valid,
    Checked.toExcept, Except.ok.injEq, exists_eq']

theorem Attached.details {attached : List (String × Json)} (ha : Attached attached) :
    ∃ d, Details.read (.object attached) = .ok d := by
  choose ts hts using ha.items
  simp only [Details.read, hts, bind, Except.bind, Json.readTexts_map, Checked.map_valid,
    Checked.seq_valid, Checked.toExcept, Except.ok.injEq, exists_eq']

/-- A typed row with lists of texts is read as a posting with its id. -/
theorem read_eq_ok (h : Typed row id) {attached : List (String × Json)} (ha : Attached attached) :
    ∃ p, Posting.read row (.object attached) = .ok p ∧ p.id = id := by
  obtain ⟨salary, hsalary⟩ := h.salary
  obtain ⟨requirements, hrequirements⟩ := h.requirements ha
  obtain ⟨details, hdetails⟩ := ha.details
  obtain ⟨benefits, hbenefits⟩ := ha.items "benefits"
  simp (disch := decide) only [Posting.read, h.readId, Location.read, Employment.read, Origin.read,
    Wording.read, hsalary, hrequirements, hdetails, hbenefits, ownText, textPart, h.textPart,
    Json.readTexts_map, bind, Except.bind, Checked.map_valid, Checked.seq_valid, Checked.toExcept]
  exact ⟨_, rfl, rfl⟩

end Posting

end JobSearch
