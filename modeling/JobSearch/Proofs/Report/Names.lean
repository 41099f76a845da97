import JobSearch.Proofs.Report.Gaps
import JobSearch.Proofs.Sequence
import Mathlib.Data.String.Basic

/-!
# The names of reports

A document of reports is read entry by entry, and the first entry that is no report decides. If all
entries are reports then their names decide: they are accepted if no two are equal, and each report
is then found by its name (`findNamed_of_mem`). Else the names that occur more than once are told,
each once and in order (`mem_repeatedNames`, `pairwise_repeatedNames`).
-/

namespace JobSearch.Report

/-! ### Names that occur more than once -/

section repeatedNames

variable {names : List String}

theorem mem_repeatedNames {n : String} : n ∈ repeatedNames names ↔ 2 ≤ names.count n := by
  rw [repeatedNames, List.mem_mergeSort, mem_distinct, List.mem_filter, decide_eq_true_iff]
  refine and_iff_right_of_imp fun h => List.count_pos_iff.mp ?_
  omega

theorem repeatedNames_eq_nil_iff : repeatedNames names = [] ↔ names.Nodup := by
  rw [List.eq_nil_iff_forall_not_mem, List.nodup_iff_count_le_one]
  refine forall_congr' fun n => ?_
  rw [mem_repeatedNames]
  omega

/-- Names that occur more than once are told in order, each once. -/
theorem pairwise_repeatedNames : (repeatedNames names).Pairwise (· < ·) := by
  have hsorted : (repeatedNames names).Pairwise fun a b => decide (a ≤ b) = true :=
    List.pairwise_mergeSort (by simpa using fun _ _ _ => le_trans) (by simpa using le_total) _
  have hdistinct : (repeatedNames names).Nodup :=
    (List.mergeSort_perm _ _).nodup_iff.mpr (nodup_distinct _)
  refine (hsorted.and hdistinct).imp fun h => ?_
  exact lt_of_le_of_ne (of_decide_eq_true h.1) h.2

end repeatedNames

/-! ### Finding a report -/

/-- Each of several reports with different names is found by its name. -/
theorem findNamed_of_mem {reports : List Report} (hn : (reports.map (·.name)).Nodup) {r : Report}
    (hr : r ∈ reports) : findNamed (·.name) r.name reports = .ok r := by
  rw [findNamed]
  suffices h : (reports.find? fun s => s.name == r.name) = some r by rw [h]
  induction reports with
  | nil => exact absurd hr List.not_mem_nil
  | cons s rest ih =>
    rw [List.map_cons, List.nodup_cons] at hn
    rcases List.mem_cons.mp hr with rfl | hr
    · exact List.find?_cons_of_pos (beq_self_eq_true _)
    · have hne : s.name ≠ r.name := fun he => hn.1 (he ▸ List.mem_map_of_mem hr)
      rw [List.find?_cons_of_neg (by simpa using hne)]
      exact ih hn.2 hr

/-- Under a name that no report has none is found. -/
theorem findNamed_of_notMem {reports : List Report} {name : String}
    (h : name ∉ reports.map (·.name)) :
    findNamed (·.name) name reports = .error (.unknownReport name) := by
  have hnone : (reports.find? fun s => s.name == name) = none := by
    refine List.find?_eq_none.mpr fun r hr => ?_
    have hne : r.name ≠ name := fun he => h (he ▸ List.mem_map_of_mem hr)
    simpa using hne
  rw [findNamed, hnone]

/-! ### Documents of reports -/

section readAll

variable {document : Json} {items : List Json} (h : entries document = .ok items)
include h

/-- If all entries are reports then their names decide. -/
theorem readAll_of_forall₂ (place : String) {reports : List Report}
    (hreports : List.Forall₂ (fun item r => readEntry item = .ok r) items reports) :
    readAll place document = requireDistinct place reports := by
  have hread : items.mapM readEntry = .ok reports := by
    simpa using mapM_eq_ok (g := id) hreports
  rw [readAll, h]
  show (items.mapM readEntry >>= requireDistinct place) = _
  rw [hread]
  rfl

/-- The first entry that is no report decides. -/
theorem readAll_of_error (place : String) {before after : List Json} {item : Json} {f : Fault}
    (hitems : items = before ++ item :: after) (hbefore : ∀ b ∈ before, ∃ r, readEntry b = .ok r)
    (hf : readEntry item = .error f) : readAll place document = .error f := by
  rw [readAll, h]
  show (items.mapM readEntry >>= requireDistinct place) = _
  rw [hitems, mapM_eq_error hbefore hf]
  rfl

end readAll

/-- Documents of reports are read if and only if no two of the reports have one name. Then the
reports stand in the order of their entries, and each of them, and nothing else, is found by its
name. Else the fault tells the names that occur more than once, each once and in order. An entry
that is no report decides before the names do, the first one if there are several. -/
theorem read_unless_names_repeat (place : String) {document : Json} {items : List Json}
    (h : entries document = .ok items) :
    (∀ reports, List.Forall₂ (fun item r => readEntry item = .ok r) items reports →
      ((∃ rs, readAll place document = .ok rs) ↔ (reports.map (·.name)).Nodup) ∧
      ((reports.map (·.name)).Nodup → readAll place document = .ok reports ∧
        (∀ r ∈ reports, findNamed (·.name) r.name reports = .ok r) ∧
        ∀ name ∉ reports.map (·.name),
          findNamed (·.name) name reports = .error (.unknownReport name)) ∧
      (¬(reports.map (·.name)).Nodup → ∃ names,
        readAll place document = .error (.repeatedReports place names) ∧
        names.Pairwise (· < ·) ∧
        ∀ name, name ∈ names ↔ 2 ≤ (reports.map (·.name)).count name)) ∧
    ∀ before item after f, items = before ++ item :: after →
      (∀ b ∈ before, ∃ r, readEntry b = .ok r) → readEntry item = .error f →
      readAll place document = .error f := by
  refine ⟨fun reports hreports => ?_, fun before item after f hitems hbefore hf =>
    readAll_of_error h place hitems hbefore hf⟩
  rw [readAll_of_forall₂ h place hreports, requireDistinct]
  have hnil : repeatedNames (reports.map (·.name)) = [] ↔ (reports.map (·.name)).Nodup :=
    repeatedNames_eq_nil_iff
  split
  · next hnames =>
    have hn := hnil.mp hnames
    exact ⟨iff_of_true ⟨reports, rfl⟩ hn,
      fun _ => ⟨rfl, fun r hr => findNamed_of_mem hn hr, fun name => findNamed_of_notMem⟩,
      fun hrep => absurd hn hrep⟩
  · next hnames =>
    have hn : ¬(reports.map (·.name)).Nodup := fun hn => hnames (hnil.mpr hn)
    exact ⟨iff_of_false (by simp) hn, fun hdiff => absurd hdiff hn,
      fun _ => ⟨_, rfl, pairwise_repeatedNames, fun name => mem_repeatedNames⟩⟩

/-- A document with some entries. -/
def collection (items : List Json) : Json := .object [("analyses", .list items)]

theorem entries_collection (items : List Json) : entries (collection items) = .ok items := rfl

/-- An entry of which no more is given than its name and a template. -/
def plainEntry (name : String) : Json :=
  .object [("name", .text name), ("sql", .text "SELECT 1 \x7bjoins\x7d \x7bwhere\x7d")]

/-- The report that a plain entry is. -/
def plainReport (name : String) : Report :=
  ⟨name, "", "general", "bar", [], "SELECT 1 \x7bjoins\x7d \x7bwhere\x7d"⟩

theorem readEntry_plainEntry (name : String) :
    readEntry (plainEntry name) = .ok (plainReport name) :=
  read_template name (checkTemplate_eq_ok_iff.mpr (by decide +kernel))

/-- Two names; one of them given again; and an entry without a name before it is given again. -/
theorem read_unless_names_repeat_sample :
    (entries (collection [plainEntry "b", plainEntry "a"]) =
        .ok [plainEntry "b", plainEntry "a"] ∧
      readAll "f" (collection [plainEntry "b", plainEntry "a"]) =
        .ok [plainReport "b", plainReport "a"]) ∧
    (∃ names, readAll "f" (collection [plainEntry "b", plainEntry "a", plainEntry "b"]) =
      .error (.repeatedReports "f" names) ∧ "b" ∈ names ∧ "a" ∉ names) ∧
    ∃ f, readEntry (.object []) = .error f ∧
      readAll "f" (collection [plainEntry "b", .object [], plainEntry "b"]) = .error f := by
  have hb := readEntry_plainEntry "b"
  have ha := readEntry_plainEntry "a"
  have hdiffer := (read_unless_names_repeat "f"
    (entries_collection [plainEntry "b", plainEntry "a"])).1 _ (.cons hb (.cons ha .nil))
  have hrepeat := (read_unless_names_repeat "f"
    (entries_collection [plainEntry "b", plainEntry "a", plainEntry "b"])).1 _
    (.cons hb (.cons ha (.cons hb .nil)))
  have hfirst := (read_unless_names_repeat "f"
    (entries_collection [plainEntry "b", .object [], plainEntry "b"])).2 [plainEntry "b"]
    (.object []) [plainEntry "b"] _ rfl (by simpa using ⟨_, hb⟩) rfl
  obtain ⟨names, hnames, -, hmem⟩ := hrepeat.2.2 (by decide)
  exact ⟨⟨rfl, (hdiffer.2.1 (by decide)).1⟩,
    ⟨names, hnames, (hmem "b").mpr (by decide), fun h => absurd ((hmem "a").mp h) (by decide)⟩,
    _, rfl, hfirst⟩

end JobSearch.Report
