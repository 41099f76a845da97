import JobSearch.Proofs.Browse.Facets
import JobSearch.Proofs.Browse.Pages

/-!
# Facets and pages

The facets of a field are asked with one statement, the number of postings on pages with another.
Where all terms of the criteria must hold, the number that a facet shows is the one that the pages
tell once its label is the only one selected in the field (`facet_count_eq_total`).

## Main definitions

* `countShown` — the number that facets show for a label.
-/

namespace JobSearch

open Query Number

/-- The number that facets show for a label, zero for one that they do not list. -/
def countShown (fs : List Facet) (l : String) : Int :=
  match fs.find? fun x => x.label = l with
  | some x => x.count
  | none => 0

/-- If facets list every label that occurs, with its number, then that number is shown. -/
theorem countShown_eq {fs : List Facet} (number : String → Nat)
    (hmem : ∀ x, x ∈ fs ↔ 0 < x.count ∧ x.count = number x.label) (l : String) :
    countShown fs l = number l := by
  rw [countShown]
  cases hfind : fs.find? fun x => x.label = l with
  | some x =>
    have hlabel : x.label = l := by simpa using List.find?_some hfind
    rw [← hlabel]
    exact ((hmem x).mp (List.mem_of_find?_eq_some hfind)).2
  | none =>
    have habsent : (⟨l, number l⟩ : Facet) ∉ fs := fun h => by
      simpa using List.find?_eq_none.mp hfind _ h
    rw [hmem] at habsent
    show (0 : Int) = number l
    simp only [and_true] at habsent
    omega

/-- One label that is not empty is selected as it is. -/
theorem Criteria.withLabels_singleton (c : Criteria) (key : String) {l : String} (hl : l ≠ "") :
    c.withLabels key (.list [.text l]) = .ok (c.select key [l]) := by
  have hempty : l.isEmpty = false := by simpa using hl
  have hitems : labelsOfItems [.text l] = [l] := by
    simp [labelsOfItems, Json.isNoLabel, hempty, distinct, Json.label]
  rw [withLabels, labelsOf, hitems]
  rfl

namespace Database

variable {db : Database} {f : Field} {c : Criteria} {search : String} {policy : Policy}

/-- A page tells the number of postings that match. -/
theorem Readable.exists_page (hdb : db.Readable) (hc : c.Normal) (hfields : c.Filterable)
    (hn : c.Countable) (atOnce : Bool) (sortKey : Option String) {size k : Nat} (hsize : 0 < size)
    (hfit : size < twoTo 63) (hoffset : k * size < twoTo 63) :
    ∃ p, (Store.readable db).page atOnce ⟨k + 1, size, c, search, sortKey, policy⟩ = .ok p ∧
      p.total = (db.matching c search policy).length := by
  obtain ⟨pages, hpages⟩ := exists_totalPages hsize
    ((List.length_filter_le _ _).trans hdb.postings.length_le)
  obtain ⟨ps, hpage, -⟩ := hdb.page_eq_ok hc hfields hn atOnce sortKey hsize hfit hoffset hpages
  exact ⟨_, hpage, rfl⟩

/-- The number that a facet shows is the total that every page tells with the label as the only
one selected in the field. -/
theorem facet_count_eq_total (hdb : db.Readable) (hf : f.entry.filterable = true) (hc : c.Normal)
    (hfields : c.Filterable) (hn : c.Countable) (search : String) {l : String} (hl : l ≠ "")
    (sortKey : Option String) (atOnce : Bool) {size k : Nat} (hsize : 0 < size)
    (hfit : size < twoTo 63) (hoffset : k * size < twoTo 63) :
    ∃ fs chosen p, (Store.readable db).facets f.key c search .all = .ok fs ∧
      c.withLabels f.key (.list [.text l]) = .ok chosen ∧
      (Store.readable db).page atOnce ⟨k + 1, size, chosen, search, sortKey, .all⟩ = .ok p ∧
      countShown fs l = p.total := by
  obtain ⟨fs, hfs, hmem, -⟩ := hdb.facets_eq_ok hf hc hfields hn search .all
  have hone : [l].length < twoTo 63 := by
    rw [List.length_singleton]
    decide
  have hchosen : (c.select f.key [l]).Normal :=
    hc.select f.key (by simp) (by simp) (by simpa using hl.symm)
  obtain ⟨p, hp, htotal⟩ := hdb.exists_page hchosen (hfields.select hc hf (by simp))
    (hn.select hc f.key (by simp) hone) atOnce sortKey hsize hfit hoffset
  refine ⟨fs, _, p, hfs, c.withLabels_singleton f.key hl, hp, ?_⟩
  have hshown := countShown_eq (fun l =>
    (db.carrying f l (db.matching (c.withoutField f.key) search .all)).length) hmem l
  rw [hshown, htotal, matching_select hc, carrying]

/-- What a facet of the small dataset shows is what its choice leaves. -/
theorem choice_in_sample : ∃ fs chosen p,
    (Store.readable Dataset.sample.database).facets "hard_skills" .sample "" .all = .ok fs ∧
    Criteria.sample.withLabels "hard_skills" (.list [.text "cutting"]) = .ok chosen ∧
    (Store.readable Dataset.sample.database).page true ⟨1, 2, chosen, "", none, .all⟩ = .ok p ∧
    countShown fs "cutting" = p.total :=
  facet_count_eq_total (f := .hardSkills)
    (Dataset.storable_sample.readable Dataset.typed_sample) rfl
    Criteria.normal_sample Criteria.filterable_sample Criteria.countable_sample "" (by decide)
    none true (k := 0) (by decide) (by decide) (by decide)

end Database

end JobSearch
