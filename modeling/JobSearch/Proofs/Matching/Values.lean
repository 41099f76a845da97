import JobSearch.Proofs.Matching.Predicate

/-!
# The values of a predicate

The values that a predicate is bound to are labels, bounds, patterns and numbers of labels. Only
the last are integers, so a predicate fits the storage as soon as they do
(`Criteria.Countable.fits_predicate`).
-/

namespace JobSearch

open Query

/-- All values of a condition fit the storage. -/
def Query.Condition.Fits (t : Term) : Prop := ∀ v ∈ t.params, v.fits = true

namespace Query.Condition

theorem fits_of_all? {ts : List Term} {t : Term} (h : all? ts = some t) (hts : ∀ d ∈ ts, Fits d) :
    Fits t := by
  intro v hv
  rw [collect_all? (g := params) (fun _ _ => rfl) h, List.mem_flatMap] at hv
  obtain ⟨d, hd, hv⟩ := hv
  exact hts d hd v hv

theorem fits_of_any? {ts : List Term} {t : Term} (h : any? ts = some t) (hts : ∀ d ∈ ts, Fits d) :
    Fits t := by
  intro v hv
  rw [collect_any? (g := params) (fun _ _ => rfl) h, List.mem_flatMap] at hv
  obtain ⟨d, hd, hv⟩ := hv
  exact hts d hd v hv

/-- A condition in parentheses, if there is one, has the values of the condition. -/
theorem fits_of_mem_grouped {t? : Option Term} (h : ∀ t ∈ t?, Fits t) :
    ∀ t ∈ (t?.map grouped).toList, Fits t := by
  cases t? with
  | none => simp
  | some t =>
    intro d hd
    obtain rfl : d = grouped t := by simpa using hd
    exact h t rfl

end Query.Condition

namespace Predicate

theorem fits_fieldTerm (f : Field) {selected : List String}
    (hlen : selected.length < Number.twoTo 63) : ∀ t ∈ fieldTerm f selected, t.Fits := by
  intro t ht
  rw [fieldTerm] at ht
  split at ht
  · refine Condition.fits_of_mem_grouped (fun d hd => Condition.fits_of_any? hd ?_) t ht
    intro d hd v hv
    obtain ⟨l, -, rfl⟩ := List.mem_map.mp hd
    obtain rfl : v = .text l := by simpa [Condition.params] using hv
    rfl
  · split at ht
    · simp at ht
    · obtain rfl : t = .among postingId (f.carriers selected) := by simpa using ht
      have hwanted : (f.carriers selected).wanted = selected.map .text := by
        rw [Field.carriers]
        split <;> rfl
      intro v hv
      rw [Condition.params, Carriers.params, hwanted, List.length_map, List.mem_append] at hv
      rcases hv with hv | hv
      · obtain ⟨l, -, rfl⟩ := List.mem_map.mp hv
        rfl
      · obtain rfl : v = .int selected.length := by simpa using hv
        rw [Cell.fits, Bool.and_eq_true, decide_eq_true_iff, decide_eq_true_iff]
        omega

theorem fits_quantityTerm (c : Criteria) (q : Quantity) : ∀ t ∈ quantityTerm c q, t.Fits := by
  have hbound : ∀ d ∈ (c.setBounds.filter fun p => p.1.quantity = q).map (fun p =>
      boundCondition p.1 p.2), d.Fits := by
    intro d hd v hv
    obtain ⟨p, -, rfl⟩ := List.mem_map.mp hd
    rw [boundCondition] at hv
    obtain rfl : v = .real p.2 := by split at hv <;> simpa [Condition.params] using hv
    rfl
  intro t ht
  rw [quantityTerm] at ht
  split at ht
  · simp at ht
  · next single he =>
    obtain rfl : t = single := by simpa using ht
    exact hbound t (by simp [he])
  · refine Condition.fits_of_mem_grouped (fun d hd => Condition.fits_of_all? hd hbound) t ht

theorem fits_searchTerm (search : String) : ∀ t ∈ searchTerm search, t.Fits := by
  intro t ht
  rw [searchTerm] at ht
  split at ht
  · simp at ht
  · refine Condition.fits_of_mem_grouped (fun d hd => Condition.fits_of_any? hd ?_) t ht
    intro d hd v hv
    obtain ⟨_, -, rfl⟩ := List.mem_map.mp hd
    obtain rfl : v = .text _ := by simpa [Condition.params] using hv
    rfl

theorem fits_combine (policy : Policy) {ts : List Term} (hts : ∀ t ∈ ts, t.Fits) :
    ∀ t ∈ combine policy ts, t.Fits := by
  intro t ht
  cases policy with
  | all => exact Condition.fits_of_all? ht hts
  | any =>
    have hany : ∀ t ∈ ((Condition.any? ts).map Condition.grouped).toList, t.Fits :=
      Condition.fits_of_mem_grouped fun d hd => Condition.fits_of_any? hd hts
    rcases ts with _ | ⟨d, _ | ⟨e, rest⟩⟩
    · exact hany t (by simpa [combine] using ht)
    · obtain rfl : t = d := by simpa [combine] using ht.symm
      exact hts t (by simp)
    · exact hany t (by simpa [combine] using ht)

end Predicate

/-- The values of the predicate of countable criteria fit the storage. -/
theorem Criteria.Countable.fits_predicate {c : Criteria} (hc : c.Countable) (search : String)
    (policy : Policy) : (c.predicate search policy).params.all Cell.fits = true := by
  rw [List.all_eq_true, Predicate.params]
  cases h : (c.predicate search policy).condition with
  | none => simp
  | some t =>
    refine Condition.fits_of_all? h fun d hd => ?_
    rcases List.mem_append.mp hd with hd | hd
    · refine Predicate.fits_combine policy (fun e he => ?_) d (by simpa using hd)
      rcases List.mem_append.mp he with he | he
      · obtain ⟨p, hp, he⟩ := List.mem_flatMap.mp he
        obtain ⟨g, -, hg⟩ := List.mem_filterMap.mp hp
        obtain ⟨labels, hlabels, rfl⟩ := Option.map_eq_some_iff.mp hg
        have hsel := Criteria.mem_active.mp (Ordered.mem_of_find?_eq_some hlabels)
        exact Predicate.fits_fieldTerm g (hc _ hsel) e he
      · rcases List.mem_append.mp he with he | he
        · exact Predicate.fits_quantityTerm c .salary e he
        · exact Predicate.fits_quantityTerm c .experience e he
    · exact Predicate.fits_searchTerm _ d hd

end JobSearch
