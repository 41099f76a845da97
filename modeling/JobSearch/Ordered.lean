/-!
# Mappings in order of insertion

A mapping is a list of pairs in which the first pair of a key counts. Inserting a key that is
present changes its value and leaves it where it is; a new key goes to the end.

## Main definitions

* `Ordered.find?`, `Ordered.insert`, `Ordered.erase` — look up, write, remove.
* `Ordered.ofList` — the mapping built by inserting pairs one after the other.
-/

namespace JobSearch.Ordered

variable {κ ν : Type} [DecidableEq κ]

/-- The value of a key. -/
def find? (k : κ) : List (κ × ν) → Option ν
  | [] => none
  | (k', v) :: rest => if k' = k then some v else find? k rest

/-- The mapping with a value written for a key. -/
def insert (k : κ) (v : ν) : List (κ × ν) → List (κ × ν)
  | [] => [(k, v)]
  | (k', v') :: rest => if k' = k then (k', v) :: rest else (k', v') :: insert k v rest

/-- The mapping without a key. -/
def erase (k : κ) (m : List (κ × ν)) : List (κ × ν) := m.filter fun p => p.1 ≠ k

/-- The mapping built by inserting the pairs one after the other. -/
def ofList (ps : List (κ × ν)) : List (κ × ν) := ps.foldl (fun m p => insert p.1 p.2 m) []

@[simp] theorem find?_nil (k : κ) : find? k ([] : List (κ × ν)) = none := rfl

theorem find?_insert_self (k : κ) (v : ν) (m : List (κ × ν)) :
    find? k (insert k v m) = some v := by
  induction m with
  | nil => simp [insert, find?]
  | cons p rest ih =>
    obtain ⟨k', v'⟩ := p
    by_cases h : k' = k <;> simp [insert, find?, h, ih]

theorem find?_insert_of_ne {k l : κ} (h : l ≠ k) (v : ν) (m : List (κ × ν)) :
    find? l (insert k v m) = find? l m := by
  induction m with
  | nil => simp [insert, find?, h.symm]
  | cons p rest ih =>
    obtain ⟨k', v'⟩ := p
    by_cases hk : k' = k
    · subst hk; simp [insert, find?, h.symm]
    · by_cases hl : k' = l
      · subst hl; simp [insert, find?, hk]
      · simp [insert, find?, hk, hl, ih]

end JobSearch.Ordered
