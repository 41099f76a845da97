import JobSearch.Ordered
import Mathlib.Data.List.Induction
import Mathlib.Data.List.Nodup

/-!
# Mappings whose keys occur once

In a mapping whose keys are distinct, looking up a key finds the pair that the mapping holds
(`find?_eq_some_iff`), wherever it stands (`find?_perm`). Erasing a key keeps all other pairs.
-/

namespace JobSearch.Ordered

variable {κ ν : Type} [DecidableEq κ]

theorem find?_eq_none_iff {k : κ} {m : List (κ × ν)} : find? k m = none ↔ ∀ p ∈ m, p.1 ≠ k := by
  induction m with
  | nil => simp
  | cons p rest ih =>
    obtain ⟨k', v⟩ := p
    by_cases h : k' = k <;> simp [find?, h, ih]

/-- What is found stands in the mapping. -/
theorem mem_of_find?_eq_some {k : κ} {v : ν} {m : List (κ × ν)} (h : find? k m = some v) :
    (k, v) ∈ m := by
  induction m with
  | nil => simp at h
  | cons p rest ih =>
    obtain ⟨k', v'⟩ := p
    by_cases hk : k' = k
    · subst hk
      simp only [find?, if_true, Option.some.injEq] at h
      simp [h]
    · rw [find?, if_neg hk] at h
      exact List.mem_cons_of_mem _ (ih h)

/-- If keys are distinct, a pair of the mapping is found under its key. -/
theorem find?_eq_some_iff {m : List (κ × ν)} (hn : (m.map (·.1)).Nodup) {k : κ} {v : ν} :
    find? k m = some v ↔ (k, v) ∈ m := by
  refine ⟨mem_of_find?_eq_some, fun h => ?_⟩
  induction m with
  | nil => simp at h
  | cons p rest ih =>
    obtain ⟨k', v'⟩ := p
    rw [List.map_cons, List.nodup_cons] at hn
    rcases List.mem_cons.mp h with he | hr
    · obtain ⟨rfl, rfl⟩ := Prod.mk.inj he
      simp [find?]
    · have hk : k' ≠ k := by
        rintro rfl
        exact hn.1 (List.mem_map.mpr ⟨_, hr, rfl⟩)
      rw [find?, if_neg hk]
      exact ih hn.2 hr

/-- The order of the pairs does not matter for what is found. -/
theorem find?_perm {m m' : List (κ × ν)} (hn : (m.map (·.1)).Nodup) (h : m.Perm m') (k : κ) :
    find? k m = find? k m' := by
  have hn' : (m'.map (·.1)).Nodup := (h.map _).nodup_iff.mp hn
  refine Option.ext fun v => ?_
  rw [find?_eq_some_iff hn, find?_eq_some_iff hn', h.mem_iff]

@[simp] theorem mem_erase {k : κ} {m : List (κ × ν)} {p : κ × ν} :
    p ∈ erase k m ↔ p ∈ m ∧ p.1 ≠ k := by
  simp [erase]

theorem find?_erase (k l : κ) (m : List (κ × ν)) :
    find? l (erase k m) = if l = k then none else find? l m := by
  induction m with
  | nil => simp [erase]
  | cons p rest ih =>
    obtain ⟨k', v⟩ := p
    rw [erase] at ih ⊢
    by_cases hk : k' = k
    · subst hk
      rw [List.filter_cons_of_neg (by simp), ih]
      by_cases hl : l = k'
      · rw [if_pos hl, if_pos hl]
      · rw [if_neg hl, if_neg hl, find?, if_neg (Ne.symm hl)]
    · rw [List.filter_cons_of_pos (by simpa using hk), find?, find?, ih]
      by_cases hl : k' = l
      · rw [if_pos hl, if_pos hl, if_neg (hl ▸ hk)]
      · rw [if_neg hl, if_neg hl]

theorem nodup_erase {m : List (κ × ν)} (hn : (m.map (·.1)).Nodup) (k : κ) :
    ((erase k m).map (·.1)).Nodup :=
  hn.sublist (List.filter_sublist.map _)

/-- The pairs after writing a key are those of other keys and the one that was written. -/
theorem mem_insert {k : κ} {v : ν} {m : List (κ × ν)} (hn : (m.map (·.1)).Nodup) {p : κ × ν} :
    p ∈ insert k v m ↔ p = (k, v) ∨ p ∈ m ∧ p.1 ≠ k := by
  induction m with
  | nil => simp [insert]
  | cons q rest ih =>
    obtain ⟨k', v'⟩ := q
    rw [List.map_cons, List.nodup_cons] at hn
    by_cases hk : k' = k
    · subst hk
      have hne : ∀ a ∈ rest, a.1 ≠ k' := fun a ha he => hn.1 (List.mem_map.mpr ⟨a, ha, he⟩)
      rw [insert, if_pos rfl, List.mem_cons, List.mem_cons]
      constructor
      · rintro (rfl | hp)
        · exact Or.inl rfl
        · exact Or.inr ⟨Or.inr hp, hne p hp⟩
      · rintro (rfl | ⟨rfl | hp, hpk⟩)
        · exact Or.inl rfl
        · exact absurd rfl hpk
        · exact Or.inr hp
    · rw [insert, if_neg hk, List.mem_cons, List.mem_cons, ih hn.2]
      constructor
      · rintro (rfl | rfl | ⟨hp, hpk⟩)
        · exact Or.inr ⟨Or.inl rfl, hk⟩
        · exact Or.inl rfl
        · exact Or.inr ⟨Or.inr hp, hpk⟩
      · rintro (rfl | ⟨rfl | hp, hpk⟩)
        · exact Or.inr (Or.inl rfl)
        · exact Or.inl rfl
        · exact Or.inr (Or.inr ⟨hp, hpk⟩)

/-- The keys of a mapping stay distinct when one is written. -/
theorem nodup_insert {m : List (κ × ν)} (hn : (m.map (·.1)).Nodup) (k : κ) (v : ν) :
    ((insert k v m).map (·.1)).Nodup := by
  induction m with
  | nil => simp [insert]
  | cons q rest ih =>
    obtain ⟨k', v'⟩ := q
    by_cases hk : k' = k
    · simpa [insert, hk] using hn
    · rw [List.map_cons, List.nodup_cons] at hn
      rw [insert, if_neg hk, List.map_cons, List.nodup_cons]
      refine ⟨fun h => ?_, ih hn.2⟩
      obtain ⟨p, hp, he⟩ := List.mem_map.mp h
      rcases (mem_insert hn.2).mp hp with rfl | ⟨hp, -⟩
      · exact hk he.symm
      · exact hn.1 (List.mem_map.mpr ⟨p, hp, he⟩)

/-- Writing the value that a key has changes nothing. -/
theorem insert_eq_self {k : κ} {v : ν} {m : List (κ × ν)} (h : find? k m = some v) :
    insert k v m = m := by
  induction m with
  | nil => cases h
  | cons p rest ih =>
    obtain ⟨k', v'⟩ := p
    by_cases hk : k' = k
    · rw [find?, if_pos hk] at h
      rw [insert, if_pos hk, Option.some.inj h]
    · rw [find?, if_neg hk] at h
      rw [insert, if_neg hk, ih h]

/-- A key that is absent is written behind all others. -/
theorem insert_eq_concat {k : κ} {m : List (κ × ν)} (h : find? k m = none) (v : ν) :
    insert k v m = m ++ [(k, v)] := by
  induction m with
  | nil => rfl
  | cons p rest ih =>
    obtain ⟨k', v'⟩ := p
    by_cases hk : k' = k
    · rw [find?, if_pos hk] at h
      cases h
    · rw [find?, if_neg hk] at h
      rw [insert, if_neg hk, ih h, List.cons_append]

/-- Of two values written for a key the second one counts. -/
theorem insert_insert (k : κ) (v w : ν) (m : List (κ × ν)) :
    insert k w (insert k v m) = insert k w m := by
  induction m with
  | nil => simp [insert]
  | cons p rest ih =>
    by_cases hk : p.1 = k <;> simp [insert, hk, ih]

/-- Erasing a key that is absent changes nothing. -/
theorem erase_eq_self {k : κ} {m : List (κ × ν)} (h : find? k m = none) : erase k m = m :=
  List.filter_eq_self.mpr fun p hp => decide_eq_true (find?_eq_none_iff.mp h p hp)

/-- Erasing a key undoes that it was written. -/
theorem erase_insert (k : κ) (v : ν) (m : List (κ × ν)) : erase k (insert k v m) = erase k m := by
  induction m with
  | nil => simp [insert, erase]
  | cons p rest ih =>
    by_cases hk : p.1 = k
    · rw [insert, if_pos hk]
      simp [erase, hk]
    · rw [insert, if_neg hk]
      simpa [erase, hk] using ih

/-- A key is found if it is one of the keys. -/
theorem mem_keys_iff {k : κ} {m : List (κ × ν)} : k ∈ m.map (·.1) ↔ find? k m ≠ none := by
  rw [ne_eq, find?_eq_none_iff, List.mem_map]
  simp

/-- What is kept of a mapping with distinct keys is found as before. -/
theorem find?_filter {m : List (κ × ν)} (hn : (m.map (·.1)).Nodup) (keep : ν → Bool) (k : κ) :
    find? k (m.filter fun p => keep p.2) = (find? k m).filter keep := by
  have hn' : ((m.filter fun p => keep p.2).map (·.1)).Nodup :=
    hn.sublist (List.filter_sublist.map _)
  refine Option.ext fun v => ?_
  rw [find?_eq_some_iff hn', List.mem_filter, Option.filter_eq_some_iff, find?_eq_some_iff hn]

/-! ### Mappings from pairs -/

omit [DecidableEq κ] in
theorem keys_map_snd {μ : Type} (g : ν → μ) (m : List (κ × ν)) :
    (m.map fun p => (p.1, g p.2)).map (·.1) = m.map (·.1) := by
  rw [List.map_map]
  rfl

theorem find?_map_snd {μ : Type} (g : ν → μ) (k : κ) (m : List (κ × ν)) :
    find? k (m.map fun p => (p.1, g p.2)) = (find? k m).map g := by
  induction m with
  | nil => rfl
  | cons p rest ih =>
    by_cases h : p.1 = k <;> simp [find?, h, ih]

/-- In pairs that give each of some keys its own value these values are found. -/
theorem find?_filterMap (f : κ → Option ν) (k : κ) (ks : List κ) :
    find? k (ks.filterMap fun l => (f l).map (l, ·)) = if k ∈ ks then f k else none := by
  induction ks with
  | nil => rfl
  | cons l ks ih =>
    by_cases hl : l = k
    · subst hl
      rw [if_pos List.mem_cons_self, List.filterMap_cons]
      cases hf : f l with
      | none => simp [ih, hf]
      | some v => exact if_pos rfl
    · rw [List.filterMap_cons]
      cases f l with
      | none => simp [ih, Ne.symm hl]
      | some v => simp [find?, hl, ih, Ne.symm hl]

theorem find?_ofList_concat (k : κ) (ps : List (κ × ν)) (p : κ × ν) :
    find? k (ofList (ps ++ [p])) = if k = p.1 then some p.2 else find? k (ofList ps) := by
  have hfold : ofList (ps ++ [p]) = insert p.1 p.2 (ofList ps) := by simp [ofList]
  rw [hfold]
  split
  · next h => rw [h, find?_insert_self]
  · next h => rw [find?_insert_of_ne h]

/-- The mapping from some pairs has each key once. -/
theorem nodup_ofList (ps : List (κ × ν)) : ((ofList ps).map (·.1)).Nodup := by
  induction ps using List.reverseRecOn with
  | nil => simp [ofList]
  | append_singleton ps p ih =>
    have hfold : ofList (ps ++ [p]) = insert p.1 p.2 (ofList ps) := by simp [ofList]
    rw [hfold]
    exact nodup_insert ih p.1 p.2

/-- Pairs whose keys are distinct are their own mapping. -/
theorem ofList_eq_self {ps : List (κ × ν)} (hn : (ps.map (·.1)).Nodup) : ofList ps = ps := by
  induction ps using List.reverseRecOn with
  | nil => rfl
  | append_singleton ps p ih =>
    have hfold : ofList (ps ++ [p]) = insert p.1 p.2 (ofList ps) := by simp [ofList]
    rw [List.map_append, List.nodup_append'] at hn
    obtain ⟨hps, -, hdisjoint⟩ := hn
    have hnew : find? p.1 ps = none :=
      find?_eq_none_iff.mpr fun q hq he => by simpa [← he] using hdisjoint (List.mem_map_of_mem hq)
    rw [hfold, ih hps, insert_eq_concat hnew]

/-- What is found in the mapping from some pairs is one of them. -/
theorem mem_of_find?_ofList {k : κ} {v : ν} {ps : List (κ × ν)} (h : find? k (ofList ps) = some v) :
    (k, v) ∈ ps := by
  induction ps using List.reverseRecOn with
  | nil => simp [ofList] at h
  | append_singleton ps p ih =>
    rw [find?_ofList_concat] at h
    split at h
    · next hk => simp [hk, ← Option.some.inj h]
    · exact List.mem_append_left _ (ih h)

/-- Every key of some pairs is found in the mapping from them. -/
theorem exists_find?_ofList {k : κ} {v : ν} {ps : List (κ × ν)} (h : (k, v) ∈ ps) :
    ∃ w, find? k (ofList ps) = some w := by
  induction ps using List.reverseRecOn with
  | nil => simp at h
  | append_singleton ps p ih =>
    rw [find?_ofList_concat]
    split
    · exact ⟨_, rfl⟩
    · next hk =>
      rcases List.mem_append.mp h with h | h
      · exact ih h
      · obtain rfl := List.mem_singleton.mp h
        exact absurd rfl hk

end JobSearch.Ordered
