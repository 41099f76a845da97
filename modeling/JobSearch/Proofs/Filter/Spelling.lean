import JobSearch.Filter.Criteria
import JobSearch.Proofs.Text.Case

/-!
# The keys of bounds

A key is looked for among the bounds with each capital as an underscore and the small letter. Two
keys lead to a bound, `salary_min` and `salaryMin`, and no other one does
(`Bound.ofKey?_eq_some_iff`): the letter behind the underscore is an `m`, which is the lower case
of no capital but `M` in any script (`Text.eq_capital_m`).

## Main definitions

* `Bound.capitalKey` — the other spelling of a bound's key.
-/

namespace JobSearch

namespace Text

/-- A capital whose lower case begins with `m` is `M`. -/
theorem eq_capital_m {c : Char} {s : List Char} (hc : isUpper c = true)
    (h : lowerAfter [] [c] = 'm' :: s) : c = 'M' := by
  have hsigma : c.toNat ≠ 0x3A3 := by
    intro hs
    rw [lowerAfter, if_pos hs] at h
    split at h <;> exact absurd (List.cons.inj h).1 (by decide)
  rw [lowerAfter, if_neg hsigma, lowerAfter, List.append_nil] at h
  have hruns : ∀ r ∈ lowerRuns, ∀ n ∈ [(109 - r.shift).toNat], r.has n = true → n = 77 := by
    decide +kernel
  have hsmall : isUpper 'm' = false := by decide +kernel
  have hm : 'm' ∈ lowerChar c := h ▸ List.mem_cons_self
  rcases mem_lowerChar_cases hm with hdot | ⟨hascii, hletter⟩ | ⟨rfl, -⟩ | ⟨r, hr, hhas, hshift⟩
  · exact absurd hdot (by decide)
  · have hn := congrArg Char.toNat hletter
    rw [toNat_lowerAsciiChar] at hn
    rw [← Char.toNat_inj]
    split at hn
    · show c.toNat = 77
      have : 'm'.toNat = 109 := rfl
      omega
    · obtain rfl : 'm' = c := Char.toNat_inj.mp hn
      rw [hsmall] at hc
      cases hc
  · rw [hsmall] at hc
    cases hc
  · rw [← Char.toNat_inj]
    refine hruns r hr c.toNat ?_ hhas
    have : 'm'.toNat = 109 := rfl
    rw [List.mem_singleton]
    omega

end Text

/-- A character as `underscored` writes it. -/
def underscoredChar (c : Char) : List Char :=
  if Text.isUpper c then '_' :: Text.lowerAfter [] [c] else [c]

theorem toList_underscored (key : String) :
    (underscored key).toList = key.toList.flatMap underscoredChar := by
  rw [underscored]
  induction key.toList with
  | nil => rfl
  | cons c rest ih =>
    rw [List.map_cons, String.join_cons, String.toList_append, ih, List.flatMap_cons]
    congr 1
    rw [underscoredChar]
    split
    · rw [String.toList_append, Text.lower, String.toList_ofList, String.toList_ofList,
        String.toList_ofList]
      rfl
    · rw [String.toList_ofList]

/-- Text without an underscore comes from itself only. -/
theorem eq_of_flatMap_underscoredChar {s t : List Char} (h : s.flatMap underscoredChar = t)
    (ht : '_' ∉ t) : s = t := by
  induction s generalizing t with
  | nil => exact h
  | cons c s ih =>
    rw [List.flatMap_cons, underscoredChar] at h
    split at h
    · exact absurd (h ▸ List.mem_cons_self) ht
    · subst h
      rw [List.mem_append, not_or] at ht
      rw [List.singleton_append, ← ih rfl ht.2]

/-- Text with one underscore, and an `m` behind it, comes from itself or from the text with a
capital in place of both. -/
theorem eq_or_eq_of_flatMap_underscoredChar {s p q : List Char}
    (h : s.flatMap underscoredChar = p ++ '_' :: 'm' :: q) (hp : '_' ∉ p) (hq : '_' ∉ q) :
    s = p ++ '_' :: 'm' :: q ∨ s = p ++ 'M' :: q := by
  induction s generalizing p with
  | nil => simp at h
  | cons c s ih =>
    rw [List.flatMap_cons, underscoredChar] at h
    cases p with
    | nil =>
      split at h
      · next hc =>
        obtain ⟨-, h⟩ := List.cons.inj h
        obtain ⟨d, rest, hlower⟩ := List.exists_cons_of_length_pos
          (Nat.lt_of_lt_of_le (by simp) (Text.length_le_lowerAfter [] [c]))
        obtain rfl : d = 'm' := by
          rw [hlower] at h
          exact (List.cons.inj h).1
        obtain rfl := Text.eq_capital_m hc hlower
        refine Or.inr (congrArg ('M' :: ·) (eq_of_flatMap_underscoredChar ?_ hq))
        exact (List.cons.inj h).2
      · rw [List.singleton_append] at h
        obtain ⟨rfl, hs⟩ := List.cons.inj h
        have hrest : '_' ∉ 'm' :: q := by simp [hq]
        exact Or.inl (congrArg ('_' :: ·) (eq_of_flatMap_underscoredChar hs hrest))
    | cons a p =>
      rw [List.mem_cons, not_or] at hp
      split at h
      · exact absurd (List.cons.inj h).1 hp.1
      · rw [List.singleton_append] at h
        obtain ⟨rfl, hs⟩ := List.cons.inj h
        rcases ih hs hp.2 with rfl | rfl
        · exact Or.inl rfl
        · exact Or.inr rfl

namespace Bound

/-- The key of a bound with a capital in place of the underscore and the letter behind it. -/
def capitalKey : Bound → String
  | salaryMin => "salaryMin"
  | salaryMax => "salaryMax"
  | experienceMin => "experienceMin"
  | experienceMax => "experienceMax"

/-- The key of a bound has one underscore, and an `m` behind it. -/
theorem exists_toList_key (b : Bound) : ∃ p q, '_' ∉ p ∧ '_' ∉ q ∧
    b.key.toList = p ++ '_' :: 'm' :: q ∧ b.capitalKey.toList = p ++ 'M' :: q := by
  cases b with
  | salaryMin => exact ⟨"salary".toList, "in".toList, by decide⟩
  | salaryMax => exact ⟨"salary".toList, "ax".toList, by decide⟩
  | experienceMin => exact ⟨"experience".toList, "in".toList, by decide⟩
  | experienceMax => exact ⟨"experience".toList, "ax".toList, by decide⟩

/-- A key names a bound if it is one of its two spellings. -/
theorem ofKey?_eq_some_iff {key : String} {b : Bound} :
    ofKey? key = some b ↔ key = b.key ∨ key = b.capitalKey := by
  constructor
  · intro h
    have hnamed : (b.key == underscored key) = true := by
      rw [ofKey?] at h
      simpa using List.find?_some h
    obtain ⟨p, q, hp, hq, hkey, hcapital⟩ := b.exists_toList_key
    rw [← String.toList_inj, ← String.toList_inj, hkey, hcapital]
    refine eq_or_eq_of_flatMap_underscoredChar ?_ hp hq
    rw [← toList_underscored, ← hkey, beq_iff_eq.mp hnamed]
  · rintro (rfl | rfl) <;> cases b <;> decide +kernel

end Bound

end JobSearch
