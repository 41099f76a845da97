import JobSearch.Proofs.Text.Case
import JobSearch.Proofs.Text.Like

/-!
# Searching without regard to case

Stored text is searched up to its first zero character, and what is looked for is put into lower
case before. A text that equals it up to the case of `A` to `Z` is found
(`occursIn_of_lowerAscii_eq`), unless there are other capitals
(`lower_eq_lowerAscii_of_occursIn`); and a text in which its own lower case is found has no others
(`lowerAscii_eq_of_occursIn`).

## Main definitions

* `Searchable` — a character is searched as it is stored.
-/

namespace JobSearch.Text

/-! ### Text that is searched -/

/-- A character is searched as it is stored. -/
def Searchable (c : Char) : Prop := c.toNat ≠ 0 ∧ c.toNat ≠ 0xFFFE ∧ c.toNat ≠ 0xFFFF

theorem searchable_of_ascii {c : Char} (hlt : c.toNat < 0x80) (hne : c.toNat ≠ 0) :
    Searchable c := ⟨hne, by omega, by omega⟩

theorem searchedChar_eq_self_iff {c : Char} :
    searchedChar c = c ↔ c.toNat ≠ 0xFFFE ∧ c.toNat ≠ 0xFFFF := by
  rw [searchedChar, ← not_or]
  split
  · next h =>
    refine iff_of_false (fun he => ?_) (not_not_intro h)
    rw [← he] at h
    revert h
    decide
  · next h => exact iff_of_true rfl h

/-- Text is searched as it is stored exactly if each of its characters is. -/
theorem searched_eq_self_iff (s : String) : searched s = s ↔ ∀ c ∈ s.toList, Searchable c := by
  rw [← String.toList_inj, searched, String.toList_ofList]
  induction s.toList with
  | nil => simp
  | cons c cs ih =>
    rw [List.forall_mem_cons, ← ih, Searchable]
    by_cases hzero : c.toNat = 0
    · simp [hzero]
    · rw [List.takeWhile_cons_of_pos (by simpa using hzero), List.map_cons, List.cons.injEq,
        searchedChar_eq_self_iff]
      simp only [ne_eq, hzero, not_false_eq_true, true_and]

theorem searched_of_lowerAscii_eq {s t : String} (ht : searched t = t)
    (h : lowerAscii s = lowerAscii t) : searched s = s :=
  (searched_eq_self_iff s).mpr (forall_of_lowerAscii_eq (fun _ => searchable_of_ascii) h
    ((searched_eq_self_iff t).mp ht))

theorem searchable_lowerChar {c d : Char} (hc : Searchable c) (hd : d ∈ lowerChar c) :
    Searchable d := by
  have hdot : ∀ e ∈ ['i', Char.ofNat 0x307], Searchable e := by
    intro e he
    rcases List.mem_pair.mp he with rfl | rfl <;> exact ⟨by decide, by decide, by decide⟩
  rcases mem_lowerChar_cases hd with hd | ⟨hascii, rfl⟩ | ⟨rfl, -⟩ | ⟨r, hr, hhas, hshift⟩
  · exact hdot d hd
  · obtain ⟨hzero, -⟩ := hc
    rw [Searchable, toNat_lowerAsciiChar]
    split <;> omega
  · exact hc
  · obtain ⟨⟨hfirst, hlast⟩, -⟩ := CaseRun.has_iff.mp hhas
    obtain ⟨-, hpos, hrange⟩ := runs_searchable r hr
    rw [Searchable]
    omega

theorem searchable_lowerAfter {before s : List Char} (h : ∀ c ∈ s, Searchable c) :
    ∀ d ∈ lowerAfter before s, Searchable d := by
  have hsigma : ∀ n ∈ [0x3C2, 0x3C3], Searchable (Char.ofNat n) := by
    intro n hn
    rcases List.mem_pair.mp hn with rfl | rfl <;> exact ⟨by decide, by decide, by decide⟩
  exact forall_mem_lowerAfter hsigma (fun _ _ hc _ => searchable_lowerChar hc) h

/-- Text that is searched as it is stored is so in lower case. -/
theorem searched_lower {s : String} (h : searched s = s) : searched (lower s) = lower s := by
  rw [searched_eq_self_iff] at h ⊢
  rw [lower, String.toList_ofList]
  exact searchable_lowerAfter h

theorem searchedChar_lowerAsciiChar (c : Char) :
    searchedChar (lowerAsciiChar c) = lowerAsciiChar (searchedChar c) := by
  have hkeep : lowerAsciiChar (Char.ofNat 0xFFFD) = Char.ofNat 0xFFFD := by decide
  have hcode : (lowerAsciiChar c).toNat = 0xFFFE ∨ (lowerAsciiChar c).toNat = 0xFFFF ↔
      c.toNat = 0xFFFE ∨ c.toNat = 0xFFFF := by
    rw [toNat_lowerAsciiChar]
    split <;> omega
  simp only [searchedChar, hcode]
  split
  · exact hkeep.symm
  · rfl

/-- The part that is searched is the same in lower case. -/
theorem searched_lowerAscii (s : String) : searched (lowerAscii s) = lowerAscii (searched s) := by
  have hzero : (fun c : Char => decide (c.toNat ≠ 0)) ∘ lowerAsciiChar =
      fun c => decide (c.toNat ≠ 0) := by
    funext c
    rw [Function.comp_apply, toNat_lowerAsciiChar, decide_eq_decide]
    split <;> omega
  rw [← String.toList_inj]
  simp only [searched, lowerAscii, String.toList_ofList, List.takeWhile_map, hzero, List.map_map]
  exact List.map_congr_left fun c _ => searchedChar_lowerAsciiChar c

/-! ### Occurrence and equality up to case -/

/-- Text that equals what is looked for, up to the case of `A` to `Z`, is found. -/
theorem occursIn_of_lowerAscii_eq {s t : String} (ht : searched t = t)
    (h : lowerAscii s = lowerAscii t) : OccursIn (lowerAscii t) (searched s) := by
  rw [searched_of_lowerAscii_eq ht h, occursIn_iff_isInfix,
    lowerAscii_eq_iff.mp (lowerAscii_lowerAscii t), lowerAscii_eq_iff.mp h]

/-- The code points that are searched as another one have no other lower case. -/
theorem searchedChar_of_lowerChar {c d : Char} (hlower : lowerChar c = [d])
    (h : lowerAsciiChar (searchedChar c) = lowerAsciiChar d) : searchedChar c = c := by
  rw [searchedChar_eq_self_iff, ← not_or]
  have hkeep : ∀ e : Char, e = Char.ofNat 0xFFFE ∨ e = Char.ofNat 0xFFFF →
      lowerChar e = [e] ∧ lowerAsciiChar (searchedChar e) ≠ lowerAsciiChar e := by
    rintro e (rfl | rfl) <;> decide +kernel
  intro hbad
  obtain ⟨hself, hne⟩ := hkeep c (hbad.imp Char.toNat_inj.mp Char.toNat_inj.mp)
  obtain rfl : c = d := by simpa [hself] using hlower
  exact hne h

/-- A text that does not get longer in lower case, and of which the searched part looks like its
lower case, is searched as it is stored. -/
theorem map_searchedChar_eq_self {before s : List Char}
    (hlen : (lowerAfter before s).length ≤ s.length)
    (h : (s.map searchedChar).map lowerAsciiChar = (lowerAfter before s).map lowerAsciiChar) :
    s.map searchedChar = s := by
  induction s generalizing before with
  | nil => rfl
  | cons c s ih =>
    obtain ⟨d, hcons, hrest, hd⟩ := exists_lowerAfter_cons hlen
    rw [hcons, List.map_cons, List.map_cons, List.map_cons] at h
    obtain ⟨hc, h⟩ := List.cons.inj h
    rw [List.map_cons, ih hrest h, List.cons.injEq, eq_self, and_true]
    rcases hd with ⟨hsigma, -⟩ | ⟨-, hd⟩
    · exact searchedChar_eq_self_iff.mpr (by omega)
    · exact searchedChar_of_lowerChar hd hc

/-- What occurs in a text that is no longer is the text itself. -/
theorem map_eq_of_occursIn {part whole : String} (h : OccursIn part whole)
    (hlen : whole.toList.length ≤ part.toList.length) :
    part.toList.map lowerAsciiChar = whole.toList.map lowerAsciiChar := by
  refine (occursIn_iff_isInfix.mp h).sublist.eq_of_length_le ?_
  rw [List.length_map, List.length_map]
  exact hlen

theorem length_searched_le (s : String) : (searched s).toList.length ≤ s.toList.length := by
  rw [searched, String.toList_ofList, List.length_map]
  exact (List.takeWhile_sublist _).length_le

theorem length_le_lower (s : String) : s.toList.length ≤ (lower s).toList.length := by
  rw [lower, String.toList_ofList]
  exact length_le_lowerAfter [] s.toList

/-- Text in which its own lower case occurs has no capitals but `A` to `Z`. -/
theorem lowerAscii_eq_of_occursIn {s : String} (h : OccursIn (lower s) (searched s)) :
    lowerAscii s = lowerAscii (lower s) := by
  have hlong := length_le_lower s
  have hmap := map_eq_of_occursIn h ((length_searched_le s).trans hlong)
  have hlen := congrArg List.length hmap
  rw [List.length_map, List.length_map, searched, String.toList_ofList, List.length_map] at hlen
  have hsub := List.takeWhile_sublist (l := s.toList) fun c => decide (c.toNat ≠ 0)
  have hall := hsub.eq_of_length_le (hlen ▸ hlong)
  rw [searched, hall, lower, String.toList_ofList, String.toList_ofList] at hmap
  rw [hall, lower, String.toList_ofList] at hlen
  have hself := map_searchedChar_eq_self (Nat.le_of_eq hlen) hmap.symm
  rw [lowerAscii_eq_iff, lower, String.toList_ofList, hmap, hself]

/-- Text that equals another one, up to the case of `A` to `Z`, does not contain what is looked for
if there are capitals outside that range. -/
theorem lower_eq_lowerAscii_of_occursIn {s t : String} (ht : searched t = t)
    (h : lowerAscii s = lowerAscii t) (hoccurs : OccursIn (lower (lower t)) (searched s)) :
    lower t = lowerAscii t := by
  have hsame := lowerAscii_eq_iff.mp h
  have hlen := congrArg List.length hsame
  rw [List.length_map, List.length_map] at hlen
  rw [searched_of_lowerAscii_eq ht h] at hoccurs
  rw [lower_lower] at hoccurs
  have hmap := map_eq_of_occursIn hoccurs (hlen.le.trans (length_le_lower t))
  rw [hsame, lower, String.toList_ofList, map_lowerAsciiChar_lowerAfter] at hmap
  exact (lower_eq_lowerAscii_iff t).mpr (plainCase_of_lowerAfter_eq hmap)

end JobSearch.Text
