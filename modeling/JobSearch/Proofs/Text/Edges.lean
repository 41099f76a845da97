import JobSearch.Proofs.Text.Case
import JobSearch.Text.Blank
import Mathlib.Data.List.DropRight

/-!
# Lower case of a part of text

Blank characters and the zero character belong to no word: they have no case, and what stands
behind them makes no difference to the letters before them. So text may be trimmed before or after
it is put into lower case (`trim_lower`), and the same holds of cutting it off at its first zero
character (`beforeZero_lowerAfter`).

## Main definitions

* `blankRuns` — the blank characters as runs of code points.
* `beforeZero` — the characters before the first zero character.
-/

namespace JobSearch.Text

/-! ### Blank characters -/

/-- The blank characters. -/
def blankRuns : List CaseRun := [
  ⟨0x9, 0xD, 1, 0⟩, ⟨0x1C, 0x20, 1, 0⟩, ⟨0x85, 0x85, 1, 0⟩, ⟨0xA0, 0xA0, 1, 0⟩,
  ⟨0x1680, 0x1680, 1, 0⟩, ⟨0x2000, 0x200A, 1, 0⟩, ⟨0x2028, 0x2029, 1, 0⟩, ⟨0x202F, 0x202F, 1, 0⟩,
  ⟨0x205F, 0x205F, 1, 0⟩, ⟨0x3000, 0x3000, 1, 0⟩]

theorem isBlank_eq_any (c : Char) : isBlank c = blankRuns.any (·.has c.toNat) := by
  rw [Bool.eq_iff_iff]
  simp only [isBlank, isWhiteSpace, blankRuns, List.any_cons, List.any_nil, Bool.or_eq_true,
    Bool.and_eq_true, decide_eq_true_eq, beq_iff_eq, CaseRun.has_iff, Nat.mod_one, and_true,
    Bool.false_eq_true, or_false]
  omega

theorem isBlank_iff {c : Char} : isBlank c = true ↔ ∃ b ∈ blankRuns, b.has c.toNat = true := by
  rw [isBlank_eq_any, List.any_eq_true]

/-- No letter that has a lower case is blank, and none is blank in lower case. -/
theorem runs_miss_blank : (lowerRuns.all fun r => blankRuns.all fun b =>
      r.misses b.first b.last b.step &&
        b.misses (r.first + r.shift).toNat (r.last + r.shift).toNat r.step) &&
    blankRuns.all fun b => CaseRun.misses ⟨0x130, 0x130, 1, 0⟩ b.first b.last b.step := by
  decide +kernel

/-- No blank character has a case. -/
theorem cased_miss_blank : casedRanges.all fun r => blankRuns.all fun b =>
    Nat.blt r.2 b.first || Nat.blt b.last r.1 := by
  decide +kernel

theorem blankRuns_kept : ∀ b ∈ blankRuns, b.shift = 0 ∧ 0 < b.first := by decide

/-- A blank character is in lower case. -/
theorem isLower_of_isBlank {c : Char} (h : isBlank c = true) : IsLower c := by
  obtain ⟨b, hb, hhas⟩ := isBlank_iff.mp h
  obtain ⟨hshift, hpos⟩ := blankRuns_kept b hb
  obtain ⟨hruns, hdot⟩ := Bool.and_eq_true_iff.mp runs_miss_blank
  refine isLower_of_not_has fun s hs => not_has_of_misses hhas (by omega) (by omega) ?_
  rw [hshift, Int.add_zero, Int.add_zero, Int.toNat_natCast, Int.toNat_natCast]
  rcases List.mem_cons.mp hs with rfl | hs
  · exact List.all_eq_true.mp hdot b hb
  · exact (Bool.and_eq_true_iff.mp
      (List.all_eq_true.mp (List.all_eq_true.mp hruns s hs) b hb)).1

@[simp] theorem isBlank_lowerAsciiChar (c : Char) : isBlank (lowerAsciiChar c) = isBlank c := by
  simp only [isBlank, isWhiteSpace, toNat_lowerAsciiChar]
  rw [Bool.eq_iff_iff]
  simp only [Bool.or_eq_true, Bool.and_eq_true, decide_eq_true_eq, beq_iff_eq]
  split <;> omega

/-- Other characters are not blank in lower case. -/
theorem not_isBlank_of_mem_lowerChar {c d : Char} (hc : isBlank c = false) (hd : d ∈ lowerChar c) :
    isBlank d = false := by
  have hdot : ∀ e ∈ ['i', Char.ofNat 0x307], isBlank e = false := by
    rw [List.forall_mem_cons, List.forall_mem_singleton]
    decide
  rcases mem_lowerChar_cases hd with hd | ⟨-, rfl⟩ | ⟨rfl, -⟩ | ⟨r, hr, hhas, hshift⟩
  · exact hdot d hd
  · rwa [isBlank_lowerAsciiChar]
  · exact hc
  · obtain ⟨-, hpos, -⟩ := runs_searchable r hr
    have hmiss := List.all_eq_true.mp (Bool.and_eq_true_iff.mp runs_miss_blank).1 r hr
    rw [isBlank_eq_any, List.any_eq_false]
    intro b hb
    rw [Bool.not_eq_true]
    exact not_has_of_misses hhas hpos hshift
      (Bool.and_eq_true_iff.mp (List.all_eq_true.mp hmiss b hb)).2

/-- A character that is not blank is lowered to characters that are not blank. -/
theorem exists_lowerAfter_cons_of_not_isBlank (before s : List Char) {c : Char}
    (hc : isBlank c = false) :
    ∃ d more, lowerAfter before (c :: s) = d :: more ++ lowerAfter (c :: before) s ∧
      (∀ e ∈ d :: more, isBlank e = false) ∧ (more = [] → LowersTo c d) := by
  rw [lowerAfter]
  split
  · next hsigma =>
    refine ⟨_, [], rfl, ?_, fun _ => Or.inl ⟨hsigma, ?_⟩⟩
    · rw [List.forall_mem_singleton]
      split <;> decide
    · split
      · exact Or.inl rfl
      · exact Or.inr rfl
  · next hsigma =>
    obtain ⟨d, more, hd⟩ := List.exists_cons_of_length_pos (length_lowerChar_pos c)
    refine ⟨d, more, by rw [hd], fun e he => ?_, fun hmore => Or.inr ⟨hsigma, by rw [hd, hmore]⟩⟩
    exact not_isBlank_of_mem_lowerChar hc (hd ▸ he)

/-- Text that ends in a character that is not blank does so in lower case. -/
theorem exists_last_lowerAfter (before s : List Char) {c : Char} (hc : isBlank c = false) :
    ∃ front d, lowerAfter before (s ++ [c]) = front ++ [d] ∧ isBlank d = false := by
  induction s generalizing before with
  | nil =>
    obtain ⟨d, more, hlower, hblank, -⟩ :=
      exists_lowerAfter_cons_of_not_isBlank before [] hc
    rw [lowerAfter, List.append_nil] at hlower
    have hne : d :: more ≠ [] := List.cons_ne_nil d more
    refine ⟨(d :: more).dropLast, (d :: more).getLast hne, ?_, hblank _ (List.getLast_mem hne)⟩
    rw [List.nil_append, hlower, List.dropLast_concat_getLast]
  | cons a s ih =>
    obtain ⟨front, d, hlower, hd⟩ := ih (a :: before)
    rw [List.cons_append, lowerAfter, hlower, ← List.append_assoc]
    exact ⟨_, d, rfl, hd⟩

/-! ### The ends of words -/

/-- Where no cased letter follows, the letters before are lowered as at the end of the text. -/
theorem meetsCased_append {s t : List Char} (h : meetsCased t = false) :
    meetsCased (s ++ t) = meetsCased s := by
  rw [meetsCased, meetsCased, List.dropWhile_append]
  cases hs : s.dropWhile (inRanges ignorableRanges) with
  | nil => exact h
  | cons c rest => rfl

theorem lowerAfter_append {before s t : List Char} (h : meetsCased t = false) :
    lowerAfter before (s ++ t) = lowerAfter before s ++ lowerAfter (s.reverse ++ before) t := by
  induction s generalizing before with
  | nil => rfl
  | cons c s ih =>
    rw [List.cons_append, lowerAfter, lowerAfter, ih, meetsCased_append h, List.reverse_cons,
      List.append_assoc, List.append_assoc]
    rfl

/-- What stands before no cased letter makes no difference to the text behind it. -/
theorem lowerAfter_append_before (near : List Char) {before : List Char}
    (h : meetsCased before = false) (s : List Char) :
    lowerAfter (near ++ before) s = lowerAfter near s := by
  induction s generalizing near with
  | nil => rfl
  | cons c s ih =>
    have hrest := ih (c :: near)
    rw [List.cons_append] at hrest
    rw [lowerAfter, lowerAfter, hrest, meetsCased_append h]

theorem meetsCased_of_blank {s : List Char} (h : ∀ c ∈ s, isBlank c = true) :
    meetsCased s = false := by
  rw [meetsCased]
  have hsub := List.dropWhile_sublist (l := s) (inRanges ignorableRanges)
  cases hs : s.dropWhile (inRanges ignorableRanges) with
  | nil => rfl
  | cons c rest =>
    rw [hs] at hsub
    obtain ⟨b, hb, hhas⟩ := isBlank_iff.mp (h c (hsub.subset List.mem_cons_self))
    obtain ⟨⟨hfirst, hlast⟩, -⟩ := CaseRun.has_iff.mp hhas
    refine List.any_eq_false.mpr fun r hr => ?_
    have hmiss := List.all_eq_true.mp (List.all_eq_true.mp cased_miss_blank r hr) b hb
    simp only [Bool.or_eq_true, Nat.blt_eq] at hmiss
    simp only [Bool.and_eq_true, decide_eq_true_eq]
    omega

/-! ### Trimming -/

theorem dropWhile_lowerAfter (s : List Char) :
    (lowerAfter [] s).dropWhile isBlank = lowerAfter [] (s.dropWhile isBlank) := by
  have hblank : ∀ c ∈ s.takeWhile isBlank, isBlank c = true := fun _ => List.mem_takeWhile_imp
  have hbefore : meetsCased (s.takeWhile isBlank).reverse = false :=
    meetsCased_of_blank fun c hc => hblank c (List.mem_reverse.mp hc)
  have hsplit : lowerAfter [] s =
      s.takeWhile isBlank ++ lowerAfter [] (s.dropWhile isBlank) := by
    conv_lhs => rw [← s.takeWhile_append_dropWhile (p := isBlank)]
    rw [lowerAfter_append_of_isLower [] fun c hc => isLower_of_isBlank (hblank c hc),
      List.append_nil]
    exact congrArg _ (lowerAfter_append_before [] hbefore _)
  rw [hsplit, List.dropWhile_append_of_pos hblank]
  cases hrest : s.dropWhile isBlank with
  | nil => rfl
  | cons c rest =>
    have hc : isBlank c = false := by
      have hhead := List.head?_dropWhile_not isBlank s
      rwa [hrest] at hhead
    obtain ⟨d, more, hlower, hblank, -⟩ :=
      exists_lowerAfter_cons_of_not_isBlank [] rest hc
    rw [hlower, List.cons_append, List.dropWhile_cons_of_neg (by simp [hblank d])]

theorem rdropWhile_lowerAfter (s : List Char) :
    (lowerAfter [] s).rdropWhile isBlank = lowerAfter [] (s.rdropWhile isBlank) := by
  have hblank : ∀ c ∈ s.rtakeWhile isBlank, isBlank c = true := fun _ => List.mem_rtakeWhile_imp
  have hsplit : lowerAfter [] s =
      lowerAfter [] (s.rdropWhile isBlank) ++ s.rtakeWhile isBlank := by
    conv_lhs => rw [← List.rdropWhile_append_rtakeWhile (p := isBlank) (l := s)]
    rw [lowerAfter_append (meetsCased_of_blank hblank),
      lowerAfter_eq_self fun c hc => isLower_of_isBlank (hblank c hc)]
  rw [hsplit, List.rdropWhile, List.reverse_append,
    List.dropWhile_append_of_pos fun c hc => hblank c (List.mem_reverse.mp hc)]
  rcases List.eq_nil_or_concat (s.rdropWhile isBlank) with hnil | ⟨front, c, hconcat⟩
  · rw [hnil]
    rfl
  · have hc : isBlank c = false := by
      have hlast := List.rdropWhile_last_not isBlank s (by simp [hconcat])
      simpa [hconcat] using hlast
    obtain ⟨more, d, hlower, hd⟩ := exists_last_lowerAfter [] front hc
    rw [hconcat, List.concat_eq_append, hlower]
    exact List.rdropWhile_concat_neg isBlank more d (by simp [hd])

theorem trimBy_lowerAfter (s : List Char) :
    trimBy isBlank (lowerAfter [] s) = lowerAfter [] (trimBy isBlank s) := by
  show ((lowerAfter [] s).dropWhile isBlank).rdropWhile isBlank = _
  rw [dropWhile_lowerAfter, rdropWhile_lowerAfter]
  rfl

/-- Text is trimmed before or after it is put into lower case. -/
theorem trim_lower (s : String) : trim (lower s) = lower (trim s) := by
  rw [trim, trim, lower, lower, String.toList_ofList, String.toList_ofList, trimBy_lowerAfter]

/-! ### The zero character -/

/-- The characters before the first zero character. -/
def beforeZero (s : List Char) : List Char := s.takeWhile (·.toNat ≠ 0)

theorem ne_zero_of_mem_beforeZero {s : List Char} {c : Char} (h : c ∈ beforeZero s) :
    c.toNat ≠ 0 := by
  simpa using List.mem_takeWhile_imp h

theorem beforeZero_append_of_ne_zero {s : List Char} (h : ∀ c ∈ s, c.toNat ≠ 0) (t : List Char) :
    beforeZero (s ++ t) = s ++ beforeZero t :=
  List.takeWhile_append_of_pos fun c hc => decide_eq_true (h c hc)

theorem beforeZero_cons_of_zero {c : Char} (hc : c.toNat = 0) (s : List Char) :
    beforeZero (c :: s) = [] :=
  List.takeWhile_cons_of_neg (by simp [hc])

/-- A text has a zero character. -/
def HasZero (s : List Char) : Prop := Char.ofNat 0 ∈ s

instance (s : List Char) : Decidable (HasZero s) := inferInstanceAs (Decidable (_ ∈ s))

theorem hasZero_iff {s : List Char} : HasZero s ↔ ∃ c ∈ s, c.toNat = 0 := by
  constructor
  · intro h
    exact ⟨_, h, rfl⟩
  · rintro ⟨c, hc, hzero⟩
    obtain rfl : c = Char.ofNat 0 := Char.toNat_inj.mp hzero
    exact hc

theorem beforeZero_append_of_zero {s : List Char} (h : HasZero s) (t : List Char) :
    beforeZero (s ++ t) = beforeZero s := by
  rw [beforeZero, List.takeWhile_append, if_neg]
  · rfl
  · intro hlen
    rw [HasZero, ← (List.takeWhile_sublist _).eq_of_length hlen] at h
    exact ne_zero_of_mem_beforeZero h rfl

theorem ne_zero_of_mem_lowerChar {c d : Char} (hc : c.toNat ≠ 0) (hd : d ∈ lowerChar c) :
    d.toNat ≠ 0 := by
  have hdot : ∀ e ∈ ['i', Char.ofNat 0x307], e.toNat ≠ 0 := by
    rw [List.forall_mem_cons, List.forall_mem_singleton]
    decide
  rcases mem_lowerChar_cases hd with hd | ⟨-, rfl⟩ | ⟨rfl, -⟩ | ⟨r, hr, hhas, hshift⟩
  · exact hdot d hd
  · rw [toNat_lowerAsciiChar]
    split <;> omega
  · exact hc
  · obtain ⟨⟨hfirst, -⟩, -⟩ := CaseRun.has_iff.mp hhas
    obtain ⟨-, hpos, -⟩ := runs_searchable r hr
    omega

theorem ne_zero_of_mem_lowerAfter {before s : List Char} (h : ∀ c ∈ s, c.toNat ≠ 0) :
    ∀ d ∈ lowerAfter before s, d.toNat ≠ 0 :=
  forall_mem_lowerAfter (by decide) (fun _ _ hc _ => ne_zero_of_mem_lowerChar hc) h

/-- A zero character ends a word. -/
theorem meetsCased_cons_zero {c : Char} (hc : c.toNat = 0) (s : List Char) :
    meetsCased (c :: s) = false := by
  have hclass : inRanges ignorableRanges (Char.ofNat 0) = false ∧
      inRanges casedRanges (Char.ofNat 0) = false := by decide +kernel
  obtain rfl : c = Char.ofNat 0 := Char.toNat_inj.mp hc
  rw [meetsCased, List.dropWhile_cons_of_neg (by simp [hclass.1])]
  exact hclass.2

/-- Text is cut off at its first zero character before or after it is put into lower case. -/
theorem beforeZero_lowerAfter (s : List Char) :
    beforeZero (lowerAfter [] s) = lowerAfter [] (beforeZero s) := by
  have hkept : ∀ d ∈ lowerAfter [] (beforeZero s), d.toNat ≠ 0 :=
    ne_zero_of_mem_lowerAfter fun _ => ne_zero_of_mem_beforeZero
  have hsplit : beforeZero s ++ s.dropWhile (·.toNat ≠ 0) = s := List.takeWhile_append_dropWhile
  cases hrest : s.dropWhile (·.toNat ≠ 0) with
  | nil =>
    rw [hrest, List.append_nil] at hsplit
    rw [hsplit] at hkept ⊢
    simpa [beforeZero] using beforeZero_append_of_ne_zero hkept []
  | cons c rest =>
    have hc : c.toNat = 0 := by
      have hhead := List.head?_dropWhile_not (fun c : Char => decide (c.toNat ≠ 0)) s
      rw [hrest] at hhead
      simpa using hhead
    have hlower : lowerChar c = [c] := by
      rw [lowerChar, if_neg (by omega), if_pos (by omega), lowerAsciiChar_eq_self (by omega)]
    conv_lhs => rw [← hsplit, hrest, lowerAfter_append (meetsCased_cons_zero hc rest)]
    rw [beforeZero_append_of_ne_zero hkept, lowerAfter, if_neg (by omega), hlower,
      List.singleton_append, beforeZero_cons_of_zero hc, List.append_nil]

end JobSearch.Text
