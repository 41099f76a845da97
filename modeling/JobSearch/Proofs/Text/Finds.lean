import JobSearch.Proofs.Text.Edges
import JobSearch.Proofs.Text.Searched

/-!
# What a search finds

A dataset reads both the stored text and the pattern of what is looked for only up to the first
zero character. The pattern ends there without its last `%`, so a text with a zero character is
found only at the end (`likeMatches_searched_iff`). A text finds itself, trimmed and in lower case,
exactly if what is read of it has no capitals but `A` to `Z` (`finds_lower_trim_iff`): any other
capital is lowered in what is looked for and not in what is stored.

## Main definitions

* `Finds` — a search for a text finds another one.
-/

namespace JobSearch.Text

/-- A search for a text finds another one, up to the case of `A` to `Z`: what is read of the first
one occurs in what is read of the second, and at its end if the first one has a zero character. -/
def Finds (part whole : String) : Prop :=
  ∃ before found after, (searched whole).toList = before ++ found ++ after ∧
    found.map lowerAsciiChar = (searched part).toList.map lowerAsciiChar ∧
    (HasZero part.toList → after = [])

/-- A search looks for a part, or for an end, without regard to the case of `A` to `Z`. -/
theorem finds_iff {part whole : String} :
    Finds part whole ↔ if HasZero part.toList then
      (searched part).toList.map lowerAsciiChar <:+ (searched whole).toList.map lowerAsciiChar
    else
      (searched part).toList.map lowerAsciiChar <:+:
        (searched whole).toList.map lowerAsciiChar := by
  split
  · next hzero =>
    simp only [Finds, hzero, forall_const]
    constructor
    · rintro ⟨before, found, after, hwhole, hfound, rfl⟩
      refine ⟨before.map lowerAsciiChar, ?_⟩
      rw [hwhole, List.append_nil, List.map_append, hfound]
    · rintro ⟨before, hwhole⟩
      obtain ⟨front, found, hsplit, -, hfound⟩ := List.map_eq_append_iff.mp hwhole.symm
      exact ⟨front, found, [], by rw [hsplit, List.append_nil], hfound, rfl⟩
  · next hzero =>
    rw [← occursIn_iff_isInfix]
    simp only [Finds, OccursIn, hzero, false_implies, and_true]

instance (part whole : String) : Decidable (Finds part whole) :=
  decidable_of_iff _ finds_iff.symm

theorem toList_searched (s : String) :
    (searched s).toList = (beforeZero s.toList).map searchedChar :=
  String.toList_ofList

/-! ### Patterns that are read in part -/

theorem map_searchedChar_escapeLikeChar (c : Char) :
    (escapeLikeChar c).map searchedChar = escapeLikeChar (searchedChar c) := by
  have hspecial : ∀ e ∈ ['\\', '%', '_'], searchedChar e = e := by
    rw [List.forall_mem_cons, List.forall_mem_cons, List.forall_mem_singleton]
    decide
  rw [escapeLikeChar]
  split
  · next h =>
    have hc : searchedChar c = c := hspecial c (by simpa using h)
    rw [hc, escapeLikeChar, if_pos h, List.map_cons, List.map_cons, hc, hspecial '\\' (by simp)]
    rfl
  · next h =>
    rw [escapeLikeChar, if_neg, List.map_singleton]
    rw [searchedChar]
    split
    · intro hbad
      exact absurd hbad (by decide)
    · exact h

theorem ne_zero_of_mem_escapeLikeChar {c d : Char} (hc : c.toNat ≠ 0) (hd : d ∈ escapeLikeChar c) :
    d.toNat ≠ 0 := by
  rw [escapeLikeChar] at hd
  split at hd
  · rcases List.mem_pair.mp hd with rfl | rfl
    · decide
    · exact hc
  · rwa [List.mem_singleton.mp hd]

/-- The pattern of text is read up to the first zero character of the text. -/
theorem beforeZero_escaped (s : List Char) :
    beforeZero (s.flatMap escapeLikeChar ++ ['%']) =
      (beforeZero s).flatMap escapeLikeChar ++ if HasZero s then [] else ['%'] := by
  induction s with
  | nil => rfl
  | cons c s ih =>
    by_cases hc : c.toNat = 0
    · obtain rfl : c = Char.ofNat 0 := Char.toNat_inj.mp hc
      simp [beforeZero, escapeLikeChar, HasZero]
    · have hkept : ∀ d ∈ escapeLikeChar c, d.toNat ≠ 0 := fun _ => ne_zero_of_mem_escapeLikeChar hc
      have hhere : beforeZero (c :: s) = c :: beforeZero s :=
        List.takeWhile_cons_of_pos (decide_eq_true hc)
      have hrest : HasZero (c :: s) ↔ HasZero s := by
        rw [hasZero_iff, hasZero_iff, List.exists_mem_cons_iff]
        exact or_iff_right hc
      rw [List.flatMap_cons, List.append_assoc, beforeZero_append_of_ne_zero hkept, ih, hhere,
        List.flatMap_cons, List.append_assoc]
      simp only [hrest]

theorem toList_searched_containing (part : String) :
    (searched (containing part)).toList =
      '%' :: ((searched part).toList.flatMap escapeLikeChar ++
        if HasZero part.toList then [] else ['%']) := by
  have hpattern : (containing part).toList =
      '%' :: (part.toList.flatMap escapeLikeChar ++ ['%']) := by
    simp [containing, escapeLike]
  have hfirst : beforeZero ('%' :: (part.toList.flatMap escapeLikeChar ++ ['%'])) =
      '%' :: beforeZero (part.toList.flatMap escapeLikeChar ++ ['%']) := rfl
  have hkeep : searchedChar '%' = '%' := by decide
  rw [toList_searched, toList_searched, hpattern, hfirst, beforeZero_escaped, List.map_cons, hkeep,
    List.map_append, List.map_flatMap, List.flatMap_map]
  simp only [map_searchedChar_escapeLikeChar]
  split
  · rfl
  · rw [List.map_singleton, hkeep]

/-- The matcher accepts what a search finds. -/
theorem likeMatches_searched_iff (part whole : String) :
    likeMatches (searched (containing part)) (searched whole) = true ↔ Finds part whole := by
  have hrest : ∀ s : List Char, Denotes ['%'] s := fun s => by
    rw [← List.append_nil s]
    exact .run s .nil
  rw [likeMatches_iff, toList_searched_containing, denotes_run_iff, Finds]
  simp only [denotes_escaped_append_iff]
  split
  · next hzero =>
    simp only [denotes_nil_iff, hzero, forall_const]
    constructor
    · rintro ⟨before, s, hs, found, after, rfl, hfound, hafter⟩
      exact ⟨before, found, after, by rw [hs, List.append_assoc], hfound, hafter⟩
    · rintro ⟨before, found, after, hs, hfound, hafter⟩
      exact ⟨before, found ++ after, by rw [hs, List.append_assoc], found, after, rfl, hfound,
        hafter⟩
  · next hzero =>
    simp only [hrest, hzero, false_implies, and_true]
    constructor
    · rintro ⟨before, s, hs, found, after, rfl, hfound⟩
      exact ⟨before, found, after, by rw [hs, List.append_assoc], hfound⟩
    · rintro ⟨before, found, after, hs, hfound⟩
      exact ⟨before, found ++ after, by rw [hs, List.append_assoc], found, after, rfl, hfound⟩

theorem finds_iff_occursIn {part : String} (h : searched part = part) (whole : String) :
    Finds part whole ↔ OccursIn part (searched whole) := by
  have hzero : ¬HasZero part.toList := fun hzero =>
    ((searched_eq_self_iff part).mp h _ hzero).1 rfl
  simp only [Finds, OccursIn, h, hzero, false_implies, and_true]

/-- It makes no difference to a search whether a text is in lower case. -/
theorem finds_lowerAscii_iff (part whole : String) :
    Finds part (lowerAscii whole) ↔ Finds part whole := by
  rw [finds_iff, finds_iff, searched_lowerAscii,
    lowerAscii_eq_iff.mp (lowerAscii_lowerAscii (searched whole))]

/-! ### A text in itself -/

theorem isBlank_searchedChar (c : Char) : isBlank (searchedChar c) = isBlank c := by
  have hother : ∀ e ∈ [Char.ofNat 0xFFFD, Char.ofNat 0xFFFE, Char.ofNat 0xFFFF],
      isBlank e = false := by
    rw [List.forall_mem_cons, List.forall_mem_cons, List.forall_mem_singleton]
    decide
  rw [searchedChar]
  split
  · next h =>
    have hc : isBlank c = false := by
      rcases h with h | h
      · exact hother c (by simp [← Char.toNat_inj, h])
      · exact hother c (by simp [← Char.toNat_inj, h])
    rw [hc, hother _ (by simp)]
  · rfl

/-- A character that is found by its lower case has no other lower case than that of `A` to `Z`. -/
theorem plainCase_of_lowersTo {c d : Char} (hcd : LowersTo c d) (hc : c.toNat ≠ 0)
    (h : lowerAsciiChar (searchedChar d) = lowerAsciiChar (searchedChar c)) : PlainCase c := by
  have hodd : ∀ e ∈ [Char.ofNat 0xFFFE, Char.ofNat 0xFFFF], lowerChar e = [lowerAsciiChar e] := by
    rw [List.forall_mem_cons, List.forall_mem_singleton]
    decide +kernel
  rcases hcd with ⟨hsigma, hd⟩ | ⟨hsigma, hlower⟩
  · rw [searchedChar_eq_self_iff.mpr (by omega), searchedChar_eq_self_iff.mpr (by omega),
      lowerAsciiChar_eq_self (by omega), lowerAsciiChar_eq_self (by omega), ← Char.toNat_inj] at h
    omega
  · refine ⟨hsigma, ?_⟩
    by_cases hplain : c.toNat ≠ 0xFFFE ∧ c.toNat ≠ 0xFFFF
    · have hd : Searchable d := searchable_lowerChar ⟨hc, hplain⟩ (by simp [hlower])
      rw [searchedChar_eq_self_iff.mpr hplain, searchedChar_eq_self_iff.mpr hd.2,
        (isLower_of_mem_lowerChar hsigma (by simp [hlower])).lowerAsciiChar_eq] at h
      rw [hlower, h]
    · refine hodd c ?_
      simp only [List.mem_cons, List.not_mem_nil, or_false, ← Char.toNat_inj]
      rw [not_and_or, not_not, not_not] at hplain
      exact hplain

/-- The characters of a text that are not blank. -/
def marks (s : List Char) : List Char := s.filter (!isBlank ·)

theorem marks_append (s t : List Char) : marks (s ++ t) = marks s ++ marks t :=
  List.filter_append ..

theorem marks_eq_nil {s : List Char} (h : ∀ c ∈ s, isBlank c = true) : marks s = [] := by
  rw [marks, List.filter_eq_nil_iff]
  intro c hc
  rw [h c hc]
  exact Bool.false_ne_true

theorem marks_map {f : Char → Char} (hf : ∀ c, isBlank (f c) = isBlank c) (s : List Char) :
    marks (s.map f) = (marks s).map f := by
  rw [marks, List.filter_map]
  exact congrArg _ (List.filter_congr fun c _ => by rw [Function.comp_apply, hf])

theorem marks_lowerAfter_cons_of_isBlank {before s : List Char} {c : Char}
    (hc : isBlank c = true) :
    marks (lowerAfter before (c :: s)) = marks (lowerAfter (c :: before) s) := by
  have hself : ∀ e ∈ [c], IsLower e := by simpa using isLower_of_isBlank hc
  have happend := lowerAfter_append_of_isLower before hself s
  rw [List.singleton_append] at happend
  rw [happend, marks_append, marks_eq_nil (by simpa using hc)]
  rfl

theorem exists_marks_lowerAfter_cons (before s : List Char) {c : Char} (hc : isBlank c = false) :
    ∃ d more, marks (lowerAfter before (c :: s)) = d :: more ++ marks (lowerAfter (c :: before) s) ∧
      (more = [] → LowersTo c d) := by
  obtain ⟨d, more, hlower, hblank, hone⟩ :=
    exists_lowerAfter_cons_of_not_isBlank before s hc
  have hself : marks (d :: more) = d :: more :=
    List.filter_eq_self.mpr fun e he => by rw [hblank e he]; rfl
  exact ⟨d, more, by rw [hlower, marks_append, hself], hone⟩

theorem marks_cons_of_not_isBlank {s : List Char} {c : Char} (hc : isBlank c = false) :
    marks (c :: s) = c :: marks s :=
  List.filter_cons_of_pos (by rw [hc]; rfl)

theorem marks_cons_of_isBlank {s : List Char} {c : Char} (hc : isBlank c = true) :
    marks (c :: s) = marks s :=
  List.filter_cons_of_neg (by simp [hc])

theorem length_marks_le (before s : List Char) :
    (marks s).length ≤ (marks (lowerAfter before s)).length := by
  induction s generalizing before with
  | nil => exact Nat.le_refl 0
  | cons c s ih =>
    have hrest := ih (c :: before)
    cases hc : isBlank c with
    | true => rwa [marks_lowerAfter_cons_of_isBlank hc, marks_cons_of_isBlank hc]
    | false =>
      obtain ⟨d, more, hmarks, -⟩ := exists_marks_lowerAfter_cons before s hc
      rw [hmarks, marks_cons_of_not_isBlank hc, List.length_append, List.length_cons,
        List.length_cons]
      omega

/-- Text that reads as its lower case, blank characters apart, has no capitals but `A` to `Z`. -/
theorem plainCase_of_marks {before s : List Char} (hs : ∀ c ∈ s, c.toNat ≠ 0)
    (h : (marks (lowerAfter before s)).map (fun c => lowerAsciiChar (searchedChar c)) =
      (marks s).map fun c => lowerAsciiChar (searchedChar c)) : ∀ c ∈ s, PlainCase c := by
  induction s generalizing before with
  | nil => simp
  | cons c s ih =>
    obtain ⟨hne, hs⟩ := List.forall_mem_cons.mp hs
    rw [List.forall_mem_cons]
    cases hc : isBlank c with
    | true =>
      rw [marks_lowerAfter_cons_of_isBlank hc, marks_cons_of_isBlank hc] at h
      exact ⟨(isLower_of_isBlank hc).plainCase, ih hs h⟩
    | false =>
      obtain ⟨d, more, hmarks, hone⟩ := exists_marks_lowerAfter_cons before s hc
      rw [hmarks, marks_cons_of_not_isBlank hc] at h
      have hlen := congrArg List.length h
      simp only [List.length_map, List.length_append, List.length_cons] at hlen
      have hrest := length_marks_le (c :: before) s
      obtain rfl : more = [] := List.length_eq_zero_iff.mp (by omega)
      obtain ⟨hd, h⟩ := List.cons.inj h
      exact ⟨plainCase_of_lowersTo (hone rfl) hne hd, ih hs h⟩

theorem exists_trimBy (p : Char → Bool) (s : List Char) :
    ∃ before after, s = before ++ trimBy p s ++ after ∧ (∀ c ∈ before, p c = true) ∧
      ∀ c ∈ after, p c = true := by
  refine ⟨s.takeWhile p, (s.dropWhile p).rtakeWhile p, ?_, fun _ => List.mem_takeWhile_imp,
    fun _ => List.mem_rtakeWhile_imp⟩
  have htrim : trimBy p s = (s.dropWhile p).rdropWhile p := rfl
  rw [htrim, List.append_assoc, List.rdropWhile_append_rtakeWhile,
    List.takeWhile_append_dropWhile]

/-- What is read of a text is what is read of it when it is trimmed, between blank characters; there
are none behind a zero character. -/
theorem exists_beforeZero_trimBy (s : List Char) :
    ∃ before after, beforeZero s = before ++ beforeZero (trimBy isBlank s) ++ after ∧
      (∀ c ∈ before, isBlank c = true) ∧ (∀ c ∈ after, isBlank c = true) ∧
      (HasZero (trimBy isBlank s) → after = []) := by
  have hkept : ∀ {t : List Char}, (∀ c ∈ t, isBlank c = true) → ∀ c ∈ t, c.toNat ≠ 0 := by
    intro t ht c hc hzero
    obtain rfl : c = Char.ofNat 0 := Char.toNat_inj.mp hzero
    exact absurd (ht _ hc) (by decide)
  obtain ⟨before, after, hs, hbefore, hafter⟩ := exists_trimBy isBlank s
  have hread : beforeZero s = before ++ beforeZero (trimBy isBlank s ++ after) := by
    conv_lhs => rw [hs, List.append_assoc, beforeZero_append_of_ne_zero (hkept hbefore)]
  by_cases hzero : HasZero (trimBy isBlank s)
  · refine ⟨before, [], ?_, hbefore, by simp, fun _ => rfl⟩
    rw [hread, beforeZero_append_of_zero hzero, List.append_nil]
  · refine ⟨before, after, ?_, hbefore, hafter, fun h => absurd h hzero⟩
    have hall : ∀ c ∈ trimBy isBlank s, c.toNat ≠ 0 := fun c hc hz =>
      hzero (hasZero_iff.mpr ⟨c, hc, hz⟩)
    have hself := beforeZero_append_of_ne_zero hall []
    have hrest := beforeZero_append_of_ne_zero (hkept hafter) []
    rw [List.append_nil] at hself hrest
    rw [hread, beforeZero_append_of_ne_zero hall, hself, hrest, List.append_assoc]
    simp [beforeZero]

/-- Text that is found by its own lower case, between blank characters, has no capitals but `A` to
`Z`. -/
theorem plainCase_of_isInfix {before core after found : List Char}
    (hbefore : ∀ c ∈ before, isBlank c = true) (hafter : ∀ c ∈ after, isBlank c = true)
    (hcore : ∀ c ∈ core, c.toNat ≠ 0)
    (hfound : found <:+: (before ++ core ++ after).map searchedChar)
    (h : found.map lowerAsciiChar = ((lowerAfter [] core).map searchedChar).map lowerAsciiChar) :
    ∀ c ∈ core, PlainCase c := by
  have hsub : (marks found).Sublist ((marks core).map searchedChar) := by
    have hmarks : (marks found).Sublist (marks _) := hfound.sublist.filter (!isBlank ·)
    rwa [marks_map isBlank_searchedChar, marks_append, marks_append, marks_eq_nil hbefore,
      marks_eq_nil hafter, List.nil_append, List.append_nil] at hmarks
  have hmarks := congrArg marks h
  rw [marks_map isBlank_lowerAsciiChar, marks_map isBlank_lowerAsciiChar,
    marks_map isBlank_searchedChar] at hmarks
  -- What is found has as many marks as the lower case, which has no fewer than the text itself.
  have hlen := congrArg List.length hmarks
  simp only [List.length_map] at hlen
  have hlonger := length_marks_le [] core
  have hself := hsub.eq_of_length_le (by rw [List.length_map]; omega)
  rw [hself, List.map_map, List.map_map] at hmarks
  exact plainCase_of_marks hcore hmarks.symm

/-- A text finds itself, trimmed and in lower case, exactly if what is read of it has no capitals
but `A` to `Z`. -/
theorem finds_lower_trim_iff (l : String) :
    Finds (lower (trim l)) l ↔ ∀ c ∈ beforeZero l.toList, PlainCase c := by
  obtain ⟨before, after, hl, hbefore, hafter, hend⟩ := exists_beforeZero_trimBy l.toList
  have hneedle : (lower (trim l)).toList = lowerAfter [] (trimBy isBlank l.toList) := by
    rw [lower, trim, String.toList_ofList, String.toList_ofList]
  rw [Finds, toList_searched, toList_searched, hneedle, beforeZero_lowerAfter, hl]
  constructor
  · rintro ⟨front, found, back, hsplit, hfound, -⟩
    have hcore := plainCase_of_isInfix hbefore hafter (fun _ => ne_zero_of_mem_beforeZero)
      ⟨front, back, hsplit.symm⟩ hfound
    intro c hc
    rw [List.append_assoc, List.mem_append, List.mem_append] at hc
    rcases hc with hc | hc | hc
    · exact (isLower_of_isBlank (hbefore c hc)).plainCase
    · exact hcore c hc
    · exact (isLower_of_isBlank (hafter c hc)).plainCase
  · intro hplain
    refine ⟨before.map searchedChar, (beforeZero (trimBy isBlank l.toList)).map searchedChar,
      after.map searchedChar, by rw [List.map_append, List.map_append], ?_, fun hzero => ?_⟩
    · rw [lowerAfter_eq_map fun c hc => hplain c (by simp [hc]), List.map_map, List.map_map,
        List.map_map]
      refine List.map_congr_left fun c _ => ?_
      simp only [Function.comp_apply, searchedChar_lowerAsciiChar, lowerAsciiChar_lowerAsciiChar]
    · rw [hend, List.map_nil]
      by_contra hnone
      have hall : ∀ c ∈ trimBy isBlank l.toList, c.toNat ≠ 0 := fun c hc hz =>
        hnone (hasZero_iff.mpr ⟨c, hc, hz⟩)
      exact ne_zero_of_mem_lowerAfter hall _ hzero rfl

end JobSearch.Text
