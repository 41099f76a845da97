import JobSearch.Text.Case

/-!
# Two kinds of lower case

A dataset folds the letters `A` to `Z` and no others, while a term is put into lower case in any
script. The two agree on text whose other letters are not capitals (`lower_eq_lowerAscii_iff`), and
texts that differ only in `A` to `Z` have one lower case there (`lower_eq_of_lowerAscii_eq`). Text
in lower case stays as it is when it is put into lower case again (`lower_lower`): no run of letters
leads to where another one starts.

## Main definitions

* `PlainCase` — a character is a capital only if it is one of `A` to `Z`.
* `LowersTo` — a character is one character in lower case.
* `IsLower` — a character is in lower case.
-/

namespace JobSearch.Text

/-! ### The letters `A` to `Z` -/

theorem toNat_ofNat_of_isValidChar {n : Nat} (h : n.isValidChar) : (Char.ofNat n).toNat = n := by
  rw [Char.ofNat, dif_pos h]
  rfl

theorem toNat_lowerAsciiChar (c : Char) :
    (lowerAsciiChar c).toNat = if 65 ≤ c.toNat ∧ c.toNat ≤ 90 then c.toNat + 32 else c.toNat := by
  have hrange : ('A' ≤ c ∧ c ≤ 'Z') ↔ 65 ≤ c.toNat ∧ c.toNat ≤ 90 := Iff.rfl
  simp only [lowerAsciiChar, hrange]
  split
  · exact toNat_ofNat_of_isValidChar (Or.inl (by omega))
  · rfl

theorem lowerAsciiChar_eq_self {c : Char} (h : ¬(65 ≤ c.toNat ∧ c.toNat ≤ 90)) :
    lowerAsciiChar c = c := by
  rw [← Char.toNat_inj, toNat_lowerAsciiChar, if_neg h]

@[simp] theorem lowerAsciiChar_lowerAsciiChar (c : Char) :
    lowerAsciiChar (lowerAsciiChar c) = lowerAsciiChar c := by
  rw [← Char.toNat_inj, toNat_lowerAsciiChar, toNat_lowerAsciiChar]
  by_cases h : 65 ≤ c.toNat ∧ c.toNat ≤ 90
  · rw [if_pos h, if_neg (by omega)]
  · rw [if_neg h, if_neg h]

theorem lowerAscii_eq_iff {s t : String} :
    lowerAscii s = lowerAscii t ↔ s.toList.map lowerAsciiChar = t.toList.map lowerAsciiChar := by
  rw [← String.toList_inj, lowerAscii, lowerAscii, String.toList_ofList, String.toList_ofList]

@[simp] theorem lowerAscii_lowerAscii (s : String) : lowerAscii (lowerAscii s) = lowerAscii s := by
  rw [lowerAscii_eq_iff, lowerAscii, String.toList_ofList, List.map_map]
  exact List.map_congr_left fun c _ => lowerAsciiChar_lowerAsciiChar c

/-- Characters that differ only in the case of `A` to `Z` are letters. -/
theorem eq_or_letter_of_lowerAsciiChar_eq {c d : Char} (h : lowerAsciiChar c = lowerAsciiChar d) :
    c = d ∨ (c.toNat < 0x80 ∧ c.toNat ≠ 0) ∧ d.toNat < 0x80 ∧ d.toNat ≠ 0 := by
  have hn := congrArg Char.toNat h
  rw [toNat_lowerAsciiChar, toNat_lowerAsciiChar] at hn
  rw [← Char.toNat_inj]
  split at hn <;> split at hn <;> omega

/-- What holds of all characters of a text holds of those of a text that differs only in case. -/
theorem forall_of_lowerAscii_eq {P : Char → Prop}
    (hletter : ∀ c : Char, c.toNat < 0x80 → c.toNat ≠ 0 → P c) {s t : String}
    (he : lowerAscii s = lowerAscii t) (ht : ∀ c ∈ t.toList, P c) : ∀ c ∈ s.toList, P c := by
  intro c hc
  have hmap := List.mem_map_of_mem (f := lowerAsciiChar) hc
  rw [lowerAscii_eq_iff.mp he] at hmap
  obtain ⟨d, hd, hdc⟩ := List.mem_map.mp hmap
  rcases eq_or_letter_of_lowerAsciiChar_eq hdc with rfl | ⟨-, hlt, hne⟩
  · exact ht d hd
  · exact hletter c hlt hne

/-! ### Lower case in any script -/

/-- A character is a capital only if it is one of `A` to `Z`. -/
def PlainCase (c : Char) : Prop := c.toNat ≠ 0x3A3 ∧ lowerChar c = [lowerAsciiChar c]

/-- In lower case a character is one character. -/
def LowersTo (c d : Char) : Prop :=
  c.toNat = 0x3A3 ∧ (d.toNat = 0x3C2 ∨ d.toNat = 0x3C3) ∨ c.toNat ≠ 0x3A3 ∧ lowerChar c = [d]

theorem plainCase_of_ascii {c : Char} (h : c.toNat < 0x80) : PlainCase c := by
  refine ⟨by omega, ?_⟩
  rw [lowerChar, if_neg (by omega), if_pos h]

theorem length_lowerChar_pos (c : Char) : 0 < (lowerChar c).length := by
  rw [lowerChar]
  split
  · simp
  · split <;> simp

/-- Text does not get shorter in lower case. -/
theorem length_le_lowerAfter (before s : List Char) : s.length ≤ (lowerAfter before s).length := by
  induction s generalizing before with
  | nil => simp
  | cons c s ih =>
    have hrest := ih (c :: before)
    have hhere := length_lowerChar_pos c
    rw [lowerAfter, List.length_append, List.length_cons]
    split
    · simp only [List.length_singleton]
      omega
    · omega

/-- What holds of both small sigmas and of the lower case of each other character holds of text in
lower case. -/
theorem forall_mem_lowerAfter {P Q : Char → Prop} (hsigma : ∀ n ∈ [0x3C2, 0x3C3], Q (Char.ofNat n))
    (hchar : ∀ c : Char, c.toNat ≠ 0x3A3 → P c → ∀ d ∈ lowerChar c, Q d) {before s : List Char}
    (h : ∀ c ∈ s, P c) : ∀ d ∈ lowerAfter before s, Q d := by
  induction s generalizing before with
  | nil => simp [lowerAfter]
  | cons c s ih =>
    obtain ⟨hc, hs⟩ := List.forall_mem_cons.mp h
    intro d hd
    rw [lowerAfter, List.mem_append] at hd
    rcases hd with hd | hd
    · split at hd
      · rw [List.mem_singleton.mp hd]
        split <;> exact hsigma _ (by simp)
      · next hne => exact hchar c hne hc d hd
    · exact ih hs d hd

theorem lowerAfter_eq_map {before s : List Char} (h : ∀ c ∈ s, PlainCase c) :
    lowerAfter before s = s.map lowerAsciiChar := by
  induction s generalizing before with
  | nil => rfl
  | cons c s ih =>
    obtain ⟨hsigma, hlower⟩ := h c (by simp)
    rw [lowerAfter, if_neg hsigma, hlower, ih fun d hd => h d (by simp [hd])]
    rfl

/-- Text that is no longer in lower case than before is lowered one character by one. -/
theorem exists_lowerAfter_cons {before s : List Char} {c : Char}
    (h : (lowerAfter before (c :: s)).length ≤ (c :: s).length) :
    ∃ d, lowerAfter before (c :: s) = d :: lowerAfter (c :: before) s ∧
      (lowerAfter (c :: before) s).length ≤ s.length ∧ LowersTo c d := by
  have hrest := length_le_lowerAfter (c :: before) s
  by_cases hsigma : c.toNat = 0x3A3
  · rw [lowerAfter, if_pos hsigma] at h ⊢
    simp only [List.singleton_append, List.length_cons, Nat.add_le_add_iff_right] at h
    refine ⟨_, rfl, h, Or.inl ⟨hsigma, ?_⟩⟩
    split
    · exact Or.inl rfl
    · exact Or.inr rfl
  · rw [lowerAfter, if_neg hsigma] at h ⊢
    have hhere := length_lowerChar_pos c
    rw [List.length_append, List.length_cons] at h
    obtain ⟨d, hd⟩ := List.length_eq_one_iff.mp (show (lowerChar c).length = 1 by omega)
    rw [hd]
    exact ⟨d, rfl, by omega, Or.inr ⟨hsigma, hd⟩⟩

/-- Where lower case is that of `A` to `Z` there are no other capitals. -/
theorem plainCase_of_lowerAfter_eq {before s : List Char}
    (h : lowerAfter before s = s.map lowerAsciiChar) : ∀ c ∈ s, PlainCase c := by
  induction s generalizing before with
  | nil => simp
  | cons c s ih =>
    have hlen : (lowerAfter before (c :: s)).length = (c :: s).length := by
      rw [h, List.length_map]
    obtain ⟨d, hcons, -, hd⟩ := exists_lowerAfter_cons (Nat.le_of_eq hlen)
    rw [hcons, List.map_cons] at h
    obtain ⟨rfl, hrest⟩ := List.cons.inj h
    rw [List.forall_mem_cons]
    refine ⟨?_, ih hrest⟩
    rcases hd with ⟨hsigma, hd⟩ | ⟨hsigma, hd⟩
    · rw [toNat_lowerAsciiChar] at hd
      split at hd <;> omega
    · exact ⟨hsigma, hd⟩

/-- Lower case is that of `A` to `Z` exactly if there are no other capitals. -/
theorem lower_eq_lowerAscii_iff (s : String) :
    lower s = lowerAscii s ↔ ∀ c ∈ s.toList, PlainCase c := by
  rw [← String.toList_inj, lower, lowerAscii, String.toList_ofList, String.toList_ofList]
  exact ⟨plainCase_of_lowerAfter_eq, lowerAfter_eq_map⟩

/-- Texts that differ only in the case of `A` to `Z` have one lower case, if one of them has no
other capitals. -/
theorem lower_eq_of_lowerAscii_eq {s t : String} (ht : lower t = lowerAscii t)
    (h : lowerAscii s = lowerAscii t) : lower s = lower t := by
  have hs := forall_of_lowerAscii_eq (fun c hlt _ => plainCase_of_ascii hlt) h
    ((lower_eq_lowerAscii_iff t).mp ht)
  rw [(lower_eq_lowerAscii_iff s).mpr hs, h, ht]

/-! ### Lower case of lower case -/

theorem CaseRun.has_iff {r : CaseRun} {n : Nat} :
    r.has n = true ↔ (r.first ≤ n ∧ n ≤ r.last) ∧ (n - r.first) % r.step = 0 := by
  simp [CaseRun.has]

/-- The runs hold, and lead to, characters that are searched as they are stored. -/
theorem runs_searchable : ∀ r ∈ lowerRuns, 0 < r.first ∧ 0 < (r.first : Int) + r.shift ∧
    ((r.last : Int) + r.shift < 0xD800 ∨
      0xE000 ≤ (r.first : Int) + r.shift ∧ (r.last : Int) + r.shift < 0xFFFE ∨
      0x10000 ≤ (r.first : Int) + r.shift ∧ (r.last : Int) + r.shift < 0x110000) := by
  decide +kernel

/-- A code point is its own lower case and no run holds it, or it is that of a run. -/
theorem mapCode_cases (n : Nat) :
    mapCode lowerRuns n = n ∧ (∀ r ∈ lowerRuns, r.has n = false) ∨
      ∃ r ∈ lowerRuns, r.has n = true ∧ (mapCode lowerRuns n : Int) = n + r.shift := by
  rw [mapCode]
  cases hfind : lowerRuns.find? (·.has n) with
  | none => exact Or.inl ⟨rfl, by simpa using hfind⟩
  | some r =>
    have hr := List.mem_of_find?_eq_some hfind
    have hhas : r.has n = true := by simpa using List.find?_some hfind
    obtain ⟨⟨hfirst, -⟩, -⟩ := CaseRun.has_iff.mp hhas
    obtain ⟨-, hpos, -⟩ := runs_searchable r hr
    exact Or.inr ⟨r, hr, hhas, Int.toNat_of_nonneg (by omega)⟩

/-- A run holds none of some code points: they lie beside it, or between every two of its own. -/
def CaseRun.misses (s : CaseRun) (first last step : Nat) : Bool :=
  Nat.blt last s.first || Nat.blt s.last first ||
    (first == last || step == 2) && s.step == 2 && (first + s.first) % 2 == 1

/-- No run leads to a code point that a run holds, nor to the capital dotted I. -/
theorem runs_miss : lowerRuns.all fun r => (⟨0x130, 0x130, 1, 0⟩ :: lowerRuns).all
    (·.misses (r.first + r.shift).toNat (r.last + r.shift).toNat r.step) := by
  decide +kernel

theorem not_has_of_misses {r s : CaseRun} {n m : Nat} (hn : r.has n = true)
    (hpos : 0 < (r.first : Int) + r.shift) (hm : (m : Int) = n + r.shift)
    (h : s.misses (r.first + r.shift).toNat (r.last + r.shift).toNat r.step = true) :
    s.has m = false := by
  rw [Bool.eq_false_iff]
  intro hs
  obtain ⟨⟨hfirst, hlast⟩, hstep⟩ := CaseRun.has_iff.mp hn
  obtain ⟨⟨hfirst', hlast'⟩, hstep'⟩ := CaseRun.has_iff.mp hs
  simp only [CaseRun.misses, Bool.or_eq_true, Bool.and_eq_true, Nat.blt_eq, beq_iff_eq] at h
  rcases h with (hlt | hlt) | ⟨⟨hsingle | htwo, htwo'⟩, hodd⟩
  · omega
  · omega
  · rw [htwo'] at hstep'
    omega
  · rw [htwo] at hstep
    rw [htwo'] at hstep'
    omega

/-- A character is in lower case: it is no capital sigma, and its own lower case. -/
def IsLower (c : Char) : Prop := c.toNat ≠ 0x3A3 ∧ lowerChar c = [c]

theorem toNat_ofNat_of_run {r : CaseRun} (hr : r ∈ lowerRuns) {n m : Nat} (hn : r.has n = true)
    (hm : (m : Int) = n + r.shift) : (Char.ofNat m).toNat = m := by
  obtain ⟨⟨hfirst, hlast⟩, -⟩ := CaseRun.has_iff.mp hn
  obtain ⟨-, hpos, hrange⟩ := runs_searchable r hr
  refine toNat_ofNat_of_isValidChar ?_
  rw [Nat.isValidChar]
  omega

/-- A character that no run holds is in lower case. -/
theorem isLower_of_not_has {c : Char}
    (h : ∀ s ∈ (⟨0x130, 0x130, 1, 0⟩ : CaseRun) :: lowerRuns, s.has c.toNat = false) :
    IsLower c := by
  have hsigma : ∃ s ∈ lowerRuns, s.has 0x3A3 = true := by decide +kernel
  obtain ⟨hdot, hruns⟩ := List.forall_mem_cons.mp h
  have hdot : c.toNat ≠ 0x130 := by
    intro hc
    rw [hc] at hdot
    exact absurd hdot (by decide)
  have hcapital : ¬(65 ≤ c.toNat ∧ c.toNat ≤ 90) := by
    intro hc
    have hhas : CaseRun.has ⟨0x41, 0x5A, 1, 32⟩ c.toNat = true :=
      CaseRun.has_iff.mpr ⟨hc, Nat.mod_one _⟩
    rw [hruns _ List.mem_cons_self] at hhas
    cases hhas
  refine ⟨fun hc => ?_, ?_⟩
  · obtain ⟨s, hs, hhas⟩ := hsigma
    rw [← hc, hruns s hs] at hhas
    cases hhas
  · rw [lowerChar, if_neg hdot]
    split
    · rw [lowerAsciiChar_eq_self hcapital]
    · rcases mapCode_cases c.toNat with ⟨hself, -⟩ | ⟨r, hr, hhas, -⟩
      · rw [hself, Char.ofNat_toNat]
      · rw [hruns r hr] at hhas
        cases hhas

/-- What the lower case of a character is made of: the parts of a dotted i, the small letter of one
of `A` to `Z`, the character itself, or where a run leads it. -/
theorem mem_lowerChar_cases {c d : Char} (hd : d ∈ lowerChar c) :
    d ∈ ['i', Char.ofNat 0x307] ∨ c.toNat < 0x80 ∧ d = lowerAsciiChar c ∨
      d = c ∧ lowerChar c = [c] ∨
      ∃ r ∈ lowerRuns, r.has c.toNat = true ∧ (d.toNat : Int) = c.toNat + r.shift := by
  by_cases hdot : c.toNat = 0x130
  · rw [lowerChar, if_pos hdot] at hd
    exact Or.inl hd
  by_cases hascii : c.toNat < 0x80
  · rw [lowerChar, if_neg hdot, if_pos hascii] at hd
    exact Or.inr (Or.inl ⟨hascii, List.mem_singleton.mp hd⟩)
  have hlower : lowerChar c = [Char.ofNat (mapCode lowerRuns c.toNat)] := by
    rw [lowerChar, if_neg hdot, if_neg hascii]
  obtain rfl := List.mem_singleton.mp (hlower ▸ hd)
  refine Or.inr (Or.inr ?_)
  rcases mapCode_cases c.toNat with ⟨hself, -⟩ | ⟨r, hr, hhas, hshift⟩
  · rw [hself, Char.ofNat_toNat] at hlower ⊢
    exact Or.inl ⟨rfl, hlower⟩
  · exact Or.inr ⟨r, hr, hhas, by rw [toNat_ofNat_of_run hr hhas hshift, hshift]⟩

/-- The lower case of a character is in lower case. -/
theorem isLower_of_mem_lowerChar {c d : Char} (hc : c.toNat ≠ 0x3A3) (hd : d ∈ lowerChar c) :
    IsLower d := by
  have hdot : ∀ e ∈ ['i', Char.ofNat 0x307], e.toNat ≠ 0x3A3 ∧ lowerChar e = [e] := by
    rw [List.forall_mem_cons, List.forall_mem_singleton]
    decide +kernel
  rcases mem_lowerChar_cases hd with hd | ⟨hascii, rfl⟩ | ⟨rfl, hself⟩ | ⟨r, hr, hhas, hshift⟩
  · exact hdot d hd
  · have hlt : (lowerAsciiChar c).toNat < 0x80 := by
      rw [toNat_lowerAsciiChar]
      split <;> omega
    obtain ⟨hsigma, hlower⟩ := plainCase_of_ascii hlt
    exact ⟨hsigma, hlower.trans (congrArg (fun e => [e]) (lowerAsciiChar_lowerAsciiChar c))⟩
  · exact ⟨hc, hself⟩
  · obtain ⟨-, hpos, -⟩ := runs_searchable r hr
    exact isLower_of_not_has fun s hs => not_has_of_misses hhas hpos hshift
      (List.all_eq_true.mp (List.all_eq_true.mp runs_miss r hr) s hs)

theorem isLower_of_mem_lowerAfter {before s : List Char} :
    ∀ d ∈ lowerAfter before s, IsLower d := by
  have hsigma : ∀ n ∈ [0x3C2, 0x3C3],
      (Char.ofNat n).toNat ≠ 0x3A3 ∧ lowerChar (Char.ofNat n) = [Char.ofNat n] := by
    decide +kernel
  exact forall_mem_lowerAfter (P := fun _ => True) hsigma
    (fun _ hc _ _ => isLower_of_mem_lowerChar hc) fun _ _ => trivial

/-- Text in lower case stays as it is in front of any text. -/
theorem lowerAfter_append_of_isLower (before : List Char) {s : List Char} (h : ∀ c ∈ s, IsLower c)
    (t : List Char) : lowerAfter before (s ++ t) = s ++ lowerAfter (s.reverse ++ before) t := by
  induction s generalizing before with
  | nil => rfl
  | cons c s ih =>
    obtain ⟨⟨hsigma, hlower⟩, hs⟩ := List.forall_mem_cons.mp h
    rw [List.cons_append, lowerAfter, if_neg hsigma, hlower, ih (c :: before) hs, List.reverse_cons,
      List.append_assoc]
    rfl

theorem lowerAfter_eq_self {before s : List Char} (h : ∀ c ∈ s, IsLower c) :
    lowerAfter before s = s := by
  have happend := lowerAfter_append_of_isLower before h []
  rwa [List.append_nil, lowerAfter, List.append_nil] at happend

/-- It makes no difference how often text is put into lower case. -/
@[simp] theorem lower_lower (s : String) : lower (lower s) = lower s := by
  rw [lower, lower, String.toList_ofList, lowerAfter_eq_self isLower_of_mem_lowerAfter]

theorem IsLower.lowerAsciiChar_eq {c : Char} (h : IsLower c) : lowerAsciiChar c = c := by
  by_cases hc : c.toNat < 0x80
  · exact List.singleton_inj.mp ((plainCase_of_ascii hc).2.symm.trans h.2)
  · exact lowerAsciiChar_eq_self (by omega)

theorem IsLower.plainCase {c : Char} (h : IsLower c) : PlainCase c :=
  ⟨h.1, h.2.trans (congrArg (fun e => [e]) h.lowerAsciiChar_eq.symm)⟩

theorem map_lowerAsciiChar_lowerAfter (before s : List Char) :
    (lowerAfter before s).map lowerAsciiChar = lowerAfter before s :=
  (List.map_congr_left fun d hd => (isLower_of_mem_lowerAfter d hd).lowerAsciiChar_eq).trans
    (List.map_id _)

end JobSearch.Text
