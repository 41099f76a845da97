import JobSearch.Proofs.Text.Substitute
import Mathlib.Algebra.GroupWithZero.Nat

/-!
# Counting occurrences of a part

Text is made of its pieces with the part between them (`replaced_self`), and replacing puts
something else there. So replacing changes the number of a character by what it puts in and takes
out (`count_replaced`), and nothing at all if the part does not occur. Occurrences of a part are
counted piece by piece as well (`occurrences_append_cons`), unless one may begin in a piece and end
behind it: that cannot be where what stands between the pieces begins with a character that is
nowhere in the part but at its front.

## Main definitions

* `occurrences` — the number of occurrences of a part in characters.
* `Adds` — text that adds the same number of occurrences wherever it is put.
-/

namespace JobSearch.Text

variable {part : List Char}

/-! ### Beginnings -/

theorem behind?_eq_some_iff {s rest : List Char} :
    behind? part s = some rest ↔ s = part ++ rest := by
  constructor
  · intro h
    induction part generalizing s with
    | nil => exact Option.some.inj h
    | cons c cs ih =>
      cases s with
      | nil => cases h
      | cons d ds =>
        rw [behind?] at h
        split at h
        · next hcd => rw [hcd, ih h, List.cons_append]
        · cases h
  · rintro rfl
    exact behind?_append part rest

theorem behind?_eq_none_iff {s : List Char} : behind? part s = none ↔ ¬part <+: s := by
  rw [Option.eq_none_iff_forall_ne_some]
  constructor
  · rintro h ⟨rest, hrest⟩
    exact h rest (behind?_eq_some_iff.mpr hrest.symm)
  · rintro h rest hrest
    exact h ⟨rest, (behind?_eq_some_iff.mp hrest).symm⟩

/-- A beginning without some character does not reach behind it. -/
theorem prefix_of_notMem {t a y : List Char} {z : Char} (hz : z ∉ t) (h : t <+: a ++ z :: y) :
    t <+: a := by
  refine List.prefix_of_prefix_length_le h (List.prefix_append a _) ?_
  by_contra hlength
  have hfront : a ++ [z] <+: t := by
    refine List.prefix_of_prefix_length_le ?_ h (by simp; omega)
    exact ⟨y, by simp⟩
  exact hz (hfront.subset (by simp))

/-- What holds of empty text, and stays when the part or a character with which no occurrence
begins is put in front, holds of all text. -/
theorem splitOn_induction (hp : part ≠ []) {P : List Char → Prop} (nil : P [])
    (occurrence : ∀ s, P s → P (part ++ s))
    (char : ∀ c s, behind? part (c :: s) = none → P s → P (c :: s)) (s : List Char) : P s := by
  induction hn : s.length using Nat.strongRecOn generalizing s with
  | _ n ih =>
    cases s with
    | nil => exact nil
    | cons c rest =>
      cases hbehind : behind? part (c :: rest) with
      | none => exact char c rest hbehind (ih rest.length (by simp [← hn]) rest rfl)
      | some after =>
        have hlength := length_of_behind? hbehind
        have hpos := List.length_pos_iff.mpr hp
        rw [behind?_eq_some_iff.mp hbehind]
        exact occurrence after (ih after.length (by omega) after rfl)

/-! ### Pieces -/

/-- The number of occurrences of a part. -/
def occurrences (part s : List Char) : Nat := (splitOn part s).length - 1

theorem countOf_eq (part s : String) : countOf part s = occurrences part.toList s.toList := rfl

theorem length_splitOn (part s : List Char) :
    (splitOn part s).length = occurrences part s + 1 :=
  (Nat.sub_add_cancel (List.length_pos_iff.mpr (splitOn_ne_nil part s))).symm

theorem occurrences_nil (part : List Char) : occurrences part [] = 0 := by
  simp [occurrences, splitOn]

theorem occurrences_append (hp : part ≠ []) (s : List Char) :
    occurrences part (part ++ s) = occurrences part s + 1 := by
  rw [occurrences, splitOn_append hp, List.length_cons, length_splitOn, Nat.add_sub_cancel]

theorem occurrences_cons {c : Char} {s : List Char} (h : behind? part (c :: s) = none) :
    occurrences part (c :: s) = occurrences part s := by
  obtain ⟨piece, pieces, hs, hc⟩ := splitOn_cons h
  rw [occurrences, occurrences, hs, hc, List.length_cons, List.length_cons]

/-- Text is made of its pieces with the part between them. -/
theorem replaced_self (hp : part ≠ []) (s : List Char) : replaced part part s = s := by
  induction s using splitOn_induction hp with
  | nil => exact replaced_nil part part
  | occurrence s ih => rw [replaced_append hp, ih]
  | char c s h ih => rw [replaced_cons h, ih]

/-- Where the part does not occur, nothing is replaced. -/
theorem replaced_of_occurrences_eq_zero (hp : part ≠ []) {s : List Char}
    (h : occurrences part s = 0) (replacement : List Char) : replaced part replacement s = s := by
  obtain ⟨piece, hpiece⟩ := List.length_eq_one_iff.mp
    ((length_splitOn part s).trans (congrArg (· + 1) h))
  have hself := replaced_self hp s
  rw [replaced, hpiece, List.intercalate_singleton] at hself ⊢
  exact hself

/-- Where the part occurs once, what stands before it and behind it stays. -/
theorem exists_of_occurrences_eq_one (hp : part ≠ []) {s : List Char}
    (h : occurrences part s = 1) : ∃ before after, s = before ++ part ++ after ∧
      ∀ replacement, replaced part replacement s = before ++ replacement ++ after := by
  obtain ⟨before, after, hpieces⟩ := List.length_eq_two.mp
    ((length_splitOn part s).trans (congrArg (· + 1) h))
  have hreplaced (replacement : List Char) :
      replaced part replacement s = before ++ replacement ++ after := by
    rw [replaced, hpieces, List.intercalate_cons_cons, List.intercalate_singleton]
  exact ⟨before, after, (replaced_self hp s).symm.trans (hreplaced part), hreplaced⟩

/-- Replacing puts in and takes out characters as often as the part occurs. -/
theorem count_replaced (hp : part ≠ []) (c : Char) (replacement s : List Char) :
    (replaced part replacement s).count c + occurrences part s * part.count c =
      s.count c + occurrences part s * replacement.count c := by
  induction s using splitOn_induction hp with
  | nil => simp [replaced_nil, occurrences_nil]
  | occurrence s ih =>
    rw [replaced_append hp, occurrences_append hp, List.count_append, List.count_append,
      Nat.add_mul, Nat.add_mul]
    omega
  | char d s h ih =>
    rw [replaced_cons h, occurrences_cons h, List.count_cons, List.count_cons]
    omega

/-! ### Piece by piece -/

/-- No occurrence begins before a character that is nowhere in the part but at its front and ends
behind it. -/
theorem occurrences_append_cons (hp : part ≠ []) {z : Char} (hz : z ∉ part.tail)
    (a y : List Char) :
    occurrences part (a ++ z :: y) = occurrences part a + occurrences part (z :: y) := by
  induction a using splitOn_induction hp with
  | nil => rw [List.nil_append, occurrences_nil, Nat.zero_add]
  | occurrence a ih =>
    rw [List.append_assoc, occurrences_append hp, occurrences_append hp, ih]
    omega
  | char c a h ih =>
    have hbehind : behind? part (c :: (a ++ z :: y)) = none := by
      rw [behind?_eq_none_iff] at h ⊢
      intro hfront
      obtain ⟨d, t, rfl⟩ := List.exists_cons_of_ne_nil hp
      obtain ⟨rfl, ht⟩ := List.cons_prefix_cons.mp hfront
      exact h (List.cons_prefix_cons.mpr ⟨rfl, prefix_of_notMem hz ht⟩)
    rw [List.cons_append, occurrences_cons hbehind, occurrences_cons h, ih]

/-- Characters with none of which an occurrence begins do not count. -/
theorem occurrences_append_of_behind? {r y : List Char}
    (h : ∀ c cs, c :: cs <:+ r → behind? part (c :: (cs ++ y)) = none) :
    occurrences part (r ++ y) = occurrences part y := by
  induction r with
  | nil => rfl
  | cons c r ih =>
    rw [List.cons_append, occurrences_cons (h c r (List.suffix_refl _)),
      ih fun d ds hd => h d ds (hd.trans (List.suffix_cons c r))]

/-! ### Text between others -/

/-- Text that adds `k` occurrences of a part wherever it is put: no occurrence ends in it that
begins before it, and none begins in it that ends behind it. -/
structure Adds (part : List Char) (k : Nat) (text : List Char) : Prop where
  begins : ∃ z r, text = z :: r ∧ z ∉ part.tail
  occurrences_append : ∀ y, occurrences part (text ++ y) = k + occurrences part y

namespace Adds

variable {k : Nat} {text : List Char}

theorem occurrences_around (h : Adds part k text) (hp : part ≠ []) (a y : List Char) :
    occurrences part (a ++ text ++ y) = occurrences part a + k + occurrences part y := by
  obtain ⟨z, r, htext, hz⟩ := h.begins
  rw [htext, List.append_assoc, List.cons_append, occurrences_append_cons hp hz,
    ← List.cons_append, ← htext, h.occurrences_append, Nat.add_assoc]

/-- Between pieces it adds as many occurrences each time. -/
theorem occurrences_intercalate (h : Adds part k text) (hp : part ≠ [])
    {pieces : List (List Char)} (hne : pieces ≠ []) :
    occurrences part (text.intercalate pieces) =
      (pieces.map (occurrences part)).sum + (pieces.length - 1) * k := by
  induction pieces with
  | nil => exact absurd rfl hne
  | cons piece rest ih =>
    cases rest with
    | nil => simp
    | cons piece' rest =>
      rw [List.intercalate_cons_of_ne_nil (List.cons_ne_nil _ _), h.occurrences_around hp,
        ih (List.cons_ne_nil _ _)]
      simp only [List.map_cons, List.sum_cons, List.length_cons, Nat.add_sub_cancel, Nat.add_mul,
        Nat.one_mul]
      omega

end Adds

end JobSearch.Text
