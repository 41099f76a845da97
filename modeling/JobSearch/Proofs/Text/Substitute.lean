import JobSearch.Text.Substitute
import Mathlib.Data.List.Forall2

/-!
# Replacing parts of text

Replacing goes on from left to right: an occurrence at the front is replaced
(`replaced_append`), and a character with which no occurrence begins is passed over
(`replaced_cons`). Where the part is a single character, every occurrence of the character is
replaced (`substitute_singleton`).

What replacing makes of a piece of text does not depend on the text behind it if no occurrence
begins in the piece and ends behind it. `Turns` says so, and is closed under putting pieces
together, so text that is made of lines is replaced line by line (`Turns.lines`).

## Main definitions

* `replaced` — characters with every occurrence of a part replaced.
* `Turns` — what replacing makes of a piece of text, whatever stands behind it.
-/

namespace JobSearch.Text

/-! ### One step -/

theorem behind?_append (part s : List Char) : behind? part (part ++ s) = some s := by
  induction part with
  | nil => rfl
  | cons c cs ih => simpa [behind?] using ih

theorem splitOn_ne_nil (part s : List Char) : splitOn part s ≠ [] := by
  rw [splitOn.eq_def]
  split
  · simp
  · split
    · split <;> simp
    · split <;> simp

/-- An occurrence ends a piece. -/
theorem splitOn_append {part : List Char} (hp : part ≠ []) (s : List Char) :
    splitOn part (part ++ s) = [] :: splitOn part s := by
  obtain ⟨c, cs, rfl⟩ := List.exists_cons_of_ne_nil hp
  have hbehind := behind?_append (c :: cs) s
  rw [List.cons_append] at hbehind ⊢
  rw [splitOn.eq_def]
  simp only
  split
  · next after h =>
    obtain rfl := Option.some.inj (h.symm.trans hbehind)
    simp
  · next h => rw [hbehind] at h; cases h

/-- A character with which no occurrence begins belongs to the piece at hand. -/
theorem splitOn_cons {part : List Char} {c : Char} {s : List Char}
    (h : behind? part (c :: s) = none) :
    ∃ piece pieces, splitOn part s = piece :: pieces ∧
      splitOn part (c :: s) = (c :: piece) :: pieces := by
  obtain ⟨piece, pieces, hs⟩ := List.exists_cons_of_ne_nil (splitOn_ne_nil part s)
  refine ⟨piece, pieces, hs, ?_⟩
  rw [splitOn.eq_def]
  simp only
  split
  · next after hb => rw [h] at hb; cases hb
  · rw [hs]

/-- Characters with every occurrence of a part replaced. -/
def replaced (part replacement s : List Char) : List Char :=
  replacement.intercalate (splitOn part s)

theorem substitute_eq (part replacement s : String) :
    substitute part replacement s =
      String.ofList (replaced part.toList replacement.toList s.toList) := rfl

theorem replaced_nil (part replacement : List Char) : replaced part replacement [] = [] := by
  simp [replaced, splitOn]

theorem replaced_append {part : List Char} (hp : part ≠ []) (replacement s : List Char) :
    replaced part replacement (part ++ s) = replacement ++ replaced part replacement s := by
  rw [replaced, splitOn_append hp, List.intercalate_cons_of_ne_nil (splitOn_ne_nil _ _)]
  simp [replaced]

theorem replaced_cons {part : List Char} {c : Char} {s : List Char}
    (h : behind? part (c :: s) = none) (replacement : List Char) :
    replaced part replacement (c :: s) = c :: replaced part replacement s := by
  obtain ⟨piece, pieces, hs, hc⟩ := splitOn_cons h
  rw [replaced, replaced, hs, hc, List.intercalate_cons_cons_left]

/-- Every occurrence of a single character is replaced, and all else stays. -/
theorem substitute_singleton (c : Char) (replacement s : String) :
    (substitute (String.singleton c) replacement s).toList =
      s.toList.flatMap fun d => if d = c then replacement.toList else [d] := by
  rw [substitute_eq, String.toList_ofList, String.toList_singleton]
  induction s.toList with
  | nil => exact replaced_nil _ _
  | cons d rest ih =>
    by_cases h : c = d
    · subst h
      have happend := replaced_append (List.cons_ne_nil c []) replacement.toList rest
      rw [List.singleton_append] at happend
      rw [happend, ih]
      simp
    · rw [replaced_cons (by simp [behind?, h]), ih]
      simp [Ne.symm h]

/-! ### Piece by piece -/

/-- Replacing turns a piece of text into another one, whatever stands behind it. -/
def Turns (part replacement piece result : String) : Prop :=
  ∀ s, substitute part replacement (piece ++ s) = result ++ substitute part replacement s

namespace Turns

variable {part replacement piece result piece' result' : String}

/-- The part itself is replaced. -/
theorem part_self (h : part ≠ "") (replacement : String) :
    Turns part replacement part replacement := by
  intro s
  have hp : part.toList ≠ [] := fun he => h (String.toList_inj.mp he)
  rw [← String.toList_inj]
  simp only [substitute_eq, String.toList_append, String.toList_ofList, replaced_append hp]

theorem append (h : Turns part replacement piece result)
    (h' : Turns part replacement piece' result') :
    Turns part replacement (piece ++ piece') (result ++ result') := by
  intro s
  rw [String.append_assoc, h, h', String.append_assoc]

/-- Text in which no occurrence begins stays. -/
theorem of_behind? (h : ∀ c cs s, c :: cs <:+ piece.toList →
    behind? part.toList (c :: (cs ++ s)) = none) : Turns part replacement piece piece := by
  intro s
  rw [← String.toList_inj]
  simp only [substitute_eq, String.toList_append, String.toList_ofList]
  generalize piece.toList = cs at h
  induction cs with
  | nil => rfl
  | cons c cs ih =>
    rw [List.cons_append, replaced_cons (h c cs s.toList (List.suffix_refl _)),
      ih fun d ds t hd => h d ds t (hd.trans (List.suffix_cons c cs)), List.cons_append]

/-- Text without the first character of the part stays. -/
theorem of_not_mem {c : Char} {cs : List Char} (hpart : part.toList = c :: cs)
    (h : c ∉ piece.toList) : Turns part replacement piece piece := by
  refine of_behind? fun d ds s hd => ?_
  have hne : c ≠ d := fun he => h (he ▸ hd.mem (by simp))
  simp [hpart, behind?, hne]

/-- Text that begins as the part does and goes on in another way stays. -/
theorem of_other {c d e : Char} {cs ds : List Char} (hpart : part.toList = c :: d :: cs)
    (hpiece : piece.toList = c :: e :: ds) (hne : d ≠ e) (h : c ∉ e :: ds) :
    Turns part replacement piece piece := by
  refine of_behind? fun a as s ha => ?_
  rw [hpiece] at ha
  rcases List.suffix_cons_iff.mp ha with ha | ha
  · obtain ⟨rfl, rfl⟩ := List.cons.inj ha
    simp [hpart, behind?, hne]
  · have hac : c ≠ a := fun he => h (he ▸ ha.mem (by simp))
    simp [hpart, behind?, hac]

theorem empty (part replacement : String) : Turns part replacement "" "" := by
  intro s
  simp

/-- Text that is made of pieces is replaced piece by piece. -/
theorem join {ls ms : List String} (h : List.Forall₂ (Turns part replacement) ls ms) :
    Turns part replacement (String.join ls) (String.join ms) := by
  induction h with
  | nil => exact empty part replacement
  | cons hl _ ih =>
    simp only [String.join_cons]
    exact hl.append ih

/-- Text that is made of lines is replaced line by line. -/
theorem lines (hend : Turns part replacement "\n" "\n") {ls ms : List String}
    (h : List.Forall₂ (Turns part replacement) ls ms) :
    Turns part replacement (String.join (ls.map (· ++ "\n")))
      (String.join (ms.map (· ++ "\n"))) :=
  join (List.rel_map (fun _ _ hl => hl.append hend) h)

/-- All of a text is replaced as its only piece. -/
theorem substitute_eq (h : Turns part replacement piece result) :
    substitute part replacement piece = result := by
  have hnil : substitute part replacement "" = "" := by
    rw [← String.toList_inj]
    simp [Text.substitute_eq, replaced_nil]
  simpa [hnil] using h ""

end Turns

end JobSearch.Text
