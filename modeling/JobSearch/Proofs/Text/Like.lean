import JobSearch.Text.Like
import JobSearch.Proofs.Text.Substitute
import Mathlib.Data.List.Infix

/-!
# What patterns stand for

A pattern stands for texts: `%` for any run of characters, `_` for any one character, a character
behind a backslash for itself, and so does every other character, all up to the case of `A` to
`Z` (`Denotes`). The matcher, which tries a run of characters from the left and goes back, finds
exactly the texts that a pattern stands for (`likeMatches_iff`).

Text is escaped so that it stands only for itself, and a pattern that contains it stands for the
texts that do (`denotes_containing_iff`). Since the escape is itself escaped, the backslash has to
be replaced before the two wildcards.

## Main definitions

* `Denotes` — a pattern stands for a text.
* `OccursIn` — text occurs in another text, up to case.
-/

namespace JobSearch.Text

/-- The texts that a pattern stands for. -/
inductive Denotes : List Char → List Char → Prop where
  /-- The empty pattern stands for the empty text. -/
  | nil : Denotes [] []
  /-- A character behind a backslash stands for itself. -/
  | escaped {c d : Char} {p s : List Char} :
      sameFold c d = true → Denotes p s → Denotes ('\\' :: c :: p) (d :: s)
  /-- `%` stands for any run of characters. -/
  | run {p s : List Char} (skipped : List Char) : Denotes p s → Denotes ('%' :: p) (skipped ++ s)
  /-- `_` stands for any one character. -/
  | one {p s : List Char} (d : Char) : Denotes p s → Denotes ('_' :: p) (d :: s)
  /-- Any other character stands for itself. -/
  | char {c d : Char} {p s : List Char} : c ≠ '\\' → c ≠ '%' → c ≠ '_' →
      sameFold c d = true → Denotes p s → Denotes (c :: p) (d :: s)

/-- A text occurs in another one as a contiguous part, up to the case of `A` to `Z`. -/
def OccursIn (part whole : String) : Prop :=
  ∃ before found after, whole.toList = before ++ found ++ after ∧
    found.map lowerAsciiChar = part.toList.map lowerAsciiChar

theorem occursIn_iff_isInfix {part whole : String} :
    OccursIn part whole ↔
      part.toList.map lowerAsciiChar <:+: whole.toList.map lowerAsciiChar := by
  constructor
  · rintro ⟨before, found, after, hwhole, hfound⟩
    refine ⟨before.map lowerAsciiChar, after.map lowerAsciiChar, ?_⟩
    rw [hwhole, ← hfound, List.map_append, List.map_append]
  · rintro ⟨before, after, hwhole⟩
    obtain ⟨front, back, hsplit, hfront, -⟩ := List.map_eq_append_iff.mp hwhole.symm
    obtain ⟨first, found, rfl, -, hfound⟩ := List.map_eq_append_iff.mp hfront
    exact ⟨first, found, back, hsplit, hfound⟩

instance (part whole : String) : Decidable (OccursIn part whole) :=
  decidable_of_iff _ occursIn_iff_isInfix.symm

/-! ### Patterns by their first character -/

theorem denotes_nil_iff {s : List Char} : Denotes [] s ↔ s = [] := by
  constructor
  · intro h
    cases h
    rfl
  · rintro rfl
    exact .nil

/-- A backslash at the end escapes nothing, so the pattern stands for no text. -/
theorem not_denotes_backslash {s : List Char} : ¬Denotes ['\\'] s := by
  intro h
  generalize hp : ['\\'] = p at h
  cases h with
  | char hc _ _ _ _ => exact hc (List.cons.inj hp).1.symm
  | _ => simp at hp

theorem denotes_escaped_iff {c : Char} {p s : List Char} :
    Denotes ('\\' :: c :: p) s ↔ ∃ d t, s = d :: t ∧ sameFold c d = true ∧ Denotes p t := by
  constructor
  · intro h
    generalize hq : '\\' :: c :: p = q at h
    cases h with
    | nil => simp at hq
    | escaped hd ht =>
      obtain ⟨-, rfl, rfl⟩ : True ∧ _ ∧ _ := by simpa using hq
      exact ⟨_, _, rfl, hd, ht⟩
    | run _ _ => simp at hq
    | one _ _ => simp at hq
    | char hc _ _ _ _ => exact absurd (List.cons.inj hq).1.symm hc
  · rintro ⟨d, t, rfl, hd, ht⟩
    exact .escaped hd ht

theorem denotes_run_iff {p s : List Char} :
    Denotes ('%' :: p) s ↔ ∃ skipped t, s = skipped ++ t ∧ Denotes p t := by
  constructor
  · intro h
    generalize hq : '%' :: p = q at h
    cases h with
    | nil => simp at hq
    | escaped _ _ => simp at hq
    | run skipped ht =>
      obtain rfl := (List.cons.inj hq).2
      exact ⟨skipped, _, rfl, ht⟩
    | one _ _ => simp at hq
    | char _ hc _ _ _ => exact absurd (List.cons.inj hq).1.symm hc
  · rintro ⟨skipped, t, rfl, ht⟩
    exact .run skipped ht

theorem denotes_one_iff {p s : List Char} :
    Denotes ('_' :: p) s ↔ ∃ d t, s = d :: t ∧ Denotes p t := by
  constructor
  · intro h
    generalize hq : '_' :: p = q at h
    cases h with
    | nil => simp at hq
    | escaped _ _ => simp at hq
    | run _ _ => simp at hq
    | one d ht =>
      obtain rfl := (List.cons.inj hq).2
      exact ⟨d, _, rfl, ht⟩
    | char _ _ hc _ _ => exact absurd (List.cons.inj hq).1.symm hc
  · rintro ⟨d, t, rfl, ht⟩
    exact .one d ht

theorem denotes_char_iff {c : Char} (hb : c ≠ '\\') (hr : c ≠ '%') (ho : c ≠ '_')
    {p s : List Char} :
    Denotes (c :: p) s ↔ ∃ d t, s = d :: t ∧ sameFold c d = true ∧ Denotes p t := by
  constructor
  · intro h
    generalize hq : c :: p = q at h
    cases h with
    | nil => simp at hq
    | escaped _ _ => exact absurd (List.cons.inj hq).1 hb
    | run _ _ => exact absurd (List.cons.inj hq).1 hr
    | one _ _ => exact absurd (List.cons.inj hq).1 ho
    | char _ _ _ hd ht =>
      obtain ⟨rfl, rfl⟩ := List.cons.inj hq
      exact ⟨_, _, rfl, hd, ht⟩
  · rintro ⟨d, t, rfl, hd, ht⟩
    exact .char hb hr ho hd ht

/-! ### The matcher -/

/-- Behind a run of characters the matcher tries every end of the text. -/
theorem matchAnywhere_iff (ps : List Piece) (s : List Char) :
    piecesMatch.matchAnywhere ps s = true ↔
      ∃ skipped t, s = skipped ++ t ∧ piecesMatch ps t = true := by
  induction s with
  | nil =>
    rw [piecesMatch.matchAnywhere]
    constructor
    · intro h
      exact ⟨[], [], rfl, h⟩
    · rintro ⟨skipped, t, hs, h⟩
      rwa [(List.append_eq_nil_iff.mp hs.symm).2] at h
  | cons d rest ih =>
    rw [piecesMatch.matchAnywhere, Bool.or_eq_true, ih]
    constructor
    · rintro (h | ⟨skipped, t, rfl, h⟩)
      · exact ⟨[], _, rfl, h⟩
      · exact ⟨d :: skipped, t, rfl, h⟩
    · rintro ⟨skipped, t, hs, h⟩
      cases skipped with
      | nil => exact Or.inl (hs ▸ h)
      | cons e skipped =>
        obtain ⟨rfl, rfl⟩ := List.cons.inj hs
        exact Or.inr ⟨skipped, t, rfl, h⟩

theorem piecesMatch_anyRun (ps : List Piece) (s : List Char) :
    piecesMatch (.anyRun :: ps) s = true ↔
      ∃ skipped t, s = skipped ++ t ∧ piecesMatch ps t = true := by
  rw [piecesMatch, matchAnywhere_iff]

theorem piecesMatch_anyOne (ps : List Piece) (s : List Char) :
    piecesMatch (.anyOne :: ps) s = true ↔ ∃ d t, s = d :: t ∧ piecesMatch ps t = true := by
  cases s <;> simp [piecesMatch]

theorem piecesMatch_char (c : Char) (ps : List Piece) (s : List Char) :
    piecesMatch (.char c :: ps) s = true ↔
      ∃ d t, s = d :: t ∧ sameFold c d = true ∧ piecesMatch ps t = true := by
  cases s <;> simp [piecesMatch]

/-- The pieces of a pattern match the texts that the pattern stands for. -/
theorem pieces_match_iff (p s : List Char) :
    (∃ ps, pieces? p = some ps ∧ piecesMatch ps s = true) ↔ Denotes p s := by
  induction p using pieces?.induct generalizing s with
  | case1 => simp [pieces?, piecesMatch, denotes_nil_iff]
  | case2 => simp [pieces?, not_denotes_backslash]
  | case3 c p ih =>
    simp only [denotes_escaped_iff, ← ih, pieces?, Option.map_eq_some_iff,
      exists_exists_and_eq_and, piecesMatch_char]
    grind
  | case4 c p hend hescape ih =>
    have hb : c ≠ '\\' := by
      intro hc
      cases p with
      | nil => exact hend hc rfl
      | cons d rest => exact hescape d rest hc rfl
    rw [pieces?.eq_4 c p hend hescape]
    simp only [Option.map_eq_some_iff, exists_exists_and_eq_and]
    by_cases hr : c = '%'
    · subst hr
      simp only [denotes_run_iff, ← ih, if_true, piecesMatch_anyRun]
      grind
    · by_cases ho : c = '_'
      · subst ho
        simp only [denotes_one_iff, ← ih, hr, if_true, if_false, piecesMatch_anyOne]
        grind
      · simp only [denotes_char_iff hb hr ho, ← ih, hr, ho, if_false, piecesMatch_char]
        grind

/-- The matcher accepts exactly the texts that a pattern stands for. -/
theorem likeMatches_iff (pattern text : String) :
    likeMatches pattern text = true ↔ Denotes pattern.toList text.toList := by
  rw [← pieces_match_iff, likeMatches]
  cases pieces? pattern.toList <;> simp

/-! ### Escaped text -/

/-- A character escaped for a pattern stands for itself. -/
theorem denotes_escapeLikeChar_iff (c : Char) {p s : List Char} :
    Denotes (escapeLikeChar c ++ p) s ↔
      ∃ d t, s = d :: t ∧ sameFold c d = true ∧ Denotes p t := by
  rw [escapeLikeChar]
  split
  · exact denotes_escaped_iff
  · next h =>
    simp only [not_or] at h
    exact denotes_char_iff h.1 h.2.1 h.2.2

/-- Escaped text in front of a pattern stands for the text itself, up to case. -/
theorem denotes_escaped_append_iff (cs : List Char) {p s : List Char} :
    Denotes (cs.flatMap escapeLikeChar ++ p) s ↔
      ∃ found t, s = found ++ t ∧ found.map lowerAsciiChar = cs.map lowerAsciiChar ∧
        Denotes p t := by
  induction cs generalizing s with
  | nil => simp
  | cons c cs ih =>
    rw [List.flatMap_cons, List.append_assoc, denotes_escapeLikeChar_iff]
    constructor
    · rintro ⟨d, t, rfl, hd, ht⟩
      obtain ⟨found, u, rfl, hfound, hu⟩ := ih.mp ht
      have hcd : lowerAsciiChar c = lowerAsciiChar d := by simpa [sameFold] using hd
      exact ⟨d :: found, u, rfl, by rw [List.map_cons, List.map_cons, hcd, hfound], hu⟩
    · rintro ⟨found, t, rfl, hfound, ht⟩
      cases found with
      | nil => simp at hfound
      | cons d found =>
        obtain ⟨hd, hfound⟩ := List.cons.inj hfound
        exact ⟨d, found ++ t, rfl, by simp [sameFold, hd], ih.mpr ⟨found, t, rfl, hfound, ht⟩⟩

/-- The pattern of text stands for the texts in which it occurs. -/
theorem denotes_containing_iff (part whole : String) :
    Denotes (containing part).toList whole.toList ↔ OccursIn part whole := by
  have hpattern : (containing part).toList =
      '%' :: (part.toList.flatMap escapeLikeChar ++ ['%']) := by
    simp [containing, escapeLike]
  have hrest : ∀ s, Denotes ['%'] s := fun s => by
    rw [← List.append_nil s]
    exact .run s .nil
  rw [hpattern, denotes_run_iff, OccursIn]
  simp only [denotes_escaped_append_iff, hrest, and_true]
  constructor
  · rintro ⟨before, s, hs, found, after, rfl, hfound⟩
    exact ⟨before, found, after, by rw [hs, List.append_assoc], hfound⟩
  · rintro ⟨before, found, after, hs, hfound⟩
    exact ⟨before, found ++ after, by rw [hs, List.append_assoc], found, after, rfl, hfound⟩

/-- Escaping the backslash and then the two wildcards, one after the other, is escaping each
character. -/
theorem escapeLike_eq_substitute (s : String) :
    escapeLike s =
      substitute "_" "\\_" (substitute "%" "\\%" (substitute "\\" "\\\\" s)) := by
  rw [← String.toList_inj, escapeLike, String.toList_ofList]
  have hchar : ∀ (c : Char) (replacement t : String),
      (substitute (String.ofList [c]) replacement t).toList =
        t.toList.flatMap fun d => if d = c then replacement.toList else [d] :=
    substitute_singleton
  rw [show "_" = String.ofList ['_'] from rfl, show "%" = String.ofList ['%'] from rfl,
    show "\\" = String.ofList ['\\'] from rfl, hchar, hchar, hchar, List.flatMap_assoc,
    List.flatMap_assoc]
  refine List.flatMap_congr fun c _ => ?_
  by_cases hb : c = '\\'
  · subst hb
    decide
  · by_cases hr : c = '%'
    · subst hr
      decide
    · by_cases ho : c = '_'
      · subst ho
        decide
      · simp [escapeLikeChar, hb, hr, ho]

/-- Search is literal: the pattern of text, which is escaped one special character after the
other, stands for the texts in which it occurs, and the matcher finds exactly these. -/
theorem search_is_literal (part whole : String) :
    containing part =
        "%" ++ substitute "_" "\\_" (substitute "%" "\\%" (substitute "\\" "\\\\" part)) ++ "%" ∧
      (Denotes (containing part).toList whole.toList ↔ OccursIn part whole) ∧
      (likeMatches (containing part) whole = true ↔ OccursIn part whole) := by
  refine ⟨?_, denotes_containing_iff part whole, ?_⟩
  · rw [← escapeLike_eq_substitute, containing]
  · rw [likeMatches_iff, denotes_containing_iff]

end JobSearch.Text
