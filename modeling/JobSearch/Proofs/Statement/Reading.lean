import JobSearch.Query.Statement
import Mathlib.Data.List.Forall2

/-!
# Reading text with its values

A statement is text with question marks and a list of values beside it. It is read by putting the
values into the places of the question marks, from left to right (`fillIn?`); that fails if there
are more or fewer values than marks. `Reads` says what comes out, and its closure lemmas follow
the ways in which texts are put together: side by side, and several with words between them.

Read text determines the text itself: it is what is left when the values are rubbed out
(`Reads.text_eq`).

## Main definitions

* `Token` — a character of read text, or a value in it.
* `fillIn?`, `Reads` — text with its values put in.
* `words`, `listed` — read text without a value; several ones in a row.
* `rubbed` — read text with its values rubbed out.
* `Plain` — text without a question mark and without the gaps of a template.
-/

namespace JobSearch.Query

/-- A character of read text, or a value in the place of a question mark. -/
inductive Token where
  | char (c : Char)
  | value (v : Cell)
  deriving DecidableEq

/-- Text with values in the places of its question marks, from left to right; nothing unless
there are as many values as question marks. -/
def fillIn? : List Char → List Cell → Option (List Token)
  | [], [] => some []
  | [], _ :: _ => none
  | c :: s, vs =>
    if c = '?' then
      match vs with
      | [] => none
      | v :: vs => (fillIn? s vs).map (.value v :: ·)
    else (fillIn? s vs).map (.char c :: ·)

/-- With its values put in, the text reads as given, and it has no gap of a template in it. -/
structure Reads (s : String) (vs : List Cell) (w : List Token) : Prop where
  fillIn?_eq : fillIn? s.toList vs = some w
  no_gap : '\x7b' ∉ s.toList

/-- Read text without a value. -/
def words (s : String) : List Token := s.toList.map .char

/-- Several read texts in a row, with words between them. -/
def listed (separator : String) (ws : List (List Token)) : List Token :=
  (words separator).intercalate ws

/-- Read text with its values rubbed out. -/
def rubbed (w : List Token) : String :=
  String.ofList (w.map fun
    | .char c => c
    | .value _ => '?')

/-- Text without a question mark and without the opening brace of a gap. -/
structure Plain (s : String) : Prop where
  no_mark : '?' ∉ s.toList
  no_gap : '\x7b' ∉ s.toList

/-! ### Plain text -/

/-- What holds of empty text and of texts put together holds of texts in a row. -/
theorem intercalate_closed {P : String → Prop} (hempty : P "")
    (happend : ∀ s t, P s → P t → P (s ++ t)) {separator : String} (hsep : P separator)
    {ss : List String} (h : ∀ s ∈ ss, P s) : P (separator.intercalate ss) := by
  induction ss with
  | nil => exact hempty
  | cons s rest ih =>
    obtain ⟨hs, hrest⟩ := List.forall_mem_cons.mp h
    by_cases hr : rest = []
    · subst hr
      simpa using hs
    · rw [String.intercalate_cons_of_ne_nil hr]
      exact happend _ _ (happend _ _ hs hsep) (ih hrest)

/-- A constant is plain if its characters are. -/
theorem Plain.of_eq {s : String} (h : ∃ cs, s = String.ofList cs ∧ '?' ∉ cs ∧ '\x7b' ∉ cs) :
    Plain s := by
  obtain ⟨cs, rfl, hmark, hgap⟩ := h
  exact ⟨by simpa using hmark, by simpa using hgap⟩

@[simp] theorem plain_append {s t : String} : Plain (s ++ t) ↔ Plain s ∧ Plain t := by
  constructor
  · rintro ⟨hmark, hgap⟩
    simp only [String.toList_append, List.mem_append, not_or] at hmark hgap
    exact ⟨⟨hmark.1, hgap.1⟩, ⟨hmark.2, hgap.2⟩⟩
  · rintro ⟨hs, ht⟩
    exact ⟨by simp [hs.no_mark, ht.no_mark], by simp [hs.no_gap, ht.no_gap]⟩

theorem Plain.intercalate {separator : String} (hsep : Plain separator) {ss : List String}
    (h : ∀ s ∈ ss, Plain s) : Plain (separator.intercalate ss) :=
  intercalate_closed (.of_eq ⟨[], rfl, by simp⟩) (fun _ _ hs ht => plain_append.mpr ⟨hs, ht⟩) hsep h

/-! ### Words in a row -/

@[simp] theorem words_append (s t : String) : words (s ++ t) = words s ++ words t := by
  simp [words]

@[simp] theorem listed_nil (separator : String) : listed separator [] = [] := by simp [listed]

@[simp] theorem listed_singleton (separator : String) (w : List Token) :
    listed separator [w] = w := by simp [listed]

theorem listed_cons {separator : String} {ws : List (List Token)} (h : ws ≠ []) (w : List Token) :
    listed separator (w :: ws) = w ++ words separator ++ listed separator ws := by
  rw [listed, List.intercalate_cons_of_ne_nil h, listed]

/-- Conditions in a row, the first of which are several in a row, are all in a row. -/
theorem listed_listed {separator : String} {ws : List (List Token)} (hne : ws ≠ [])
    (xs : List (List Token)) :
    listed separator (listed separator ws :: xs) = listed separator (ws ++ xs) := by
  by_cases hxs : xs = []
  · subst hxs
    rw [listed_singleton, List.append_nil]
  · rw [listed_cons hxs]
    induction ws with
    | nil => exact absurd rfl hne
    | cons w ws ih =>
      by_cases hws : ws = []
      · subst hws
        rw [listed_singleton, List.singleton_append, listed_cons hxs]
      · rw [listed_cons hws, List.cons_append, listed_cons (by simp [hws]), ← ih hws]
        simp only [List.append_assoc]

theorem words_intercalate (separator : String) (ss : List String) :
    words (separator.intercalate ss) = listed separator (ss.map words) := by
  induction ss with
  | nil => rfl
  | cons s ss ih =>
    by_cases hss : ss = []
    · subst hss
      simp
    · rw [String.intercalate_cons_of_ne_nil hss, words_append, words_append, ih, List.map_cons,
        listed_cons (by simpa using hss)]

theorem rubbed_append (w x : List Token) : rubbed (w ++ x) = rubbed w ++ rubbed x := by
  simp [rubbed, String.ofList_append]

@[simp] theorem rubbed_words (s : String) : rubbed (words s) = s := by
  simp [rubbed, words, Function.comp_def]

theorem rubbed_listed (separator : String) (ws : List (List Token)) :
    rubbed (listed separator ws) = separator.intercalate (ws.map rubbed) := by
  induction ws with
  | nil => simp [rubbed]
  | cons w ws ih =>
    by_cases h : ws = []
    · subst h
      simp
    · rw [listed_cons h, rubbed_append, rubbed_append, rubbed_words, ih, List.map_cons,
        String.intercalate_cons_of_ne_nil (by simpa using h)]

/-! ### Putting values in -/

theorem fillIn?_nil_eq_some_iff {vs : List Cell} {w : List Token} :
    fillIn? [] vs = some w ↔ vs = [] ∧ w = [] := by
  cases vs <;> simp [fillIn?, eq_comm]

/-- A question mark takes the first value, any other character takes none. -/
theorem fillIn?_cons_eq_some_iff {c : Char} {s : List Char} {vs : List Cell} {w : List Token} :
    fillIn? (c :: s) vs = some w ↔
      (c = '?' ∧ ∃ v us x, vs = v :: us ∧ w = .value v :: x ∧ fillIn? s us = some x) ∨
        (c ≠ '?' ∧ ∃ x, w = .char c :: x ∧ fillIn? s vs = some x) := by
  by_cases hc : c = '?'
  · cases vs with
    | nil => simp [fillIn?, hc]
    | cons v us =>
      simp only [fillIn?, hc, if_true, Option.map_eq_some_iff]
      grind
  · simp only [fillIn?, hc, if_false, Option.map_eq_some_iff]
    grind

theorem fillIn?_append {s t : List Char} {vs us : List Cell} {w x : List Token}
    (h : fillIn? s vs = some w) (h' : fillIn? t us = some x) :
    fillIn? (s ++ t) (vs ++ us) = some (w ++ x) := by
  induction s generalizing vs w with
  | nil =>
    obtain ⟨rfl, rfl⟩ := fillIn?_nil_eq_some_iff.mp h
    exact h'
  | cons c s ih =>
    refine fillIn?_cons_eq_some_iff.mpr ?_
    rcases fillIn?_cons_eq_some_iff.mp h with ⟨hc, v, rest, y, rfl, rfl, hy⟩ | ⟨hc, y, rfl, hy⟩
    · exact Or.inl ⟨hc, v, rest ++ us, y ++ x, rfl, rfl, ih hy⟩
    · exact Or.inr ⟨hc, y ++ x, rfl, ih hy⟩

theorem fillIn?_of_not_mem {s : List Char} (h : '?' ∉ s) :
    fillIn? s [] = some (s.map .char) := by
  induction s with
  | nil => rfl
  | cons c s ih =>
    simp only [List.mem_cons, not_or] at h
    obtain ⟨hc, hs⟩ := h
    exact fillIn?_cons_eq_some_iff.mpr (Or.inr ⟨Ne.symm hc, _, rfl, ih hs⟩)

namespace Reads

variable {s t : String} {vs us : List Cell} {w x : List Token}

/-- Plain text reads as it stands. -/
theorem plain (h : Plain s) : Reads s [] (words s) := ⟨fillIn?_of_not_mem h.no_mark, h.no_gap⟩

/-- A question mark reads as its value. -/
theorem mark (v : Cell) : Reads "?" [v] [.value v] := ⟨rfl, by decide⟩

theorem append (h : Reads s vs w) (h' : Reads t us x) : Reads (s ++ t) (vs ++ us) (w ++ x) := by
  constructor <;> rw [String.toList_append]
  · exact fillIn?_append h.fillIn?_eq h'.fillIn?_eq
  · simp [h.no_gap, h'.no_gap]

/-- Two texts with plain text between them. -/
theorem joined (separator : String) (hsep : Plain separator) (h : Reads s vs w)
    (h' : Reads t us x) :
    Reads (s ++ separator ++ t) (vs ++ us) (w ++ words separator ++ x) := by
  simpa using (h.append (plain hsep)).append h'

/-- Text between two plain texts. -/
theorem between {before after : String} (hb : Plain before) (h : Reads s vs w)
    (ha : Plain after) :
    Reads (before ++ s ++ after) vs (words before ++ w ++ words after) := by
  simpa using ((plain hb).append h).append (plain ha)

/-- There are as many question marks as values. -/
theorem count_eq (h : Reads s vs w) : s.toList.count '?' = vs.length := by
  replace h := h.fillIn?_eq
  generalize s.toList = cs at h
  induction cs generalizing vs w with
  | nil =>
    obtain ⟨rfl, -⟩ := fillIn?_nil_eq_some_iff.mp h
    rfl
  | cons c cs ih =>
    rcases fillIn?_cons_eq_some_iff.mp h with ⟨rfl, v, us, x, rfl, -, hx⟩ | ⟨hc, x, -, hx⟩
    · rw [List.count_cons_self, ih hx, List.length_cons]
    · rw [List.count_cons_of_ne hc, ih hx]

/-- Read text with its values rubbed out is the text. -/
theorem text_eq (h : Reads s vs w) : s = rubbed w := by
  replace h := h.fillIn?_eq
  rw [← String.toList_inj, rubbed, String.toList_ofList]
  generalize s.toList = cs at h
  induction cs generalizing vs w with
  | nil =>
    obtain ⟨-, rfl⟩ := fillIn?_nil_eq_some_iff.mp h
    rfl
  | cons c cs ih =>
    rcases fillIn?_cons_eq_some_iff.mp h with ⟨rfl, v, us, x, -, rfl, hx⟩ | ⟨-, x, rfl, hx⟩
    · rw [List.map_cons, ← ih hx]
    · rw [List.map_cons, ← ih hx]

end Reads

/-! ### Several texts -/

/-- Several texts, the values of all of them one after the other, and how each of them reads. -/
inductive ReadsEach : List String → List Cell → List (List Token) → Prop where
  | nil : ReadsEach [] [] []
  | cons {s : String} {vs us : List Cell} {w : List Token} {ss : List String}
      {ws : List (List Token)} :
      Reads s vs w → ReadsEach ss us ws → ReadsEach (s :: ss) (vs ++ us) (w :: ws)

namespace ReadsEach

variable {ss ts : List String} {vs us : List Cell} {ws xs : List (List Token)}

theorem single {s : String} {w : List Token} (h : Reads s vs w) : ReadsEach [s] vs [w] := by
  simpa using ReadsEach.cons h .nil

theorem plain (h : ∀ s ∈ ss, Plain s) : ReadsEach ss [] (ss.map words) := by
  induction ss with
  | nil => exact .nil
  | cons s rest ih => exact .cons (.plain (h s (by simp))) (ih fun t ht => h t (by simp [ht]))

theorem map {α : Type} {text : α → String} {values : α → List Cell} {written : α → List Token}
    {as : List α} (h : ∀ a ∈ as, Reads (text a) (values a) (written a)) :
    ReadsEach (as.map text) (as.flatMap values) (as.map written) := by
  induction as with
  | nil => exact .nil
  | cons a rest ih => exact .cons (h a (by simp)) (ih fun b hb => h b (by simp [hb]))

theorem append (h : ReadsEach ss vs ws) (h' : ReadsEach ts us xs) :
    ReadsEach (ss ++ ts) (vs ++ us) (ws ++ xs) := by
  induction h with
  | nil => exact h'
  | cons hs _ ih =>
    rw [List.append_assoc]
    exact .cons hs ih

/-- Several texts read with words between them. -/
theorem intercalate (separator : String) (hsep : Plain separator) (h : ReadsEach ss vs ws) :
    Reads (separator.intercalate ss) vs (listed separator ws) := by
  induction h with
  | nil => exact .plain (.of_eq ⟨[], rfl, by simp⟩)
  | cons hs hrest ih =>
    cases hrest with
    | nil => simpa using hs
    | cons ht hmore =>
      rw [String.intercalate_cons_of_ne_nil (by simp), listed_cons (by simp)]
      exact hs.joined separator hsep ih

end ReadsEach

end JobSearch.Query
