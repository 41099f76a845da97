import JobSearch.Proofs.Statement.Reading

/-!
# Words, brackets and cuts

Text with its values put in is a sequence of words, signs and values; blanks only keep words apart
(`lexemes`). Texts that are put side by side are read one after the other, unless a word of the one
runs into a word of the other (`lexemes_append`).

Brackets nest. Text outside all brackets is what an operator of the statement can take hold of
(`outer`), and between its operators the text is cut (`cutAt`). What stands in brackets is out of
reach: it has nothing outside (`outer_bracketed`), so a row of texts whose brackets are balanced is
cut between these texts and nowhere else (`cutAt_intercalate`).

Between quotation marks compiled conditions have nothing but a backslash, so a quotation mark is
read like any other sign.

## Main definitions

* `Lexeme`, `lexemes` — the words, signs and values of read text.
* `depth?` — how many brackets are open behind a text, if none is closed that was not opened.
* `outer` — what stands outside all brackets.
* `cutAt` — text cut at some words outside all brackets.
* `rub` — a question mark in the place of a value.
-/

namespace JobSearch.Query

/-- A word, a sign that belongs to no word, or a value. -/
inductive Lexeme where
  | word (letters : List Char)
  | sign (c : Char)
  | value (v : Cell)
  deriving DecidableEq

/-- Whether a character can belong to a word. -/
def inWord (c : Char) : Bool := c.isAlphanum || c == '_'

/-- Whether text begins within a word. -/
def startsInWord : List Token → Bool
  | .char c :: _ => inWord c
  | _ => false

/-- Whether text ends within a word. -/
def endsInWord (w : List Token) : Bool := startsInWord w.getLast?.toList

/-- A letter in front of a word, or as a word of its own. -/
def letterBefore (c : Char) : List Lexeme → List Lexeme
  | .word letters :: xs => .word (c :: letters) :: xs
  | xs => .word [c] :: xs

/-- The words, signs and values of read text, without its blanks. -/
def lexemes : List Token → List Lexeme
  | [] => []
  | .value v :: w => .value v :: lexemes w
  | .char c :: w =>
    if inWord c then
      if startsInWord w then letterBefore c (lexemes w) else .word [c] :: lexemes w
    else if c.isWhitespace then lexemes w
    else .sign c :: lexemes w

/-! ### Texts side by side -/

theorem exists_word_of_startsInWord {w : List Token} (h : startsInWord w = true) :
    ∃ letters xs, lexemes w = .word letters :: xs := by
  cases w with
  | nil => cases h
  | cons t w =>
    cases t with
    | value v => cases h
    | char c =>
      have hc : inWord c = true := h
      rw [lexemes, if_pos hc]
      split
      · cases lexemes w with
        | nil => exact ⟨[c], [], rfl⟩
        | cons x xs => cases x <;> exact ⟨_, _, rfl⟩
      · exact ⟨[c], lexemes w, rfl⟩

/-- Texts side by side are read one after the other, unless a word runs on from one to the
other. -/
theorem lexemes_append {w x : List Token} (h : endsInWord w = false ∨ startsInWord x = false) :
    lexemes (w ++ x) = lexemes w ++ lexemes x := by
  induction w with
  | nil => rfl
  | cons t w ih =>
    have hrest : w ≠ [] → lexemes (w ++ x) = lexemes w ++ lexemes x := by
      intro hw
      refine ih (h.imp_left fun hend => ?_)
      rw [← hend, endsInWord, endsInWord, List.getLast?_cons_of_ne_nil hw]
    cases t with
    | value v =>
      rw [List.cons_append, lexemes, lexemes, List.cons_append]
      by_cases hw : w = []
      · rw [hw]
        rfl
      · rw [hrest hw]
    | char c =>
      rw [List.cons_append, lexemes, lexemes]
      by_cases hw : w = []
      · subst hw
        cases hc : inWord c with
        | false => simp only [List.nil_append, Bool.false_eq_true, if_false]; split <;> rfl
        | true =>
          have hx : startsInWord x = false := by
            rcases h with hend | hx
            · exact absurd (hc.symm.trans hend) (by decide)
            · exact hx
          rw [List.nil_append, hx]
          rfl
      · have hstart : startsInWord (w ++ x) = startsInWord w := by
          obtain ⟨t, rest, rfl⟩ := List.exists_cons_of_ne_nil hw
          cases t <;> rfl
        rw [hrest hw, hstart]
        split
        · split
          · next hword =>
            obtain ⟨letters, xs, hxs⟩ := exists_word_of_startsInWord hword
            rw [hxs]
            rfl
          · rfl
        · split <;> rfl

theorem endsInWord_append {x : List Token} (hx : x ≠ []) (w : List Token) :
    endsInWord (w ++ x) = endsInWord x := by
  rw [endsInWord, endsInWord, List.getLast?_append_of_ne_nil w hx]

/-- Texts with a keyword between them. -/
theorem lexemes_joined {separator : String} {keyword : Lexeme}
    (hkeyword : lexemes (words separator) = [keyword])
    (hstart : startsInWord (words separator) = false)
    (hend : endsInWord (words separator) = false) (w x : List Token) :
    lexemes (w ++ words separator ++ x) = lexemes w ++ keyword :: lexemes x := by
  have hne : words separator ≠ [] := by
    intro h
    rw [h] at hkeyword
    cases hkeyword
  rw [lexemes_append (.inl ((endsInWord_append hne w).trans hend)), lexemes_append (.inr hstart),
    hkeyword, List.append_assoc]
  rfl

/-- Several texts with a keyword between them. -/
theorem lexemes_listed {separator : String} {keyword : Lexeme}
    (hkeyword : lexemes (words separator) = [keyword])
    (hstart : startsInWord (words separator) = false)
    (hend : endsInWord (words separator) = false) (ws : List (List Token)) :
    lexemes (listed separator ws) = [keyword].intercalate (ws.map lexemes) := by
  induction ws with
  | nil => rfl
  | cons w ws ih =>
    by_cases hws : ws = []
    · subst hws
      simp
    · rw [listed_cons hws, lexemes_joined hkeyword hstart hend, ih, List.map_cons,
        List.intercalate_cons_of_ne_nil (by simpa using hws), List.append_assoc]
      rfl

/-! ### Brackets -/

/-- How many brackets are open behind a lexeme, if there are some open to be closed. -/
def Lexeme.after? (d : Nat) : Lexeme → Option Nat
  | .sign c =>
    if c = '(' then some (d + 1)
    else if c = ')' then
      match d with
      | 0 => none
      | d + 1 => some d
    else some d
  | _ => some d

/-- How many brackets are open behind a text, if none is closed that was not opened. -/
def depth? (d : Nat) (xs : List Lexeme) : Option Nat := xs.foldlM Lexeme.after? d

/-- A text in brackets. -/
def bracketed (xs : List Lexeme) : List Lexeme := .sign '(' :: (xs ++ [.sign ')'])

@[simp] theorem depth?_nil (d : Nat) : depth? d [] = some d := rfl

theorem depth?_cons (d : Nat) (x : Lexeme) (xs : List Lexeme) :
    depth? d (x :: xs) = (x.after? d).bind (depth? · xs) := rfl

theorem depth?_append (d : Nat) (xs ys : List Lexeme) :
    depth? d (xs ++ ys) = (depth? d xs).bind (depth? · ys) := List.foldlM_append

theorem Lexeme.after?_succ {d e : Nat} {x : Lexeme} (h : x.after? d = some e) :
    x.after? (d + 1) = some (e + 1) := by
  cases x with
  | sign c =>
    simp only [Lexeme.after?] at h ⊢
    split at h
    · next hc => rw [if_pos hc, Option.some.inj h]
    · next hc =>
      rw [if_neg hc]
      split at h
      · next hc' =>
        rw [if_pos hc']
        cases d with
        | zero => cases h
        | succ d => rw [Option.some.inj h]
      · next hc' => rw [if_neg hc', Option.some.inj h]
  | word => exact congrArg (fun d => some (d + 1)) (Option.some.inj h)
  | value => exact congrArg (fun d => some (d + 1)) (Option.some.inj h)

/-- Further brackets around a text do not matter to it. -/
theorem depth?_succ {d e : Nat} {xs : List Lexeme} (h : depth? d xs = some e) :
    depth? (d + 1) xs = some (e + 1) := by
  induction xs generalizing d with
  | nil => exact congrArg (fun d => some (d + 1)) (Option.some.inj h)
  | cons x xs ih =>
    obtain ⟨d', hd', hrest⟩ := Option.bind_eq_some_iff.mp h
    rw [depth?_cons, Lexeme.after?_succ hd', Option.bind_some, ih hrest]

theorem depth?_bracketed {xs : List Lexeme} (h : depth? 0 xs = some 0) :
    depth? 0 (bracketed xs) = some 0 := by
  rw [bracketed, depth?_cons]
  show depth? 1 (xs ++ [.sign ')']) = some 0
  rw [depth?_append, depth?_succ h]
  rfl

/-- A character opens a bracket, closes one or does neither, whether it belongs to a word or not. -/
theorem depth?_lexemes_cons (d : Nat) (c : Char) (w : List Token) :
    depth? d (lexemes (.char c :: w)) =
      ((Lexeme.sign c).after? d).bind (depth? · (lexemes w)) := by
  have hnone : c ≠ '(' → c ≠ ')' → (Lexeme.sign c).after? d = some d := fun hopen hclose => by
    simp [Lexeme.after?, hopen, hclose]
  have hletter : ∀ xs, depth? d (letterBefore c xs) = depth? d xs := by
    intro xs
    cases xs with
    | nil => rfl
    | cons x xs => cases x <;> rfl
  rw [lexemes]
  split
  · next hc =>
    rw [hnone (by rintro rfl; cases hc) (by rintro rfl; cases hc), Option.bind_some]
    split
    · rw [hletter]
    · rfl
  · split
    · next hc =>
      rw [hnone (by rintro rfl; cases hc) (by rintro rfl; cases hc), Option.bind_some]
    · rfl

/-- Brackets of texts side by side, even if a word runs on from one to the other. -/
theorem depth?_lexemes_append (d : Nat) (w x : List Token) :
    depth? d (lexemes (w ++ x)) = (depth? d (lexemes w)).bind (depth? · (lexemes x)) := by
  induction w generalizing d with
  | nil => rfl
  | cons t w ih =>
    cases t with
    | value v =>
      rw [List.cons_append, lexemes, lexemes, depth?_cons, depth?_cons]
      exact ih d
    | char c =>
      rw [List.cons_append, depth?_lexemes_cons, depth?_lexemes_cons, Option.bind_assoc]
      exact Option.bind_congr fun e _ => ih e

/-! ### What stands outside all brackets -/

/-- What stands outside all brackets, the opening brackets among it. -/
def outer : Nat → List Lexeme → List Lexeme
  | _, [] => []
  | d, x :: xs => (if d = 0 then [x] else []) ++ outer ((x.after? d).getD 0) xs

theorem outer_append {d e : Nat} {xs : List Lexeme} (h : depth? d xs = some e)
    (ys : List Lexeme) : outer d (xs ++ ys) = outer d xs ++ outer e ys := by
  induction xs generalizing d with
  | nil => rw [Option.some.inj h]; rfl
  | cons x xs ih =>
    obtain ⟨d', hd', hrest⟩ := Option.bind_eq_some_iff.mp h
    rw [List.cons_append, outer, outer, hd', Option.getD_some, ih hrest, List.append_assoc]

/-- Nothing of a text in brackets stands outside of them. -/
theorem outer_succ {d e : Nat} {xs : List Lexeme} (h : depth? d xs = some e) :
    outer (d + 1) xs = [] := by
  induction xs generalizing d with
  | nil => rfl
  | cons x xs ih =>
    obtain ⟨d', hd', hrest⟩ := Option.bind_eq_some_iff.mp h
    rw [outer, if_neg (Nat.succ_ne_zero d), Lexeme.after?_succ hd', Option.getD_some, ih hrest]
    rfl

theorem outer_bracketed {xs : List Lexeme} (h : depth? 0 xs = some 0) :
    outer 0 (bracketed xs) = [.sign '('] := by
  rw [bracketed, outer]
  show [Lexeme.sign '('] ++ outer 1 (xs ++ [.sign ')']) = _
  rw [outer_append (depth?_succ h), outer_succ h]
  rfl

/-! ### Cuts -/

/-- Text cut at the words of some kind that stand outside all brackets. -/
def cutAt (p : Lexeme → Bool) : Nat → List Lexeme → List (List Lexeme)
  | _, [] => [[]]
  | d, x :: xs =>
    if d = 0 ∧ p x = true then [] :: cutAt p 0 xs
    else (cutAt p ((x.after? d).getD 0) xs).modifyHead (x :: ·)

variable {p : Lexeme → Bool}

/-- Without such a word outside all brackets text is not cut. -/
theorem cutAt_eq_self {d : Nat} {xs : List Lexeme} (h : ∀ x ∈ outer d xs, p x = false) :
    cutAt p d xs = [xs] := by
  induction xs generalizing d with
  | nil => rfl
  | cons x xs ih =>
    have hx : ¬(d = 0 ∧ p x = true) := by
      rintro ⟨rfl, hp⟩
      rw [h x (by simp [outer])] at hp
      cases hp
    rw [cutAt, if_neg hx, ih fun y hy => h y (by simp [outer, hy])]
    rfl

theorem cutAt_append_cons {d : Nat} {xs : List Lexeme} {k : Lexeme} (hd : depth? d xs = some 0)
    (hxs : ∀ x ∈ outer d xs, p x = false) (hk : p k = true) (ys : List Lexeme) :
    cutAt p d (xs ++ k :: ys) = xs :: cutAt p 0 ys := by
  induction xs generalizing d with
  | nil =>
    obtain rfl := Option.some.inj hd
    rw [List.nil_append, cutAt, if_pos ⟨rfl, hk⟩]
  | cons x xs ih =>
    obtain ⟨d', hd', hrest⟩ := Option.bind_eq_some_iff.mp hd
    have hx : ¬(d = 0 ∧ p x = true) := by
      rintro ⟨rfl, hp⟩
      rw [hxs x (by simp [outer])] at hp
      cases hp
    have hrest' : ∀ y ∈ outer d' xs, p y = false := fun y hy =>
      hxs y (by simp [outer, hd', hy])
    rw [List.cons_append, cutAt, if_neg hx, hd', Option.getD_some, ih hrest hrest']
    rfl

/-- Texts in a row are cut between the texts and nowhere else. -/
theorem cutAt_intercalate {k : Lexeme} (hk : p k = true) {xss : List (List Lexeme)}
    (hne : xss ≠ []) (hxss : ∀ xs ∈ xss, depth? 0 xs = some 0 ∧ ∀ x ∈ outer 0 xs, p x = false) :
    cutAt p 0 ([k].intercalate xss) = xss := by
  induction xss with
  | nil => exact absurd rfl hne
  | cons xs xss ih =>
    obtain ⟨⟨hdepth, houter⟩, hrest⟩ := List.forall_mem_cons.mp hxss
    by_cases h : xss = []
    · subst h
      rw [List.intercalate_singleton, cutAt_eq_self houter]
    · rw [List.intercalate_cons_of_ne_nil h, List.append_assoc]
      exact (cutAt_append_cons hdepth houter hk _).trans (congrArg _ (ih h hrest))

/-- Texts in a row have balanced brackets, and outside of them what the single texts have there,
and the words between them. -/
theorem depth?_intercalate {k : Lexeme} (hk : k.after? 0 = some 0) {xss : List (List Lexeme)}
    (hxss : ∀ xs ∈ xss, depth? 0 xs = some 0) : depth? 0 ([k].intercalate xss) = some 0 := by
  induction xss with
  | nil => rfl
  | cons xs xss ih =>
    obtain ⟨hxs, hrest⟩ := List.forall_mem_cons.mp hxss
    by_cases h : xss = []
    · subst h
      rw [List.intercalate_singleton, hxs]
    · rw [List.intercalate_cons_of_ne_nil h, depth?_append, depth?_append, hxs, Option.bind_some,
        depth?_cons, hk, Option.bind_some, depth?_nil, Option.bind_some, ih hrest]

theorem mem_outer_intercalate {k : Lexeme} (hk : k.after? 0 = some 0) {xss : List (List Lexeme)}
    (hxss : ∀ xs ∈ xss, depth? 0 xs = some 0) {x : Lexeme}
    (hx : x ∈ outer 0 ([k].intercalate xss)) : x = k ∨ ∃ xs ∈ xss, x ∈ outer 0 xs := by
  induction xss with
  | nil => cases hx
  | cons xs xss ih =>
    obtain ⟨hxs, hrest⟩ := List.forall_mem_cons.mp hxss
    by_cases h : xss = []
    · subst h
      rw [List.intercalate_singleton] at hx
      exact Or.inr ⟨xs, by simp, hx⟩
    · rw [List.intercalate_cons_of_ne_nil h, List.append_assoc, outer_append hxs,
        List.singleton_append, outer, hk, Option.getD_some, if_pos rfl] at hx
      rcases List.mem_append.mp hx with hx | hx
      · exact Or.inr ⟨xs, by simp, hx⟩
      · rcases List.mem_append.mp hx with hx | hx
        · exact Or.inl (List.mem_singleton.mp hx)
        · refine (ih hrest hx).imp_right fun ⟨ys, hys, hx⟩ => ⟨ys, by simp [hys], hx⟩

/-! ### Text without its values -/

/-- A question mark in the place of a value. -/
def rub : Lexeme → Lexeme
  | .value _ => .sign '?'
  | x => x

@[simp] theorem after?_rub (d : Nat) (x : Lexeme) : (rub x).after? d = x.after? d := by
  cases x <;> rfl

theorem depth?_map_rub (d : Nat) (xs : List Lexeme) : depth? d (xs.map rub) = depth? d xs := by
  induction xs generalizing d with
  | nil => rfl
  | cons x xs ih => simp only [List.map_cons, depth?_cons, after?_rub, ih]

theorem outer_map_rub (d : Nat) (xs : List Lexeme) :
    outer d (xs.map rub) = (outer d xs).map rub := by
  induction xs generalizing d with
  | nil => rfl
  | cons x xs ih =>
    rw [List.map_cons, outer, outer, after?_rub, ih, List.map_append]
    split <;> rfl

theorem cutAt_map_rub (hp : ∀ x, p (rub x) = p x) (d : Nat) (xs : List Lexeme) :
    cutAt p d (xs.map rub) = (cutAt p d xs).map (List.map rub) := by
  induction xs generalizing d with
  | nil => rfl
  | cons x xs ih =>
    rw [List.map_cons, cutAt, cutAt, after?_rub, hp, ih, ih]
    split
    · rfl
    · cases cutAt p ((x.after? d).getD 0) xs <;> rfl

/-- Read text with its values rubbed out is read with question marks in their places. -/
theorem lexemes_words_rubbed (w : List Token) :
    lexemes (words (rubbed w)) = (lexemes w).map rub := by
  have hchar : ∀ c (w : List Token), words (rubbed (.char c :: w)) = .char c :: words (rubbed w) :=
    fun c w => by simp [words, rubbed]
  have hvalue : ∀ v (w : List Token),
      words (rubbed (.value v :: w)) = .char '?' :: words (rubbed w) :=
    fun v w => by simp [words, rubbed]
  have hstart : ∀ w : List Token, startsInWord (words (rubbed w)) = startsInWord w := by
    intro w
    cases w with
    | nil => rfl
    | cons t w =>
      cases t with
      | char c => rw [hchar]; rfl
      | value v => rw [hvalue]; rfl
  have hword : ∀ c (xs : List Lexeme),
      (letterBefore c xs).map rub = letterBefore c (xs.map rub) := by
    intro c xs
    cases xs with
    | nil => rfl
    | cons x xs => cases x <;> rfl
  induction w with
  | nil => rfl
  | cons t w ih =>
    cases t with
    | value v =>
      have hmark : lexemes (.char '?' :: words (rubbed w)) =
          .sign '?' :: lexemes (words (rubbed w)) := rfl
      rw [hvalue, hmark, ih]
      rfl
    | char c =>
      rw [hchar, lexemes, lexemes, hstart, ih]
      split
      · split
        · rw [hword]
        · rfl
      · split <;> rfl

end JobSearch.Query
