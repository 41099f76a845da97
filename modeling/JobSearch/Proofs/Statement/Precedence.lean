import JobSearch.Proofs.Statement.Lexemes

/-!
# Reading conditions with precedence

A condition in a statement is read as the database reads it. It is a disjunction of what stands
between its outer ORs; each part is a conjunction of what stands between its outer ANDs; and an
operand of these is read in the same way if it is in brackets, and is a comparison otherwise, whose
truth is given (`meaning`).

A text that has balanced brackets and neither an AND nor an OR outside of them is one operand,
whatever stands beside it (`Operand`). So operands with AND between them mean that all of them hold
(`meaning_all`), and operands with OR between them mean that one of them holds (`meaning_any`).

## Main definitions

* `Truth.all`, `Truth.any` — all of several conditions hold, or one of them.
* `meaning` — the truth of a text, given that of the comparisons in it.
* `Operand` — a text that no operator beside it tears apart.
-/

namespace JobSearch

/-! ### Several conditions -/

namespace Truth

/-- All of several conditions hold. -/
def all (ts : List Truth) : Truth := ts.foldr and yes

/-- One of several conditions holds. -/
def any (ts : List Truth) : Truth := ts.foldr or no

theorem all_cons (t : Truth) (ts : List Truth) : all (t :: ts) = t.and (all ts) := rfl

@[simp] theorem yes_and (t : Truth) : yes.and t = t := by cases t <;> rfl

@[simp] theorem and_yes (t : Truth) : t.and yes = t := by cases t <;> rfl

@[simp] theorem or_no (t : Truth) : t.or no = t := by cases t <;> rfl

theorem and_assoc (a b c : Truth) : (a.and b).and c = a.and (b.and c) := by
  cases a <;> cases b <;> cases c <;> rfl

@[simp] theorem all_singleton (t : Truth) : all [t] = t := t.and_yes

@[simp] theorem any_singleton (t : Truth) : any [t] = t := t.or_no

theorem all_append (ts us : List Truth) : all (ts ++ us) = (all ts).and (all us) := by
  induction ts with
  | nil => exact (yes_and _).symm
  | cons t ts ih => rw [List.cons_append, all_cons, all_cons, ih, and_assoc]

end Truth

namespace Query

/-! ### Keywords -/

/-- Whether a lexeme is a word, in whichever case it is written. -/
def Lexeme.spells (capitals : List Char) : Lexeme → Bool
  | .word letters => letters.map Char.toUpper == capitals
  | _ => false

def Lexeme.isAnd : Lexeme → Bool := spells ['A', 'N', 'D']

def Lexeme.isOr : Lexeme → Bool := spells ['O', 'R']

@[simp] theorem Lexeme.isAnd_rub (x : Lexeme) : (rub x).isAnd = x.isAnd := by cases x <;> rfl

@[simp] theorem Lexeme.isOr_rub (x : Lexeme) : (rub x).isOr = x.isOr := by cases x <;> rfl

/-- Several conditions with AND between them. -/
def conjunction (xss : List (List Lexeme)) : List Lexeme :=
  [Lexeme.word ['A', 'N', 'D']].intercalate xss

/-- Several conditions with OR between them. -/
def disjunction (xss : List (List Lexeme)) : List Lexeme :=
  [Lexeme.word ['O', 'R']].intercalate xss

theorem lexemes_listed_and (ws : List (List Token)) :
    lexemes (listed " AND " ws) = conjunction (ws.map lexemes) :=
  lexemes_listed (by decide) (by decide) (by decide) ws

theorem lexemes_listed_or (ws : List (List Token)) :
    lexemes (listed " OR " ws) = disjunction (ws.map lexemes) :=
  lexemes_listed (by decide) (by decide) (by decide) ws

/-! ### The meaning of a text -/

/-- What stands between the brackets around the whole of a text, if there are any. -/
def inner? : List Lexeme → Option (List Lexeme)
  | .sign c :: xs =>
    if c = '(' ∧ xs.getLast? = some (.sign ')') ∧ depth? 0 xs.dropLast = some 0 then
      some xs.dropLast
    else none
  | _ => none

theorem length_lt_of_inner? {xs ys : List Lexeme} (h : inner? xs = some ys) :
    ys.length < xs.length := by
  cases xs with
  | nil => cases h
  | cons x xs =>
    cases x with
    | sign c =>
      rw [inner?] at h
      split at h
      · rw [← Option.some.inj h, List.length_dropLast, List.length_cons]
        omega
      · cases h
    | _ => cases h

theorem length_le_of_mem_cutAt {p : Lexeme → Bool} {d : Nat} {xs ys : List Lexeme}
    (h : ys ∈ cutAt p d xs) : ys.length ≤ xs.length := by
  induction xs generalizing d ys with
  | nil => simp [List.mem_singleton.mp h]
  | cons x xs ih =>
    rw [cutAt] at h
    split at h
    · rcases List.mem_cons.mp h with rfl | h
      · exact Nat.zero_le _
      · exact Nat.le_succ_of_le (ih h)
    · cases hcut : cutAt p ((x.after? d).getD 0) xs with
      | nil => simp [hcut] at h
      | cons zs zss =>
        rw [hcut, List.modifyHead_cons] at h
        rcases List.mem_cons.mp h with rfl | h
        · exact Nat.succ_le_succ (ih (hcut ▸ List.mem_cons_self))
        · exact Nat.le_succ_of_le (ih (hcut ▸ List.mem_cons_of_mem _ h))

/-- The truth of a text, given the truth of the comparisons in it: AND binds more tightly than OR,
and brackets more tightly than both. -/
def meaning (v : List Lexeme → Truth) (xs : List Lexeme) : Truth :=
  .any ((cutAt Lexeme.isOr 0 xs).attach.map fun ys =>
    .all ((cutAt Lexeme.isAnd 0 ys.1).attach.map fun zs =>
      match _h : inner? zs.1 with
      | some inside => meaning v inside
      | none => v zs.1))
termination_by xs.length
decreasing_by
  have hinside := length_lt_of_inner? _h
  have hzs := length_le_of_mem_cutAt zs.2
  have hys := length_le_of_mem_cutAt ys.2
  omega

variable {v : List Lexeme → Truth} {xs ys : List Lexeme}

/-- The truth of a text without an operator. -/
def operandMeaning (v : List Lexeme → Truth) (xs : List Lexeme) : Truth :=
  match inner? xs with
  | some inside => meaning v inside
  | none => v xs

/-- The truth of a text without an outer OR. -/
def conjunctionMeaning (v : List Lexeme → Truth) (xs : List Lexeme) : Truth :=
  .all ((cutAt Lexeme.isAnd 0 xs).map (operandMeaning v))

theorem meaning_eq (v : List Lexeme → Truth) (xs : List Lexeme) :
    meaning v xs = .any ((cutAt Lexeme.isOr 0 xs).map (conjunctionMeaning v)) := by
  have hoperand : ∀ zs, (match _h : inner? zs with
      | some inside => meaning v inside
      | none => v zs) = operandMeaning v zs := by
    intro zs
    rw [operandMeaning]
    split <;> next h => rw [h]
  rw [meaning]
  simp only [hoperand, List.attach_map_val]
  exact congrArg Truth.any (List.attach_map_val (f := conjunctionMeaning v))

/-! ### Operands -/

/-- A text with balanced brackets and neither an AND nor an OR outside of them. -/
structure Operand (xs : List Lexeme) : Prop where
  balanced : depth? 0 xs = some 0
  no_and : ∀ x ∈ outer 0 xs, x.isAnd = false
  no_or : ∀ x ∈ outer 0 xs, x.isOr = false

theorem Operand.meaning_eq (h : Operand xs) : meaning v xs = operandMeaning v xs := by
  rw [Query.meaning_eq, cutAt_eq_self h.no_or, List.map_singleton, Truth.any_singleton,
    conjunctionMeaning, cutAt_eq_self h.no_and, List.map_singleton, Truth.all_singleton]

/-- A text that does not begin with a bracket is a comparison. -/
theorem Operand.meaning_of_head (h : Operand xs) (hhead : xs.head? ≠ some (.sign '(')) :
    meaning v xs = v xs := by
  have hinner : inner? xs = none := by
    cases xs with
    | nil => rfl
    | cons x xs =>
      cases x with
      | sign c =>
        rw [inner?, if_neg]
        rintro ⟨rfl, -⟩
        exact hhead rfl
      | _ => rfl
  rw [h.meaning_eq, operandMeaning, hinner]

theorem operand_bracketed (h : depth? 0 xs = some 0) : Operand (bracketed xs) := by
  refine ⟨depth?_bracketed h, ?_, ?_⟩ <;>
    rw [outer_bracketed h] <;> intro x hx <;> rw [List.mem_singleton.mp hx] <;> rfl

/-- Brackets around a text do not change its meaning. -/
theorem meaning_bracketed (h : depth? 0 xs = some 0) : meaning v (bracketed xs) = meaning v xs := by
  have hinner : inner? (bracketed xs) = some xs := by
    rw [bracketed, inner?, if_pos ⟨rfl, List.getLast?_concat, by rwa [List.dropLast_concat]⟩,
      List.dropLast_concat]
  rw [(operand_bracketed h).meaning_eq, operandMeaning, hinner]

/-! ### Operands in a row -/

variable {xss : List (List Lexeme)}

/-- Operands with AND between them have balanced brackets and no OR outside of them. -/
theorem depth?_conjunction (h : ∀ xs ∈ xss, Operand xs) : depth? 0 (conjunction xss) = some 0 :=
  depth?_intercalate rfl fun xs hxs => (h xs hxs).balanced

theorem no_or_conjunction (h : ∀ xs ∈ xss, Operand xs) :
    ∀ x ∈ outer 0 (conjunction xss), x.isOr = false := by
  intro x hx
  rcases mem_outer_intercalate rfl (fun xs hxs => (h xs hxs).balanced) hx with rfl | ⟨xs, hxs, hx⟩
  · rfl
  · exact (h xs hxs).no_or x hx

theorem depth?_disjunction (h : ∀ xs ∈ xss, Operand xs) : depth? 0 (disjunction xss) = some 0 :=
  depth?_intercalate rfl fun xs hxs => (h xs hxs).balanced

/-- A conjunction is cut into its operands. -/
theorem cutAt_conjunction (hne : xss ≠ []) (h : ∀ xs ∈ xss, Operand xs) :
    cutAt Lexeme.isAnd 0 (conjunction xss) = xss :=
  cutAt_intercalate rfl hne fun xs hxs => ⟨(h xs hxs).balanced, (h xs hxs).no_and⟩

/-- An AND in brackets is no cut. -/
example : cutAt Lexeme.isAnd 0 (lexemes (words "a > ? AND (b > ? AND c < ?)")) =
    [lexemes (words "a > ?"), lexemes (words "(b > ? AND c < ?)")] := by decide

/-- Operands with AND between them mean that all of them hold. -/
theorem meaning_all (hne : xss ≠ []) (h : ∀ xs ∈ xss, Operand xs) :
    meaning v (conjunction xss) = .all (xss.map (meaning v)) := by
  rw [meaning_eq, cutAt_eq_self (no_or_conjunction h), List.map_singleton, Truth.any_singleton,
    conjunctionMeaning, cutAt_conjunction hne h]
  exact congrArg Truth.all (List.map_congr_left fun xs hxs => (h xs hxs).meaning_eq.symm)

/-- Operands with OR between them mean that one of them holds. -/
theorem meaning_any (hne : xss ≠ []) (h : ∀ xs ∈ xss, Operand xs) :
    meaning v (disjunction xss) = .any (xss.map (meaning v)) := by
  have hcut : cutAt Lexeme.isOr 0 (disjunction xss) = xss :=
    cutAt_intercalate rfl hne fun xs hxs => ⟨(h xs hxs).balanced, (h xs hxs).no_or⟩
  rw [meaning_eq, hcut]
  refine congrArg Truth.any (List.map_congr_left fun xs hxs => ?_)
  rw [(h xs hxs).meaning_eq, conjunctionMeaning, cutAt_eq_self (h xs hxs).no_and,
    List.map_singleton, Truth.all_singleton]

end Query

end JobSearch
