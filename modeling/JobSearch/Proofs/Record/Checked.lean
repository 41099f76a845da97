import JobSearch.Fault

/-!
# Values that are checked

Values that are all valid are valid together (`Checked.all_valid`), and what is read of a record
is what its parts are read as: `Checked.Ensures` says what holds of a value whatever its parts are.

## Main definitions

* `Checked.Ensures` — what holds of a checked value, if it is one.
-/

namespace JobSearch.Checked

variable {α β : Type}

@[simp] theorem map_valid (f : α → β) (a : α) : f <$> valid a = valid (f a) := rfl

@[simp] theorem seq_valid (f : α → β) (a : α) : valid f <*> valid a = valid (f a) := rfl

theorem all_valid (as : List α) : all (as.map valid) = valid as := by
  induction as with
  | nil => rfl
  | cons a as ih =>
    rw [List.map_cons, all, ih]
    rfl

/-- The value has a property, if there is one. -/
def Ensures (c : Checked α) (P : α → Prop) : Prop := ∀ a, c = valid a → P a

theorem ensures_true (c : Checked α) : c.Ensures fun _ => True := fun _ _ => trivial

theorem ensures_valid {a : α} {P : α → Prop} : (valid a).Ensures P ↔ P a := by
  simp [Ensures]

theorem ensures_pure {a : α} {P : α → Prop} : (pure a : Checked α).Ensures P ↔ P a :=
  ensures_valid

theorem ensures_map {f : α → β} {c : Checked α} {P : β → Prop} :
    (f <$> c).Ensures P ↔ c.Ensures fun a => P (f a) := by
  cases c with
  | valid a => simp [Ensures]
  | invalid vs => simp [Ensures, Functor.map, Checked.map]

theorem ensures_seq {f : Checked (α → β)} {c : Checked α} {P : β → Prop} :
    (f <*> c).Ensures P ↔ f.Ensures fun g => c.Ensures fun a => P (g a) := by
  cases f <;> cases c <;> simp [Ensures, Seq.seq, apply]

theorem Ensures.of_toExcept {c : Checked α} {P : α → Prop} (h : c.Ensures P) {a : α}
    (ha : c.toExcept = .ok a) : P a := by
  cases c with
  | valid b =>
    obtain rfl : b = a := by simpa [toExcept] using ha
    exact h b rfl
  | invalid vs => simp [toExcept] at ha

end JobSearch.Checked
