import Mathlib.Data.List.Forall2

/-!
# Steps that may fail, one after the other

If each of several steps succeeds then so do all of them together, and the results stand in the
order of the steps. If all of them succeeded then so did each.
-/

namespace JobSearch

variable {ε α β γ : Type}

theorem bind_eq_ok_iff {x : Except ε α} {f : α → Except ε β} {b : β} :
    (x >>= f) = .ok b ↔ ∃ a, x = .ok a ∧ f a = .ok b := by
  cases x with
  | error e => simp [bind, Except.bind]
  | ok a => simp [bind, Except.bind]

/-- Steps that succeed one by one succeed together. -/
theorem exists_mapM (as : List α) {f : α → Except ε β} {P : α → β → Prop}
    (h : ∀ a ∈ as, ∃ b, f a = .ok b ∧ P a b) :
    ∃ bs, as.mapM f = .ok bs ∧ List.Forall₂ P as bs := by
  induction as with
  | nil => exact ⟨[], rfl, .nil⟩
  | cons a as ih =>
    obtain ⟨b, hb, hP⟩ := h a (by simp)
    obtain ⟨bs, hbs, hall⟩ := ih fun a' ha' => h a' (by simp [ha'])
    refine ⟨b :: bs, ?_, .cons hP hall⟩
    rw [List.mapM_cons, hb, hbs]
    rfl

/-- Steps whose results are known give the list of the results. -/
theorem mapM_eq_ok {f : α → Except ε γ} {g : β → γ} {as : List α} {bs : List β}
    (h : List.Forall₂ (fun a b => f a = .ok (g b)) as bs) : as.mapM f = .ok (bs.map g) := by
  induction h with
  | nil => rfl
  | cons hab _ ih =>
    rw [List.mapM_cons, hab, ih]
    rfl

/-- Steps that do the same one by one do the same together. -/
theorem mapM_congr {as : List α} {f g : α → Except ε β} (h : ∀ a ∈ as, f a = g a) :
    as.mapM f = as.mapM g := by
  induction as with
  | nil => rfl
  | cons a as ih =>
    rw [List.mapM_cons, List.mapM_cons, h a (by simp), ih fun a' ha' => h a' (by simp [ha'])]

/-- Steps that succeed together succeed one by one. -/
theorem forall₂_of_mapM {as : List α} {f : α → Except ε β} {bs : List β}
    (h : as.mapM f = .ok bs) : List.Forall₂ (fun a b => f a = .ok b) as bs := by
  induction as generalizing bs with
  | nil =>
    obtain rfl : [] = bs := Except.ok.inj h
    exact .nil
  | cons a as ih =>
    rw [List.mapM_cons] at h
    cases hb : f a with
    | error e => simp [hb, bind, Except.bind] at h
    | ok b =>
      cases hbs : as.mapM f with
      | error e => simp [hb, hbs, bind, Except.bind] at h
      | ok rest =>
        obtain rfl : b :: rest = bs := by
          simpa [hb, hbs, bind, Except.bind, pure, Except.pure] using h
        exact .cons hb (ih hbs)

/-- The first step that fails decides. -/
theorem mapM_eq_error {f : α → Except ε β} {before after : List α} {a : α} {e : ε}
    (hbefore : ∀ a ∈ before, ∃ b, f a = .ok b) (ha : f a = .error e) :
    (before ++ a :: after).mapM f = .error e := by
  obtain ⟨bs, hbs, -⟩ := exists_mapM before (P := fun _ _ => True)
    fun a ha => (hbefore a ha).imp fun b hb => ⟨hb, trivial⟩
  rw [List.mapM_append, hbs, List.mapM_cons, ha]
  rfl

/-- Every result is that of one of the steps. -/
theorem forall₂_left {P : α → β → Prop} {as : List α} {bs : List β} (h : List.Forall₂ P as bs) :
    ∀ b ∈ bs, ∃ a ∈ as, P a b := by
  induction h with
  | nil => simp
  | cons hP _ ih =>
    rw [List.forall_mem_cons]
    refine ⟨⟨_, by simp, hP⟩, fun b hb => ?_⟩
    obtain ⟨a, ha, hP⟩ := ih b hb
    exact ⟨a, by simp [ha], hP⟩

/-- Every step has a result. -/
theorem forall₂_right {P : α → β → Prop} {as : List α} {bs : List β} (h : List.Forall₂ P as bs) :
    ∀ a ∈ as, ∃ b ∈ bs, P a b := by
  intro a ha
  obtain ⟨b, hb, hP⟩ := forall₂_left h.flip a ha
  exact ⟨b, hb, hP⟩

/-- The results of steps in some order are in the order that it brings about. -/
theorem pairwise_of_forall₂ {P : α → β → Prop} {A : α → α → Prop} {B : β → β → Prop} {as : List α}
    {bs : List β} (h : List.Forall₂ P as bs) (has : as.Pairwise A)
    (hAB : ∀ a a' b b', A a a' → P a b → P a' b' → B b b') : bs.Pairwise B := by
  induction h with
  | nil => exact .nil
  | cons hP hrest ih =>
    obtain ⟨hfirst, has⟩ := List.pairwise_cons.mp has
    refine List.pairwise_cons.mpr ⟨fun b hb => ?_, ih has⟩
    obtain ⟨a, ha, hP'⟩ := forall₂_left hrest b hb
    exact hAB _ a _ b (hfirst a ha) hP hP'

end JobSearch
