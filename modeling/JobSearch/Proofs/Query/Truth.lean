import JobSearch.Query.Statement
import JobSearch.Proofs.Relation.Comparison

/-!
# Whether a condition holds

A condition has three truth values, but a row is kept only if the condition is true of it, and
conditions are built without negation. So whether a condition holds is decided by whether its
parts hold: `Condition.holdsIn` says so by recursion, with the inner statements answered where
they stand. It agrees with the three truth values of the resolved condition
(`Condition.resolve_eq_ok`), and therefore with the rows that a statement keeps
(`Statement.kept_eq_filter`).

## Main definitions

* `Condition.holdsIn`, `Condition.carriers` — whether a condition holds, its inner statements.
* `Condition.Answered` — the tables of the inner statements are there.
-/

namespace JobSearch.Query

namespace Condition

/-- The inner statements of a condition. -/
def carriers : Condition Carriers → List Carriers
  | among _ s => [s]
  | and a b => a.carriers ++ b.carriers
  | or a b => a.carriers ++ b.carriers
  | grouped a => a.carriers
  | _ => []

/-- Every inner statement has an answer. -/
def Answered (db : Database) (c : Condition Carriers) : Prop :=
  ∀ s ∈ c.carriers, ∃ owners, s.find db = .ok owners

/-- Whether a condition holds of a row; nothing is among the owners that cannot be found. -/
def holdsIn (db : Database) (r : Joined) : Condition Carriers → Bool
  | equals c v => ((r.cell c).equals v).holds
  | atLeast c v => ((r.cell c).atLeast v).holds
  | atMost c v => ((r.cell c).atMost v).holds
  | present c => !(r.cell c).isNull
  | oneOf c vs => ((r.cell c).oneOf vs).holds
  | like c p => ((r.cell c).like p).holds
  | likeLowered c p => ((r.cell c).lowerAscii.like p).holds
  | among c s => match s.find db with
    | .ok owners => ((r.cell c).oneOf owners).holds
    | .error _ => false
  | and a b => a.holdsIn db r && b.holdsIn db r
  | or a b => a.holdsIn db r || b.holdsIn db r
  | grouped a => a.holdsIn db r

variable {db : Database}

/-- Once its inner statements are answered, a condition is true of the rows of which it holds. -/
theorem resolve_eq_ok {c : Condition Carriers} (h : c.Answered db) :
    ∃ c', c.resolve (Carriers.find db) = .ok c' ∧
      ∀ r, (c'.truth r).holds = c.holdsIn db r := by
  induction c with
  | among c s =>
    obtain ⟨owners, ho⟩ := h s (by simp [carriers])
    refine ⟨.among c owners, ?_, fun r => ?_⟩
    · simp only [resolve, ho]
    · simp only [truth, holdsIn, ho]
  | and a b iha ihb =>
    obtain ⟨a', ha, hta⟩ := iha fun s hs => h s (by simp [carriers, hs])
    obtain ⟨b', hb, htb⟩ := ihb fun s hs => h s (by simp [carriers, hs])
    refine ⟨.and a' b', ?_, fun r => ?_⟩
    · simp only [resolve, ha, hb]
    · simp only [truth, holdsIn, Truth.holds_and, hta, htb]
  | or a b iha ihb =>
    obtain ⟨a', ha, hta⟩ := iha fun s hs => h s (by simp [carriers, hs])
    obtain ⟨b', hb, htb⟩ := ihb fun s hs => h s (by simp [carriers, hs])
    refine ⟨.or a' b', ?_, fun r => ?_⟩
    · simp only [resolve, ha, hb]
    · simp only [truth, holdsIn, Truth.holds_or, hta, htb]
  | grouped a ih =>
    obtain ⟨a', ha, hta⟩ := ih h
    refine ⟨.grouped a', ?_, fun r => ?_⟩
    · simp only [resolve, ha]
    · simp only [truth, holdsIn, hta]
  | present c => exact ⟨.present c, rfl, fun r => Truth.holds_ofBool _⟩
  | equals c v => exact ⟨.equals c v, rfl, fun _ => rfl⟩
  | atLeast c v => exact ⟨.atLeast c v, rfl, fun _ => rfl⟩
  | atMost c v => exact ⟨.atMost c v, rfl, fun _ => rfl⟩
  | oneOf c vs => exact ⟨.oneOf c vs, rfl, fun _ => rfl⟩
  | like c p => exact ⟨.like c p, rfl, fun _ => rfl⟩
  | likeLowered c p => exact ⟨.likeLowered c p, rfl, fun _ => rfl⟩

/-! ### All of several conditions, one of several conditions -/

/-- Whether an optional condition holds of a row; no condition always does. -/
def holdsIn? (db : Database) (r : Joined) (c : Option (Condition Carriers)) : Bool :=
  match c with
  | none => true
  | some c => c.holdsIn db r

/-- The inner statements of an optional condition are answered. -/
def Answered? (db : Database) (c : Option (Condition Carriers)) : Prop :=
  ∀ d ∈ c, Answered db d

@[simp] theorem all?_eq_none_iff {σ : Type} (cs : List (Condition σ)) :
    all? cs = none ↔ cs = [] := by
  cases cs with
  | nil => simp [all?]
  | cons c rest => rw [all?]; cases all? rest <;> simp

@[simp] theorem any?_eq_none_iff {σ : Type} (cs : List (Condition σ)) :
    any? cs = none ↔ cs = [] := by
  cases cs with
  | nil => simp [any?]
  | cons c rest => rw [any?]; cases any? rest <;> simp

theorem exists_all? {σ : Type} {cs : List (Condition σ)} (h : cs ≠ []) :
    ∃ c, all? cs = some c :=
  Option.ne_none_iff_exists'.mp (by simpa using h)

theorem exists_any? {σ : Type} {cs : List (Condition σ)} (h : cs ≠ []) :
    ∃ c, any? cs = some c :=
  Option.ne_none_iff_exists'.mp (by simpa using h)

/-- All of several conditions hold if each of them does. -/
theorem holdsIn?_all? (r : Joined) (cs : List (Condition Carriers)) :
    holdsIn? db r (all? cs) = cs.all (holdsIn db r) := by
  induction cs with
  | nil => rfl
  | cons c rest ih =>
    rw [all?, List.all_cons, ← ih]
    cases all? rest with
    | none => simp [holdsIn?]
    | some d => rfl

/-- One of several conditions holds if any of them does. -/
theorem holdsIn_of_any? (r : Joined) {cs : List (Condition Carriers)} {c : Condition Carriers}
    (h : any? cs = some c) : c.holdsIn db r = cs.any (holdsIn db r) := by
  induction cs generalizing c with
  | nil => simp [any?] at h
  | cons d rest ih =>
    rw [any?] at h
    rw [List.any_cons]
    cases hr : any? rest with
    | none =>
      rw [hr] at h
      have hn : rest = [] := (any?_eq_none_iff rest).mp hr
      obtain rfl := Option.some.inj h
      simp [hn]
    | some more =>
      rw [hr] at h
      obtain rfl := Option.some.inj h
      rw [holdsIn, ih hr]

/-- What is collected from the parts of a condition is collected from all of several ones. -/
theorem collect_all? {β : Type} {g : Condition Carriers → List β}
    (hg : ∀ a b, g (.and a b) = g a ++ g b) {cs : List (Condition Carriers)}
    {c : Condition Carriers} (h : all? cs = some c) : g c = cs.flatMap g := by
  induction cs generalizing c with
  | nil => simp [all?] at h
  | cons d rest ih =>
    rw [all?] at h
    cases hr : all? rest with
    | none =>
      rw [hr] at h
      have hn : rest = [] := (all?_eq_none_iff rest).mp hr
      obtain rfl := Option.some.inj h
      simp [hn]
    | some more =>
      rw [hr] at h
      obtain rfl := Option.some.inj h
      rw [hg, ih hr, List.flatMap_cons]

theorem collect_any? {β : Type} {g : Condition Carriers → List β}
    (hg : ∀ a b, g (.or a b) = g a ++ g b) {cs : List (Condition Carriers)}
    {c : Condition Carriers} (h : any? cs = some c) : g c = cs.flatMap g := by
  induction cs generalizing c with
  | nil => simp [any?] at h
  | cons d rest ih =>
    rw [any?] at h
    cases hr : any? rest with
    | none =>
      rw [hr] at h
      have hn : rest = [] := (any?_eq_none_iff rest).mp hr
      obtain rfl := Option.some.inj h
      simp [hn]
    | some more =>
      rw [hr] at h
      obtain rfl := Option.some.inj h
      rw [hg, ih hr, List.flatMap_cons]

/-- Several conditions are answered together if each of them is. -/
theorem answered?_all? {cs : List (Condition Carriers)} (h : ∀ c ∈ cs, Answered db c) :
    Answered? db (all? cs) := by
  intro d hd s hs
  rw [collect_all? (g := carriers) (fun _ _ => rfl) hd, List.mem_flatMap] at hs
  obtain ⟨c, hc, hs⟩ := hs
  exact h c hc s hs

theorem answered?_any? {cs : List (Condition Carriers)} (h : ∀ c ∈ cs, Answered db c) :
    Answered? db (any? cs) := by
  intro d hd s hs
  rw [collect_any? (g := carriers) (fun _ _ => rfl) hd, List.mem_flatMap] at hs
  obtain ⟨c, hc, hs⟩ := hs
  exact h c hc s hs

end Condition

/-! ### The rows that a statement keeps -/

/-- A statement keeps the rows of its source of which its condition holds. -/
theorem Statement.kept_eq_filter {db : Database} {s : Statement} {rows : List Joined}
    (hrows : s.source.rows db = .ok rows) (hc : Condition.Answered? db s.condition) :
    s.kept db = .ok (rows.filter fun r => Condition.holdsIn? db r s.condition) := by
  rw [Statement.kept, hrows]
  cases h : s.condition with
  | none => simp [Condition.holdsIn?]
  | some c =>
    obtain ⟨c', hr, ht⟩ := Condition.resolve_eq_ok (hc c (by simp [h]))
    simp only [hr, ht, Condition.holdsIn?]

/-- A statement whose values fit the storage shows the lines of the rows that it keeps. -/
theorem Statement.run_eq_ok {db : Database} {s : Statement} {rows : List Joined}
    (hkept : s.kept db = .ok rows) (hfit : s.params.all Cell.fits = true) :
    s.run db = .ok
      { columns := s.outputs.map (·.name)
        rows := (s.window.cut (s.lines rows)).map fun g =>
          s.outputs.map fun o => o.expression.value g } := by
  rw [Statement.run, hkept]
  simp only [hfit, if_true]

end JobSearch.Query
