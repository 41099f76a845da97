import JobSearch.Dataset.Storage
import JobSearch.Dataset.Store
import JobSearch.Proofs.Query.Truth
import JobSearch.Proofs.Sequence
import Mathlib.Data.List.Find

/-!
# Dropped tables

A statement looks up each of its tables, those of its inner statements included, before it has a
result, and what is in other tables does not matter (`Statement.run_congr`). So after some tables
were dropped it fails for one of them if it names one, and otherwise has the result that it had
(`Store.breaks_run`). This is said of each step by itself, if it has a result on the whole database;
a step without one may name a table that was never there.

## Main definitions

* `Drops`, `Hits` — a table was dropped, and one of several was.
* `Breaks` — a step fails under a condition and has its result elsewhere.
-/

namespace JobSearch

open Query

/-! ### Steps that break -/

/-- A step is broken under a condition: where it holds the step fails with a fault of some kind,
and elsewhere it does what it did before. -/
structure Breaks {ε α : Type} (fault : ε → Prop) (condition : Prop) (before after : Except ε α) :
    Prop where
  fails : condition → ∃ e, fault e ∧ after = .error e
  same : ¬condition → after = before

namespace Breaks

variable {ε δ α β : Type} {fault : ε → Prop} {A B : Prop} {x x' : Except ε α}

theorem refl (x : Except ε α) : Breaks fault False x x := ⟨False.elim, fun _ => rfl⟩

theorem iff (h : Breaks fault A x x') (hAB : A ↔ B) : Breaks fault B x x' := by
  rwa [← hAB]

/-- Of two steps the second one is made only if the first one is not broken. -/
theorem bind {a : α} {f f' : α → Except ε β} (hx : Breaks fault A x x') (ha : x = .ok a)
    (hf : ¬A → Breaks fault B (f a) (f' a)) : Breaks fault (A ∨ B) (x >>= f) (x' >>= f') := by
  subst ha
  by_cases hA : A
  · obtain ⟨e, he, rfl⟩ := hx.fails hA
    exact ⟨fun _ => ⟨e, he, rfl⟩, fun h => absurd (Or.inl hA) h⟩
  · rw [hx.same hA]
    exact (hf hA).iff (or_iff_right hA).symm

/-- The first of two steps may be none that breaks. -/
theorem after {a : α} {f f' : α → Except ε β} (ha : x = .ok a)
    (hf : Breaks fault B (f a) (f' a)) : Breaks fault B (x >>= f) (x >>= f') :=
  ((Breaks.refl x).bind ha fun _ => hf).iff (or_iff_right id)

/-- The second of two steps may be none that breaks. -/
theorem andThen (hx : Breaks fault A x x') (f : α → Except ε β) :
    Breaks fault A (x >>= f) (x' >>= f) := by
  refine ⟨fun hA => ?_, fun hA => by rw [hx.same hA]⟩
  obtain ⟨e, he, rfl⟩ := hx.fails hA
  exact ⟨e, he, rfl⟩

theorem mapError {fault' : δ → Prop} {g : ε → δ} (h : Breaks fault A x x')
    (hg : ∀ e, fault e → fault' (g e)) : Breaks fault' A (x.mapError g) (x'.mapError g) := by
  refine ⟨fun hA => ?_, fun hA => by rw [h.same hA]⟩
  obtain ⟨e, he, rfl⟩ := h.fails hA
  exact ⟨g e, hg e he, rfl⟩

/-- Several steps that succeed are broken where one of them is. -/
theorem mapM {P : α → Prop} {f f' : α → Except ε β} {as : List α}
    (hok : ∀ a ∈ as, ∃ b, f a = .ok b) (h : ∀ a ∈ as, Breaks fault (P a) (f a) (f' a)) :
    Breaks fault (∃ a ∈ as, P a) (as.mapM f) (as.mapM f') := by
  induction as with
  | nil => exact (Breaks.refl _).iff (by simp)
  | cons a as ih =>
    obtain ⟨⟨b, hb⟩, hok⟩ := List.forall_mem_cons.mp hok
    obtain ⟨ha, h⟩ := List.forall_mem_cons.mp h
    rw [List.mapM_cons, List.mapM_cons]
    exact (ha.bind hb fun _ => (ih hok h).andThen _).iff (by simp)

/-- Several steps that are broken alike are broken if there is one. -/
theorem mapM_alike {f f' : α → Except ε β} {as : List α}
    (h : ∀ a ∈ as, Breaks fault A (f a) (f' a)) :
    Breaks fault (as ≠ [] ∧ A) (as.mapM f) (as.mapM f') := by
  refine ⟨fun ⟨hne, hA⟩ => ?_, fun hA => ?_⟩
  · obtain ⟨a, rest, rfl⟩ := List.exists_cons_of_ne_nil hne
    rw [List.mapM_cons]
    exact (((h a (by simp)).andThen _).fails hA)
  · refine mapM_congr fun a ha => (h a ha).same fun h => hA ⟨List.ne_nil_of_mem ha, h⟩

end Breaks

/-! ### Tables -/

/-- A table goes by one of the names, without regard to the case of `A` to `Z`. -/
def Drops (names : List String) (table : String) : Prop :=
  ∃ name ∈ names, Text.lowerAscii table = Text.lowerAscii name

/-- One of several tables was dropped. -/
def Hits (names tables : List String) : Prop := ∃ t ∈ tables, Drops names t

instance (names : List String) (table : String) : Decidable (Drops names table) :=
  inferInstanceAs (Decidable (∃ name ∈ names, _))

instance (names tables : List String) : Decidable (Hits names tables) :=
  inferInstanceAs (Decidable (∃ t ∈ tables, _))

section tables

variable {db : Database} {names : List String}

@[simp] theorem hits_nil : ¬Hits names [] := by simp [Hits]

@[simp] theorem hits_cons {t : String} {ts : List String} :
    Hits names (t :: ts) ↔ Drops names t ∨ Hits names ts := by simp [Hits]

@[simp] theorem hits_append {ts us : List String} :
    Hits names (ts ++ us) ↔ Hits names ts ∨ Hits names us := by simp [Hits, or_and_right, exists_or]

theorem hits_map {α : Type} {as : List α} {g : α → String} :
    Hits names (as.map g) ↔ ∃ a ∈ as, Drops names (g a) := by simp [Hits]

theorem hits_flatMap {α : Type} {as : List α} {g : α → List String} :
    Hits names (as.flatMap g) ↔ ∃ a ∈ as, Hits names (g a) := by
  simp only [Hits, List.mem_flatMap]
  constructor
  · rintro ⟨t, ⟨a, ha, ht⟩, hdrops⟩
    exact ⟨a, ha, t, ht, hdrops⟩
  · rintro ⟨a, ha, t, ht, hdrops⟩
    exact ⟨t, ⟨a, ha, ht⟩, hdrops⟩

namespace Database

/-- The tables that were not dropped are left. -/
theorem mem_without {t : Table} :
    t ∈ (db.without names).tables ↔ t ∈ db.tables ∧ ¬Drops names t.name := by
  simp [without, Drops, goesBy]

/-- What is looked for among the tables is found as before if no such table was dropped. -/
theorem find?_without {p : Table → Bool} (h : ∀ t, p t = true → ¬Drops names t.name) :
    (db.without names).tables.find? p = db.tables.find? p := by
  rw [without, List.find?_filter]
  refine List.find?_congr fun t _ => ?_
  cases hp : p t with
  | false => simp
  | true => simpa [Drops, goesBy] using h t hp

theorem table?_of_drops {name : String} (h : Drops names name) :
    (db.without names).table? name = none := by
  refine List.find?_eq_none.mpr fun t ht he => (mem_without.mp ht).2 ?_
  rwa [beq_iff_eq.mp he]

theorem table?_of_not_drops {name : String} (h : ¬Drops names name) :
    (db.without names).table? name = db.table? name :=
  find?_without fun t ht => by rwa [beq_iff_eq.mp ht]

theorem columnsOf_of_not_drops {name : String} (h : ¬Drops names name) :
    (db.without names).columnsOf name = db.columnsOf name := by
  have hfind : (db.without names).tables.find? (goesBy name) = db.tables.find? (goesBy name) := by
    refine find?_without fun t ht => ?_
    rwa [Drops, beq_iff_eq.mp ht]
  rw [columnsOf, columnsOf, hfind]

end Database

/-- A dataset with some tables removed has the tables of the whole one without them. -/
theorem Dataset.database_dropped {d : Dataset} (hd : d.dropped = []) (names : List String) :
    { d with dropped := names }.database = d.database.without names := by
  have hwhole : d.database.tables = d.jobTable :: Field.all.flatMap d.fieldTables := by
    rw [database, hd, Database.without]
    simp
  rw [Database.without, hwhole]
  rfl

end tables

/-! ### Statements that name other tables -/

section congr

variable {db db' : Database}

namespace Query

theorem joinAll_cons (db : Database) (j : Join) (rest : List Join) (rows : List Joined) :
    joinAll db (j :: rest) rows =
      rowsOf db j.table >>= fun found => joinAll db rest (rows.flatMap (j.extend found)) := by
  rw [joinAll]
  cases rowsOf db j.table <;> rfl

theorem joinAll_congr {joins : List Join}
    (h : ∀ j ∈ joins, db'.table? j.table = db.table? j.table) (rows : List Joined) :
    joinAll db' joins rows = joinAll db joins rows := by
  induction joins generalizing rows with
  | nil => rfl
  | cons j rest ih =>
    obtain ⟨hj, hrest⟩ := List.forall_mem_cons.mp h
    rw [joinAll_cons, joinAll_cons, rowsOf, rowsOf, hj]
    exact congrArg _ (funext fun found => ih hrest _)

theorem Source.rows_eq (db : Database) (s : Source) : s.rows db =
    rowsOf db s.table >>= fun found =>
      joinAll db s.joins (found.map fun row => [(s.qualifier, row)]) := by
  rw [Source.rows]
  cases rowsOf db s.table <;> rfl

theorem Source.rows_congr {s : Source} (h : ∀ t ∈ s.tables, db'.table? t = db.table? t) :
    s.rows db' = s.rows db := by
  obtain ⟨htable, hjoins⟩ := List.forall_mem_cons.mp h
  rw [Source.rows_eq, Source.rows_eq, rowsOf, rowsOf, htable]
  exact congrArg _ (funext fun found =>
    joinAll_congr (fun j hj => hjoins _ (List.mem_map_of_mem hj)) _)

theorem Condition.resolve_congr {c : Condition Carriers}
    (h : ∀ t ∈ c.tables, db'.table? t = db.table? t) :
    c.resolve (Carriers.find db') = c.resolve (Carriers.find db) := by
  induction c with
  | equals | atLeast | atMost | present | oneOf | like | likeLowered => rfl
  | among col s => rw [resolve, resolve, Carriers.find, Carriers.find, Source.rows_congr h]
  | and a b iha ihb | or a b iha ihb =>
    obtain ⟨ha, hb⟩ := List.forall_mem_append.mp h
    rw [resolve, resolve, iha ha, ihb hb]
  | grouped a ih => rw [resolve, resolve, ih h]

/-- Databases that have the same tables by the names in a statement answer it alike. -/
theorem Statement.run_congr {s : Statement} (h : ∀ t ∈ s.tables, db'.table? t = db.table? t) :
    s.run db' = s.run db := by
  obtain ⟨hsource, hcondition⟩ := List.forall_mem_append.mp h
  have hkept : s.kept db' = s.kept db := by
    rw [kept, kept, Source.rows_congr hsource]
    cases hc : s.condition with
    | none => rfl
    | some c =>
      rw [hc] at hcondition
      simp only [Condition.resolve_congr (c := c) (by simpa using hcondition)]
  rw [run, run, hkept]

end Query

end congr

/-! ### Statements -/

section statements

variable {db : Database} {names : List String}

namespace Query

theorem breaks_rowsOf (table : String) : Breaks (Drops names) (Drops names table)
    (rowsOf db table) (rowsOf (db.without names) table) where
  fails hdrops := ⟨table, hdrops, by rw [rowsOf, Database.table?_of_drops hdrops]⟩
  same hdrops := by rw [rowsOf, rowsOf, Database.table?_of_not_drops hdrops]

/-- Joining breaks where a joined table was dropped: by induction on the joins. -/
theorem breaks_joinAll {joins : List Join} {rows all : List Joined}
    (h : joinAll db joins rows = .ok all) :
    Breaks (Drops names) (Hits names (joins.map Join.table)) (joinAll db joins rows)
      (joinAll (db.without names) joins rows) := by
  induction joins generalizing rows with
  | nil => exact (Breaks.refl _).iff (iff_of_false id hits_nil)
  | cons j rest ih =>
    rw [joinAll_cons] at h ⊢
    rw [joinAll_cons]
    obtain ⟨found, hfound, hrest⟩ := bind_eq_ok_iff.mp h
    exact ((breaks_rowsOf j.table).bind hfound fun _ => ih hrest).iff hits_cons.symm

theorem breaks_rows {s : Source} {rows : List Joined} (h : s.rows db = .ok rows) :
    Breaks (Drops names) (Hits names s.tables) (s.rows db) (s.rows (db.without names)) := by
  rw [Source.rows_eq] at h ⊢
  rw [Source.rows_eq]
  obtain ⟨found, hfound, hjoins⟩ := bind_eq_ok_iff.mp h
  exact ((breaks_rowsOf s.table).bind hfound fun _ => breaks_joinAll hjoins).iff hits_cons.symm

theorem breaks_find {c : Carriers} {owners : List Cell} (h : c.find db = .ok owners) :
    Breaks (Drops names) (Hits names c.source.tables) (c.find db) (c.find (db.without names)) := by
  cases hrows : c.source.rows db with
  | error table => simp [Carriers.find, hrows] at h
  | ok rows =>
    have hbreaks : Breaks (Drops names) _ _ _ := breaks_rows hrows
    refine ⟨fun hhits => ?_, fun hhits => ?_⟩
    · obtain ⟨t, ht, he⟩ := hbreaks.fails hhits
      exact ⟨t, ht, by rw [Carriers.find, he]⟩
    · rw [Carriers.find, Carriers.find, hbreaks.same hhits]

namespace Condition

variable {σ τ ε : Type} (find : σ → Except ε τ)

theorem resolve_among (col : Column) (s : σ) :
    resolve find (among col s) = find s >>= fun t => .ok (among col t) := by
  rw [resolve]
  cases find s <;> rfl

theorem resolve_and (a b : Condition σ) : resolve find (and a b) =
    a.resolve find >>= fun a' => b.resolve find >>= fun b' => .ok (and a' b') := by
  rw [resolve]
  cases a.resolve find <;> cases b.resolve find <;> rfl

theorem resolve_or (a b : Condition σ) : resolve find (or a b) =
    a.resolve find >>= fun a' => b.resolve find >>= fun b' => .ok (or a' b') := by
  rw [resolve]
  cases a.resolve find <;> cases b.resolve find <;> rfl

theorem resolve_grouped (a : Condition σ) :
    resolve find (grouped a) = a.resolve find >>= fun a' => .ok (grouped a') := by
  rw [resolve]
  cases a.resolve find <;> rfl

end Condition

/-- The inner statements of a condition are answered from left to right. -/
theorem breaks_resolve {c : Condition Carriers} {c' : Condition (List Cell)}
    (h : c.resolve (Carriers.find db) = .ok c') :
    Breaks (Drops names) (Hits names c.tables) (c.resolve (Carriers.find db))
      (c.resolve (Carriers.find (db.without names))) := by
  induction c generalizing c' with
  | equals | atLeast | atMost | present | oneOf | like | likeLowered =>
    exact (Breaks.refl _).iff (iff_of_false id hits_nil)
  | among col s =>
    rw [Condition.resolve_among] at h ⊢
    rw [Condition.resolve_among]
    obtain ⟨owners, howners, -⟩ := bind_eq_ok_iff.mp h
    exact (breaks_find howners).andThen _
  | and a b iha ihb =>
    rw [Condition.resolve_and] at h ⊢
    rw [Condition.resolve_and]
    obtain ⟨a', ha, h⟩ := bind_eq_ok_iff.mp h
    obtain ⟨b', hb, -⟩ := bind_eq_ok_iff.mp h
    exact ((iha ha).bind ha fun _ => (ihb hb).andThen _).iff hits_append.symm
  | or a b iha ihb =>
    rw [Condition.resolve_or] at h ⊢
    rw [Condition.resolve_or]
    obtain ⟨a', ha, h⟩ := bind_eq_ok_iff.mp h
    obtain ⟨b', hb, -⟩ := bind_eq_ok_iff.mp h
    exact ((iha ha).bind ha fun _ => (ihb hb).andThen _).iff hits_append.symm
  | grouped a ih =>
    rw [Condition.resolve_grouped] at h ⊢
    rw [Condition.resolve_grouped]
    obtain ⟨a', ha, -⟩ := bind_eq_ok_iff.mp h
    exact (ih ha).andThen _

namespace Statement

/-- The condition of a statement is answered once its source has rows. -/
theorem kept_eq (db : Database) (s : Statement) :
    s.kept db = s.source.rows db >>= fun rows =>
      match s.condition with
      | none => .ok rows
      | some c => c.resolve (Carriers.find db) >>= fun c =>
          .ok (rows.filter fun r => (c.truth r).holds) := by
  rw [kept]
  cases s.source.rows db with
  | error table => rfl
  | ok rows =>
    cases s.condition with
    | none => rfl
    | some c => cases hc : c.resolve (Carriers.find db) <;> simp [hc, bind, Except.bind]

theorem breaks_kept {s : Statement} {rows : List Joined} (h : s.kept db = .ok rows) :
    Breaks (Drops names) (Hits names s.tables) (s.kept db) (s.kept (db.without names)) := by
  rw [kept_eq] at h ⊢
  rw [kept_eq]
  obtain ⟨found, hfound, h⟩ := bind_eq_ok_iff.mp h
  refine ((breaks_rows hfound).bind hfound fun _ => ?_).iff hits_append.symm
  cases hc : s.condition with
  | none => exact (Breaks.refl _).iff (iff_of_false id hits_nil)
  | some c =>
    simp only [hc] at h
    obtain ⟨c', hc', -⟩ := bind_eq_ok_iff.mp h
    exact ((breaks_resolve hc').andThen _).iff (by simp)

/-- A statement breaks where one of its tables was dropped. -/
theorem breaks_run {s : Statement} {r : Result Cell} (h : s.run db = .ok r) :
    Breaks (fun e => ∃ t, Drops names t ∧ e = .missingTable t) (Hits names s.tables) (s.run db)
      (s.run (db.without names)) := by
  cases hkept : s.kept db with
  | error table => simp [run, hkept] at h
  | ok rows =>
    have hbreaks : Breaks (Drops names) _ _ _ := breaks_kept hkept
    refine ⟨fun hhits => ?_, fun hhits => ?_⟩
    · obtain ⟨t, ht, he⟩ := hbreaks.fails hhits
      exact ⟨_, ⟨t, ht, rfl⟩, by rw [run, he]⟩
    · rw [run, run, hbreaks.same hhits]

end Statement

end Query

/-- A fault of a statement that names a table that was dropped. -/
def Fault.Misses (names : List String) (e : Fault) : Prop :=
  ∃ t text params, Drops names t ∧ e = .missingTable t text params

/-- A request with one statement breaks where a table of the statement was dropped. -/
theorem Store.breaks_run {s : Statement} {r : Result Cell}
    (h : (Store.readable db).run s = .ok r) :
    Breaks (Fault.Misses names) (Hits names s.tables) ((Store.readable db).run s)
      ((Store.readable (db.without names)).run s) := by
  have hrun : s.run db = .ok r := by
    rw [run, runAs] at h
    cases hrun : s.run db with
    | error e => simp [hrun, Except.mapError] at h
    | ok r' => simpa [hrun, Except.mapError] using h
  refine (Statement.breaks_run hrun).mapError ?_
  rintro _ ⟨t, ht, rfl⟩
  exact ⟨t, s.text, s.params, ht, rfl⟩

end statements

end JobSearch
