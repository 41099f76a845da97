import JobSearch.Browse.Facets
import JobSearch.Proofs.Matching.Statements
import JobSearch.Proofs.Sequence

/-!
# Requests within limits

An engine refuses a statement that is beyond its limits and leaves every other answer as it is
(`Store.curtails_runAs`). A statement within the limits is not refused, in whatever order the engine
tests conditions (`Store.run_limited`). A request asks one statement after the other, so it is
refused with the first of them that is, or it does what it does without limits; in particular, what
it answers is the same. If all its statements are within the limits nothing is refused.

## Main definitions

* `Fault.IsBeyondLimits`, `Curtails` — a request that may be refused for a limit.
* `PageWithin` — all statements of a page are within the limits.

## Main statements

* `Store.eq_ok_of_limited` — what is said of the answers of a store holds of those it gives through
  an engine with limits.
* `Store.page_limited` — a page whose statements are within the limits is as without limits.
-/

namespace JobSearch

open Query

/-! ### Depth -/

theorem depthBefore_some (n : Nat) {d : Nat} (hd : comparisonDepth ≤ d) :
    depthBefore n (some d) = some (d + n) := by
  induction n generalizing d with
  | zero => rfl
  | succ n ih =>
    rw [depthBefore, depthBehind, Nat.max_eq_left hd, ih (Nat.le_succ_of_le hd),
      Nat.succ_add_eq_add_succ]

theorem le_depthBefore (n d : Nat) : d ≤ (depthBefore n (some d)).getD 0 := by
  cases n with
  | zero => exact Nat.le_refl d
  | succ n =>
    have hd : comparisonDepth ≤ max d comparisonDepth + 1 := by omega
    rw [depthBefore, depthBehind, depthBefore_some n hd, Option.getD_some]
    omega

theorem add_three_le_depthBefore (n : Nat) (left : Option Nat) :
    n + 3 ≤ (depthBefore (n + 1) left).getD 0 := by
  have hd : comparisonDepth ≤ depthBehind left comparisonDepth := by
    cases left with
    | none => exact Nat.le_refl _
    | some d => rw [depthBehind]; omega
  rw [depthBefore, depthBefore_some n hd, Option.getD_some]
  rw [comparisonDepth] at hd ⊢
  omega

/-- Comparisons of which one must hold are nested one in the other. -/
theorem depthFrom_any? {cs : List Term} {c : Term}
    (hcs : ∀ c ∈ cs, ∀ left, c.depthFrom left = depthBehind left comparisonDepth)
    (hc : Condition.any? cs = some c) (left : Option Nat) :
    some (c.depthFrom left) = depthBefore cs.length left := by
  induction cs generalizing c left with
  | nil => cases hc
  | cons first cs ih =>
    obtain ⟨hfirst, hcs⟩ := List.forall_mem_cons.mp hcs
    rw [Condition.any?] at hc
    cases hrest : Condition.any? cs with
    | none =>
      obtain rfl : cs = [] := (Condition.any?_eq_none_iff cs).mp hrest
      rw [hrest] at hc
      obtain rfl := Option.some.inj hc
      exact congrArg some (hfirst left)
    | some rest =>
      rw [hrest] at hc
      obtain rfl := Option.some.inj hc
      rw [Condition.depthFrom, ih hcs hrest, hfirst]
      rfl

/-- The labels selected in a field with at most one label per posting are nested one in the other:
their term is two deeper than there are labels. -/
theorem depth_fieldTerm {f : Field} (hf : f.entry.shape = .lookup) {labels : List String} {t : Term}
    (ht : t ∈ Predicate.fieldTerm f labels) : t.depth = labels.length + 2 := by
  rw [Predicate.fieldTerm, hf] at ht
  obtain ⟨c, hc, rfl⟩ := by simpa [Option.mem_toList] using ht
  have hdepth := depthFrom_any? (by simp [Condition.depthFrom]) hc none
  rw [List.length_map] at hdepth
  cases labels with
  | nil => cases hc
  | cons l labels =>
    rw [List.length_cons, depthBefore, depthBehind, depthBefore_some _ (Nat.le_refl _)] at hdepth
    calc c.grouped.depth = c.depthFrom none := rfl
      _ = comparisonDepth + labels.length := Option.some.inj hdepth
      _ = (l :: labels).length + 2 := by rw [comparisonDepth, List.length_cons]; omega

/-! ### Statements -/

/-- Joins and inner statements only add to the depth of what is written. -/
theorem Query.Statement.writtenDepth_le_depth (s : Statement) : s.writtenDepth ≤ s.depth := by
  rw [writtenDepth, depth]
  cases s.condition with
  | none => exact Nat.zero_le _
  | some c =>
    exact Nat.le_trans (le_depthBefore s.source.joins.length c.depth) (Nat.le_add_right ..)

/-- A fault of a statement that is beyond the limits of the engine. -/
def Fault.IsBeyondLimits (e : Fault) : Prop := ∃ why text params, e = .beyondLimits why text params

/-- A request is refused for a limit, or does what it does without limits. -/
def Curtails {α : Type} (limited free : Except Fault α) : Prop :=
  limited = free ∨ ∃ e, e.IsBeyondLimits ∧ limited = .error e

namespace Curtails

variable {α β : Type} {x y : Except Fault α} {f g : α → Except Fault β}

theorem refl (x : Except Fault α) : Curtails x x := Or.inl rfl

theorem bind (hx : Curtails x y) (hf : ∀ a, Curtails (f a) (g a)) :
    Curtails (x >>= f) (y >>= g) := by
  rcases hx with rfl | ⟨e, he, rfl⟩
  · cases x with
    | error e => exact refl _
    | ok a => exact hf a
  · exact Or.inr ⟨e, he, rfl⟩

theorem mapM (as : List α) (h : ∀ a, Curtails (f a) (g a)) : Curtails (as.mapM f) (as.mapM g) := by
  induction as with
  | nil => exact refl _
  | cons a as ih =>
    rw [List.mapM_cons, List.mapM_cons]
    exact (h a).bind fun b => ih.bind fun bs => refl _

/-- What a request answers it answers without limits too. -/
theorem eq_ok {a : α} (h : Curtails x y) (hx : x = .ok a) : y = .ok a := by
  rcases h with rfl | ⟨e, -, rfl⟩
  · exact hx
  · cases hx

end Curtails

namespace Store

variable {engine : Engine} {store : Store} {s : Statement}

theorem curtails_runAs (engine : Engine) (store : Store) (text : String) (params : List Cell)
    (s : Statement) :
    Curtails ((limited engine store).runAs text params s) (store.runAs text params s) := by
  rw [runAs]
  split
  · next why _ => exact Or.inr ⟨_, ⟨why, text, params, rfl⟩, rfl⟩
  · exact .refl _

theorem curtails_run (engine : Engine) (store : Store) (s : Statement) :
    Curtails ((limited engine store).run s) (store.run s) := curtails_runAs ..

/-- A statement within the limits is not refused. -/
theorem run_limited (h : s.Within engine.limits) : (limited engine store).run s = store.run s := by
  have hwritten : engine.excessWritten? s s.params.length = none := by
    rw [Engine.excessWritten?, if_neg (by have := s.writtenDepth_le_depth; have := h.depth; omega),
      if_neg (by have := h.values; omega)]
  have hjoined : engine.excessJoined? s = none := if_neg (by have := h.depth; omega)
  have hcompared (db : Database) : engine.excessCompared? db s = none := by
    have hany : s.patterns.any engine.limits.isExceededBy = false :=
      List.any_eq_false.mpr fun p hp => by simpa [Limits.isExceededBy] using h.patterns p hp
    rw [Engine.excessCompared?, hany]
    rfl
  have hnone : engine.excess? store.database s s.params.length (store.runAs s.text s.params s) =
      none := by
    cases store.runAs s.text s.params s with
    | error f => simp [Engine.excess?, hwritten, hjoined]
    | ok r => simp [Engine.excess?, hwritten, hjoined, hcompared]
  rw [run, runAs, hnone, run]

/-- A statement that is written too deep is refused, whatever the store holds. -/
theorem run_limited_of_deep (h : engine.limits.depth < s.writtenDepth) :
    (limited engine store).run s =
      .error (.beyondLimits (.depth engine.limits.depth) s.text s.params) := by
  have hexcess (answer : Except Fault (Result Cell)) :
      engine.excess? store.database s s.params.length answer =
        some (.depth engine.limits.depth) := by
    cases answer <;> simp [Engine.excess?, Engine.excessWritten?, h]
  rw [run, runAs, hexcess]

theorem columnsOf_limited (table : String) :
    (limited engine store).columnsOf table = store.columnsOf table := by
  rw [columnsOf]

theorem hasConversion_limited : (limited engine store).hasConversion = store.hasConversion := by
  simp only [hasConversion, hasColumn, columnsOf_limited]

/-! ### Requests -/

theorem curtails_facets (key : String) (c : Criteria) (search : String) (policy : Policy) :
    Curtails ((limited engine store).facets key c search policy)
      (store.facets key c search policy) :=
  .bind (.refl _) fun s => (curtails_run engine store s).bind fun _ => .refl _


theorem curtails_count (p : Predicate) :
    Curtails ((limited engine store).count p) (store.count p) :=
  (curtails_run engine store _).bind fun _ => .refl _

theorem curtails_attach (row : Record) :
    Curtails ((limited engine store).attach row) (store.attach row) :=
  .bind (.refl _) fun _ => .bind (.mapM _ fun _ => (curtails_run engine store _).bind fun _ =>
    .refl _) fun _ => .refl _

theorem curtails_attachTo (atOnce : Bool) (rows : List Record) :
    Curtails ((limited engine store).attachTo atOnce rows) (store.attachTo atOnce rows) := by
  cases atOnce with
  | false => exact .mapM _ curtails_attach
  | true =>
    show Curtails ((limited engine store).attachAll rows) (store.attachAll rows)
    rw [attachAll, attachAll]
    split
    · exact .refl _
    · exact .bind (.refl _) fun ids => .bind (.mapM _ fun f => (curtails_run engine store _).bind
        fun _ => .refl _) fun _ => .refl _

theorem curtails_page (atOnce : Bool) (q : PageRequest) :
    Curtails ((limited engine store).page atOnce q) (store.page atOnce q) := by
  rw [page, page, hasConversion_limited]
  exact .bind (.refl _) fun p => (curtails_count p).bind fun total => .bind (.refl _) fun _ =>
    .bind (.refl _) fun s => (curtails_run engine store s).bind fun r =>
    (curtails_attachTo atOnce _).bind fun _ => .refl _

theorem curtails_posting? (id : Int) :
    Curtails ((limited engine store).posting? id) (store.posting? id) := by
  rw [posting?, posting?, hasConversion_limited]
  refine .bind (.refl _) fun _ => (curtails_run engine store _).bind fun r => ?_
  cases r.documents with
  | nil => exact .refl _
  | cons row rest => exact (curtails_attach row).bind fun _ => .refl _

theorem curtails_metadata (engine : Engine) (store : Store) :
    Curtails (limited engine store).metadata store.metadata := by
  rw [metadata, metadata]
  refine .bind (.mapM _ fun f => (curtails_facets f.key .empty "" .all).bind fun _ => .refl _)
    fun _ => .bind ?_ fun _ => .refl _
  exact (curtails_runAs engine store _ _ _).bind fun _ => .refl _

theorem curtails_suggest (q : SuggestionRequest) :
    Curtails ((limited engine store).suggest q) (store.suggest q) :=
  .bind (.mapM _ fun _ => .bind (.refl _) fun _ => (curtails_run engine store _).bind fun _ =>
    .refl _) fun _ => .refl _

theorem curtails_report (r : StandingReport) (c : Criteria) :
    Curtails (r.run (limited engine store) c) (r.run store c) :=
  .bind (.refl _) fun _ => .bind (.refl _) fun _ => (curtails_runAs engine store _ _ _).bind
    fun _ => .refl _

/-- Whatever is answered through an engine with limits is answered in the same way without them. -/
theorem eq_ok_of_limited (engine : Engine) (store : Store) :
    (∀ atOnce q p, (limited engine store).page atOnce q = .ok p → store.page atOnce q = .ok p) ∧
    (∀ id p?, (limited engine store).posting? id = .ok p? → store.posting? id = .ok p?) ∧
    (∀ key c search policy fs, (limited engine store).facets key c search policy = .ok fs →
      store.facets key c search policy = .ok fs) ∧
    (∀ m, (limited engine store).metadata = .ok m → store.metadata = .ok m) ∧
    (∀ q found, (limited engine store).suggest q = .ok found → store.suggest q = .ok found) ∧
    ∀ (r : StandingReport) c a, r.run (limited engine store) c = .ok a → r.run store c = .ok a :=
  ⟨fun atOnce q _ => (curtails_page atOnce q).eq_ok, fun id _ => (curtails_posting? id).eq_ok,
    fun key c search policy _ => (curtails_facets key c search policy).eq_ok,
    fun _ => (curtails_metadata engine store).eq_ok, fun q _ => (curtails_suggest q).eq_ok,
    fun r c _ => (curtails_report r c).eq_ok⟩

/-! ### Pages within limits -/

/-- All statements of a page with a number of rows are within the limits. -/
structure PageWithin (l : Limits) (p : Predicate) (sort : SortChoice) (size offset : Int)
    (atOnce : Bool) (rows : Nat) : Prop where
  count : (Statement.count p).Within l
  slice : ∀ converted, (Statement.slice p sort converted size offset).Within l
  /-- Labels that are asked for at once are asked for by the ids of all rows. -/
  labels : atOnce = true → rows ≤ l.values

/-- The labels of postings are asked for by few conditions, with as many values as there are
postings. -/
theorem within_attributesOf {l : Limits} (hdepth : comparisonDepth + 1 ≤ l.depth) (f : Field)
    {ids : List Int} (hvalues : ids.length ≤ l.values) :
    (Statement.attributesOf f ids).Within l := by
  have howned (column : Column) : (ownedBy column ids).depth = comparisonDepth ∧
      (ownedBy column ids).innerDepth = 0 ∧ (ownedBy column ids).patterns = [] ∧
      (ownedBy column ids).params.length = ids.length := by
    rcases ids with _ | ⟨id, _ | ⟨next, rest⟩⟩
    · exact ⟨rfl, rfl, rfl, rfl⟩
    · exact ⟨rfl, rfl, rfl, rfl⟩
    · exact ⟨rfl, rfl, rfl, List.length_map _⟩
  obtain ⟨hcondition, hinner, hpatterns, hparams⟩ := howned f.ownerSource.1
  have hjoins : f.ownerSource.2.joins.length ≤ 1 := by
    rw [Field.ownerSource]
    cases f.entry.shape <;> simp
  refine ⟨?_, ?_, ?_⟩
  · calc (Statement.attributesOf f ids).depth = (depthBefore f.ownerSource.2.joins.length
          (some (ownedBy f.ownerSource.1 ids).depth)).getD 0 +
          (ownedBy f.ownerSource.1 ids).innerDepth := rfl
      _ = comparisonDepth + f.ownerSource.2.joins.length := by
        rw [hcondition, hinner, depthBefore_some _ (Nat.le_refl _), Option.getD_some, Nat.add_zero]
      _ ≤ l.depth := by omega
  · rw [Statement.params, Statement.attributesOf]
    simpa [hparams] using hvalues
  · rw [Statement.patterns, Statement.attributesOf, Option.map_some, hpatterns]
    simp

/-- A page joins many tables and has two values besides those of its predicate, so its limits are
not too low for the labels of one posting. -/
theorem PageWithin.attributesOf {l : Limits} {p : Predicate} {sort : SortChoice}
    {size offset : Int} {atOnce : Bool} {rows : Nat}
    (h : PageWithin l p sort size offset atOnce rows) (f : Field) {ids : List Int}
    (hids : ids.length ≤ (if atOnce then rows else 1)) :
    (Statement.attributesOf f ids).Within l := by
  have hjoins : 2 ≤ (lookupJoins (displayFields ++ p.referenced ++ sort.field?.toList)).length := by
    have hshown : (Field.all.filter fun g => g ∈ displayFields ∧ g.isMultiValued = false).Sublist
        (Field.all.filter fun g =>
          g ∈ displayFields ++ p.referenced ++ sort.field?.toList ∧ g.isMultiValued = false) :=
      List.monotone_filter_right _ fun g hg => by simp_all
    rw [lookupJoins, List.length_map]
    exact le_trans (by decide) hshown.length_le
  have hdepth : comparisonDepth + 1 ≤ l.depth := by
    obtain ⟨n, hn⟩ := Nat.exists_eq_add_of_le' hjoins
    calc comparisonDepth + 1 ≤ n + 1 + 3 := by rw [comparisonDepth]; omega
      _ ≤ (depthBefore (n + 2) (p.condition.map Condition.depth)).getD 0 :=
        add_three_le_depthBefore (n + 1) _
      _ ≤ (Statement.slice p sort false size offset).depth := by
        rw [← hn]
        exact Nat.le_add_right _ _
      _ ≤ l.depth := (h.slice false).depth
  have hone : 2 ≤ l.values := by
    have hslice := (h.slice false).values
    simp only [Statement.params, Statement.slice, List.length_append, List.length_cons,
      List.length_nil] at hslice
    omega
  refine within_attributesOf hdepth f (hids.trans ?_)
  cases atOnce with
  | false => exact le_trans (by simp) hone
  | true => exact h.labels rfl

/-! ### Requests to two stores -/

section congr

variable {store' : Store}

theorem bind_congr_of_ok {ε α β : Type} {x : Except ε α} {f g : α → Except ε β}
    (h : ∀ a, x = .ok a → f a = g a) : x >>= f = x >>= g := by
  cases x with
  | error e => rfl
  | ok a => exact h a rfl

/-- Facets are the same from two stores that answer their statement alike. -/
theorem facets_congr {key : String} {c : Criteria} {search : String} {policy : Policy}
    (h : ∀ s, Statement.facets key c search policy = .ok s → store'.run s = store.run s) :
    store'.facets key c search policy = store.facets key c search policy := by
  rw [facets, facets]
  cases hs : Statement.facets key c search policy with
  | error u => rfl
  | ok s =>
    show (store'.run s >>= _) = store.run s >>= _
    rw [h s hs]

/-- Labels are the same from two stores that answer the statements for one posting, or for all of
them, alike. -/
theorem attachTo_congr {atOnce : Bool} {rows : List Record}
    (h : rows ≠ [] → ∀ f ∈ attachedFields, ∀ ids : List Int,
      ids.length ≤ (if atOnce then rows.length else 1) →
        store'.run (Statement.attributesOf f ids) = store.run (Statement.attributesOf f ids)) :
    store'.attachTo atOnce rows = store.attachTo atOnce rows := by
  cases atOnce with
  | false =>
    refine mapM_congr fun row hrow => bind_congr_of_ok fun id _ => ?_
    congr 1
    refine mapM_congr fun f hf => ?_
    rw [h (List.ne_nil_of_mem hrow) f hf [id] (Nat.le_refl 1)]
  | true =>
    show store'.attachAll rows = store.attachAll rows
    rw [attachAll, attachAll]
    split
    · rfl
    · next hrows =>
      refine bind_congr_of_ok fun ids hids => ?_
      congr 1
      refine mapM_congr fun f hf => ?_
      rw [h (by simpa using hrows) f hf ids
        (Nat.le_of_eq (forall₂_of_mapM hids).length_eq.symm)]

/-- A page is the same from two stores that answer its statements alike. -/
theorem page_congr {atOnce : Bool} {q : PageRequest} {p : Predicate}
    (hp : Predicate.compile q.criteria q.search q.policy none = .ok p)
    (hconversion : store'.hasConversion = store.hasConversion)
    (hcount : store'.run (Statement.count p) = store.run (Statement.count p))
    (hslice : ∀ converted s, Statement.page p q.sortKey q.number q.size converted = .ok s →
      store'.run s = store.run s)
    (hlabels : ∀ converted s r, Statement.page p q.sortKey q.number q.size converted = .ok s →
      store.run s = .ok r → r.documents ≠ [] → ∀ f ∈ attachedFields, ∀ ids : List Int,
        ids.length ≤ (if atOnce then r.documents.length else 1) →
          store'.run (Statement.attributesOf f ids) = store.run (Statement.attributesOf f ids)) :
    store'.page atOnce q = store.page atOnce q := by
  have htotal : store'.count p = store.count p := by rw [count, count, hcount]
  rw [page, page, hp, hconversion]
  refine bind_congr_of_ok fun _ h => ?_
  obtain rfl := Except.ok.inj h
  rw [htotal]
  refine bind_congr_of_ok fun total _ => bind_congr_of_ok fun converted _ =>
    bind_congr_of_ok fun s hs => ?_
  rw [hslice converted s hs]
  refine bind_congr_of_ok fun r hr => ?_
  have hattached : store'.attachTo atOnce r.documents = store.attachTo atOnce r.documents :=
    attachTo_congr (hlabels converted s r hs hr)
  simp only [hattached]

end congr

/-- A page all of whose statements are within the limits is as without limits. -/
theorem page_limited {atOnce : Bool} {q : PageRequest} {p : Predicate} {rows : Nat}
    (hp : Predicate.compile q.criteria q.search q.policy none = .ok p)
    (hwithin : PageWithin engine.limits p (SortChoice.ofKey q.sortKey) q.size
      ((q.number - 1) * q.size) atOnce rows)
    (hrows : ∀ converted s r, Statement.page p q.sortKey q.number q.size converted = .ok s →
      store.run s = .ok r → r.documents.length ≤ rows) :
    (limited engine store).page atOnce q = store.page atOnce q := by
  refine page_congr hp hasConversion_limited (run_limited hwithin.count)
    (fun converted s hs => ?_) fun converted s r hs hr _ f _ ids hids => ?_
  · obtain ⟨-, -, rfl⟩ := Statement.page_eq_ok_iff.mp hs
    exact run_limited (hwithin.slice converted)
  · refine run_limited (hwithin.attributesOf f (hids.trans ?_))
    split
    · exact hrows converted s r hs hr
    · exact Nat.le_refl 1

end Store

end JobSearch
