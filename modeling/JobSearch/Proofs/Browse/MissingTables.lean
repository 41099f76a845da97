import JobSearch.Proofs.Browse.Agreement
import JobSearch.Proofs.Browse.Currency
import JobSearch.Proofs.Browse.Limits
import JobSearch.Proofs.Statement.Tables
import JobSearch.Proofs.Text.Case

/-!
# Missing tables

A request asks one statement after the other, and each of them names its own tables: the facets of
a field ask one statement, a page asks for the number of postings, for its rows and then for the
labels of each attached field, unless it has no rows. So dropping tables breaks exactly what names
them, and nothing else changes (`Database.missing_tables_break_what_names_them`). That a request
has no other fault of a statement takes that nothing else asks one: what is read from a row may be
refused, but for what the row holds (`QuerySafe.read`).

This is so as far as the limits of the engine reach. A request may ask a statement beyond them,
and then it fails on the whole dataset too (`Store.facets_of_many_companies`).

## Main definitions

* `Fault.IsQueryFailure`, `QuerySafe` — faults of statements, and steps without one.
* `FailsExactly` — dropping tables breaks a request exactly under a condition.
* `BreaksWithin` — the same of an engine with limits, as far as they reach.
-/

namespace JobSearch

open Query Number

variable {names : List String} {c : Criteria} {search : String} {policy : Policy}

/-! ### Faults -/

/-- A fault of a statement, as opposed to one of the request or of what the statement showed. -/
def Fault.IsQueryFailure : Fault → Prop
  | missingTable .. | missingColumn .. | unreadableImage .. | undecodable .. | beyondLimits .. =>
    True
  | _ => False

/-- A step asks no statement that fails. -/
def QuerySafe {α : Type} (x : Except Fault α) : Prop := ∀ e, x = .error e → ¬e.IsQueryFailure

namespace QuerySafe

variable {α β : Type}

theorem ok (a : α) : QuerySafe (.ok a) := fun _ h => nomatch h

theorem bind {x : Except Fault α} {f : α → Except Fault β} (hx : QuerySafe x)
    (hf : ∀ a, QuerySafe (f a)) : QuerySafe (x >>= f) := by
  cases x with
  | error e => exact fun e' h => hx e' (congrArg Except.error (Except.error.inj h))
  | ok a => exact hf a

theorem after {x : Except Fault α} {f : α → Except Fault β} {a : α} (hx : x = .ok a)
    (hf : QuerySafe (f a)) : QuerySafe (x >>= f) := by
  rw [hx]
  exact hf

theorem mapM {f : α → Except Fault β} {as : List α} (h : ∀ a ∈ as, QuerySafe (f a)) :
    QuerySafe (as.mapM f) := by
  induction as with
  | nil => exact ok []
  | cons a as ih =>
    obtain ⟨ha, h⟩ := List.forall_mem_cons.mp h
    rw [List.mapM_cons]
    exact ha.bind fun b => (ih h).bind fun bs => ok (b :: bs)

theorem toExcept (c : Checked α) : QuerySafe c.toExcept := by
  cases c with
  | valid a => exact ok a
  | invalid vs =>
    rintro e ⟨⟩
    exact id

theorem attachedItems (attached : Json) (key : String) :
    QuerySafe (Posting.attachedItems attached key) := by
  rw [Posting.attachedItems]
  split
  · exact ok _
  · split
    · exact ok _
    · rintro e ⟨⟩
      exact id

theorem readInteger (v : Json) : QuerySafe v.readInteger := by
  intro e h
  rw [Json.readInteger.eq_def] at h
  split at h
  · cases h
  · cases h
  · split at h
    · cases h
    · rw [← Except.error.inj h]
      split <;> exact id
  · next s =>
    cases hs : Number.readInteger s with
    | error f =>
      rw [hs] at h
      rw [← Except.error.inj h]
      cases f <;> exact id
    | ok n => simp [hs, Except.mapError] at h
  · rw [← Except.error.inj h]
    exact id

/-- What is read from a row is refused for what the row holds. -/
theorem read (row attached : Json) : QuerySafe (Posting.read row attached) := by
  have hid : QuerySafe (Posting.readId row) := by
    rw [Posting.readId]
    split
    · exact readInteger _
    · rintro e ⟨⟩
      exact id
  refine hid.bind fun _ => (toExcept _).bind fun _ => (toExcept _).bind fun _ =>
    (toExcept _).bind fun _ => bind ?_ fun _ => (attachedItems _ _).bind fun _ =>
    (toExcept _).bind fun _ => bind ?_ fun _ => (toExcept _).bind fun _ => toExcept _
  · exact (attachedItems _ _).bind fun _ => (attachedItems _ _).bind fun _ =>
      (attachedItems _ _).bind fun _ => (attachedItems _ _).bind fun _ => toExcept _
  · exact (attachedItems _ _).bind fun _ => (attachedItems _ _).bind fun _ =>
      (attachedItems _ _).bind fun _ => toExcept _

end QuerySafe

/-- Dropping tables breaks a request exactly under a condition: it has a fault of a statement if
and only if the condition holds, and then one for a table that was dropped. Otherwise it does what
it did before. -/
structure FailsExactly {α : Type} (names : List String) (condition : Prop)
    (before after : Except Fault α) : Prop where
  failure_iff : (∃ e, e.IsQueryFailure ∧ after = .error e) ↔ condition
  misses : condition → ∃ e, e.Misses names ∧ after = .error e
  same : ¬condition → after = before

theorem Fault.Misses.isQueryFailure {e : Fault} (h : e.Misses names) : e.IsQueryFailure := by
  obtain ⟨t, text, params, -, rfl⟩ := h
  trivial

theorem Fault.IsBeyondLimits.isQueryFailure {e : Fault} (h : e.IsBeyondLimits) :
    e.IsQueryFailure := by
  obtain ⟨why, text, params, rfl⟩ := h
  trivial

/-- Dropping tables breaks a request of an engine with limits: it has a fault of a statement exactly
under a condition or if the engine refuses a statement of the request on the whole dataset. Under
the condition the fault is one for a dropped table, or that of an engine which refuses a statement
before; elsewhere the request does what it does on the whole dataset. There the limits do no more
than refuse statements, and they refuse none if all statements of the request are within them. -/
structure BreaksWithin {α : Type} (names : List String) (condition within : Prop)
    (free before after : Except Fault α) : Prop where
  failure_iff : (∃ e, e.IsQueryFailure ∧ after = .error e) ↔
    condition ∨ ∃ e, e.IsBeyondLimits ∧ before = .error e
  misses : condition → ∃ e, (e.Misses names ∨ e.IsBeyondLimits) ∧ after = .error e
  same : ¬condition → after = before
  curtails : Curtails before free
  withoutLimits : within →
    before = free ∧ (condition → ∃ e, e.Misses names ∧ after = .error e)

/-- A request that fails exactly under a condition does so in an engine with limits as well, as far
as the limits reach. -/
theorem FailsExactly.breaksWithin {α : Type} {condition within : Prop}
    {free freeAfter before after : Except Fault α} (h : FailsExactly names condition free freeAfter)
    (hbefore : Curtails before free) (hafter : Curtails after freeAfter)
    (hsame : ¬condition → after = before)
    (hwithin : within → before = free ∧ after = freeAfter) :
    BreaksWithin names condition within free before after := by
  have hmisses : condition → ∃ e, (e.Misses names ∨ e.IsBeyondLimits) ∧ after = .error e := by
    intro hcondition
    rcases hafter with rfl | ⟨e, he, rfl⟩
    · obtain ⟨e, he, heq⟩ := h.misses hcondition
      exact ⟨e, Or.inl he, heq⟩
    · exact ⟨e, Or.inr he, rfl⟩
  refine ⟨⟨?_, ?_⟩, hmisses, hsame, hbefore, fun hw => ?_⟩
  · rintro ⟨e, he, heq⟩
    by_cases hcondition : condition
    · exact Or.inl hcondition
    · rcases hbefore with rfl | hrefused
      · have hfree : freeAfter = .error e :=
          ((h.same hcondition).trans (hsame hcondition).symm).trans heq
        exact Or.inl (h.failure_iff.mp ⟨e, he, hfree⟩)
      · exact Or.inr hrefused
  · intro hor
    by_cases hcondition : condition
    · obtain ⟨e, he, heq⟩ := hmisses hcondition
      exact ⟨e, he.elim Fault.Misses.isQueryFailure Fault.IsBeyondLimits.isQueryFailure, heq⟩
    · obtain ⟨e, he, heq⟩ := hor.resolve_left hcondition
      exact ⟨e, he.isQueryFailure, (hsame hcondition).trans heq⟩
  · obtain ⟨hfree, rfl⟩ := hwithin hw
    exact ⟨hfree, h.misses⟩

theorem Breaks.failsExactly {α : Type} {condition : Prop} {before after : Except Fault α}
    (h : Breaks (Fault.Misses names) condition before after) (hbefore : QuerySafe before) :
    FailsExactly names condition before after where
  failure_iff := by
    refine ⟨?_, fun hcondition => ?_⟩
    · rintro ⟨e, he, hafter⟩
      by_contra hcondition
      exact hbefore e ((h.same hcondition).symm.trans hafter) he
    · obtain ⟨e, he, hafter⟩ := h.fails hcondition
      exact ⟨e, he.isQueryFailure, hafter⟩
  misses := h.fails
  same := h.same

/-! ### Requests -/

/-- The tables that a statement names are left as they are if none of them was dropped. -/
theorem Database.only_without {db : Database} {tables : List String} (h : ¬Hits names tables) :
    (db.without names).only tables = db.only tables := by
  rw [Database.only, Database.only, Database.without, List.filter_filter]
  refine congrArg Database.mk (List.filter_congr fun t _ => ?_)
  cases ht : tables.contains t.name with
  | false => rfl
  | true =>
    have hkept : ¬Drops names t.name := fun hdrops => h ⟨_, List.contains_iff_mem.mp ht, hdrops⟩
    simpa [Drops, goesBy] using hkept

namespace Store

variable {db : Database} {engine : Engine}

/-- A statement that names no dropped table is answered, or refused, as on the whole dataset. -/
theorem limited_run_without {s : Statement} (h : ¬Hits names s.tables) :
    (limited engine (readable (db.without names))).run s =
      (limited engine (readable db)).run s := by
  have hrun : s.run (db.without names) = s.run db :=
    Statement.run_congr fun t ht => Database.table?_of_not_drops fun hdrops => h ⟨t, ht, hdrops⟩
  have hexcess (answer : Except Fault (Result Cell)) :
      engine.excess? (db.without names) s s.params.length answer =
        engine.excess? db s s.params.length answer := by
    cases answer <;> simp [Engine.excess?, Database.only_without h]
  simp only [run, runAs, database, hrun, hexcess]

theorem breaks_facets {key : String} {s : Statement} {fs : List Facet}
    (hs : Statement.facets key c search policy = .ok s)
    (h : (Store.readable db).facets key c search policy = .ok fs) :
    Breaks (Fault.Misses names) (Hits names s.tables)
      ((Store.readable db).facets key c search policy)
      ((Store.readable (db.without names)).facets key c search policy) := by
  obtain ⟨s', hs', h⟩ := bind_eq_ok_iff.mp h
  obtain ⟨r, hr, -⟩ := bind_eq_ok_iff.mp h
  obtain rfl : s = s' := by simpa [hs, Except.mapError] using hs'
  exact .after hs' ((breaks_run hr).andThen _)

theorem breaks_count {p : Predicate} {total : Int} (h : (Store.readable db).count p = .ok total) :
    Breaks (Fault.Misses names) (Drops names postingTable ∨ p.Hit names)
      ((Store.readable db).count p) ((Store.readable (db.without names)).count p) := by
  obtain ⟨r, hr, -⟩ := bind_eq_ok_iff.mp h
  exact ((breaks_run hr).iff (Statement.hits_count p)).andThen _

/-- Too many companies are refused, whatever the store holds: their comparisons are nested, and the
condition on the counted labels stands behind them. -/
theorem facets_of_many_companies {engine : Engine} {store : Store} {labels : List String}
    (hne : labels ≠ []) (hdeep : engine.limits.depth < labels.length + 3) :
    ∃ e, e.IsBeyondLimits ∧ (limited engine store).facets "hard_skills"
      ⟨[("company", labels)], fun _ => none⟩ "" .all = .error e := by
  obtain ⟨l, ls, rfl⟩ := List.exists_cons_of_ne_nil hne
  obtain ⟨t, ht⟩ : ∃ t, Predicate.fieldTerm .company (l :: ls) = [t] := by
    rw [Predicate.fieldTerm_of_single rfl]
    cases h : Condition.any? ((l :: ls).map
        fun l => Condition.equals Field.company.labelColumn (.text l)) with
    | none => cases (Condition.any?_eq_none_iff _).mp h
    | some t => exact ⟨_, rfl⟩
  have hdepth : t.depth = (l :: ls).length + 2 :=
    depth_fieldTerm rfl (ht ▸ List.mem_singleton_self t)
  have hcompile : Predicate.compile ⟨[("company", l :: ls)], fun _ => none⟩ "" .all
      (some "hard_skills") = .ok ⟨some t, [.company]⟩ := by
    have hassemble : Predicate.assemble [(.company, l :: ls)]
        ⟨[("company", l :: ls)], fun _ => none⟩ "" .all = ⟨some t, [.company]⟩ := by
      rw [Predicate.assemble, List.flatMap_singleton, ht]
      rfl
    rw [← hassemble]
    rfl
  let s := Statement.facetsUnder .hardSkills ⟨some t, [.company]⟩
  have hs : Statement.facets "hard_skills" ⟨[("company", l :: ls)], fun _ => none⟩ "" .all =
      .ok s := by
    rw [Statement.facets, hcompile]
    rfl
  have hwritten : engine.limits.depth < s.writtenDepth :=
    calc engine.limits.depth < t.depth + 1 := by omega
      _ ≤ max comparisonDepth t.depth + 1 := Nat.succ_le_succ (Nat.le_max_right ..)
      _ = s.writtenDepth := rfl
  refine ⟨.beyondLimits (.depth engine.limits.depth) s.text s.params, ⟨_, _, _, rfl⟩, ?_⟩
  rw [facets, hs]
  show ((limited engine store).run s >>= _) = _
  rw [run_limited_of_deep hwritten]
  rfl

end Store

/-- A table of an attached field was dropped. -/
def HitsAttached (names : List String) : Prop := ∃ g ∈ attachedFields, Hits names g.tables

namespace Database

variable {db : Database}

/-- The labels of one posting are asked for field by field. -/
theorem Conforms.breaks_attach (hdb : db.Conforms) {row : Record} {id : Int}
    (hid : rowId row = .ok id) (hfit : (Cell.int id).fits = true) :
    Breaks (Fault.Misses names) (HitsAttached names) ((Store.readable db).attach row)
      ((Store.readable (db.without names)).attach row) := by
  refine .after hid (.andThen (.mapM (fun g _ => ?_) fun g _ => ?_) _)
  all_goals obtain ⟨r, hr, -⟩ := hdb.labelsIn_attributes g hfit
  · exact ⟨_, bind_eq_ok_iff.mpr ⟨r, hr, rfl⟩⟩
  · exact ((Store.breaks_run hr).iff (Statement.hits_attributesOf g [id])).andThen _

/-- The labels of several postings are asked for field by field as well. -/
theorem Conforms.breaks_attachAll (hdb : db.Conforms) {rows : List Record} (hne : rows ≠ [])
    (h : ∀ row ∈ rows, ∃ id, rowId row = .ok id ∧ (Cell.int id).fits = true) :
    Breaks (Fault.Misses names) (HitsAttached names) ((Store.readable db).attachAll rows)
      ((Store.readable (db.without names)).attachAll rows) := by
  obtain ⟨ids, hids, hall⟩ := exists_mapM rows (f := rowId)
    (P := fun _ id => (Cell.int id).fits = true) h
  have hfits : ∀ id ∈ ids, (Cell.int id).fits = true := by
    intro id hid
    obtain ⟨-, -, hfit⟩ := forall₂_left hall id hid
    exact hfit
  have hempty : rows.isEmpty = false := by simpa using hne
  rw [Store.attachAll, Store.attachAll, hempty]
  refine .after hids (.andThen (.mapM (fun g _ => ?_) fun g _ => ?_) _)
  all_goals obtain ⟨r, labels, hr, hlabels, -⟩ := hdb.labelsByOwner_attributes g hfits
  · exact ⟨(g.key, labels), bind_eq_ok_iff.mpr ⟨r, hr, bind_eq_ok_iff.mpr ⟨labels, hlabels, rfl⟩⟩⟩
  · exact ((Store.breaks_run hr).iff (Statement.hits_attributesOf g ids)).andThen _

/-- In both ways labels are asked for only if there is a posting. -/
theorem Conforms.breaks_attachTo (hdb : db.Conforms) (atOnce : Bool) {rows : List Record}
    (h : ∀ row ∈ rows, ∃ id, rowId row = .ok id ∧ (Cell.int id).fits = true) :
    Breaks (Fault.Misses names) (rows ≠ [] ∧ HitsAttached names)
      ((Store.readable db).attachTo atOnce rows)
      ((Store.readable (db.without names)).attachTo atOnce rows) := by
  by_cases hrows : rows = []
  · subst hrows
    refine Breaks.iff ?_ (iff_of_false id fun hhits => hhits.1 rfl)
    cases atOnce <;> exact .refl _
  cases atOnce with
  | true => exact (hdb.breaks_attachAll hrows h).iff (and_iff_right hrows).symm
  | false =>
    refine .mapM_alike fun row hrow => ?_
    obtain ⟨id, hid, hfit⟩ := h row hrow
    exact hdb.breaks_attach hid hfit

theorem hasConversion_without (h : ¬Drops names postingTable) :
    (Store.readable (db.without names)).hasConversion = (Store.readable db).hasConversion := by
  rw [hasConversion_readable, hasConversion_readable, holdsConversion, holdsConversion,
    columnsOf_of_not_drops h]

/-- The labels of documents of postings are asked for without a fault. -/
theorem Conforms.querySafe_attachTo (hdb : db.Conforms) (atOnce : Bool) {rows : List Record}
    (h : ∀ row ∈ rows, ∃ id, rowId row = .ok id ∧ (Cell.int id).fits = true) :
    QuerySafe ((Store.readable db).attachTo atOnce rows) := by
  rw [hdb.attachTo_eq atOnce h]
  refine .mapM fun row hrow => ?_
  obtain ⟨id, hid, hfit⟩ := h row hrow
  rw [hdb.attach_eq hid hfit]
  exact .read _ _

theorem querySafe_totalPages (total size : Int) : QuerySafe (totalPages total size) := by
  rw [totalPages]
  split
  · exact .ok _
  · split
    · exact .ok _
    · rintro e ⟨⟩
      exact id

/-- The statement of a page shows as many rows as the page has. -/
theorem Conforms.run_page (hdb : db.Conforms) (hc : c.Normal) (hn : c.Countable) {size k : Nat}
    (hfit : size < twoTo 63) (hoffset : k * size < twoTo 63) {sortKey : Option String}
    {converted : Bool} {s : Statement}
    (hs : Statement.page (c.predicate search policy) sortKey ((k : Int) + 1) size converted =
      .ok s) :
    ∃ r, (Store.readable db).run s = .ok r ∧
      r.documents.length = min size ((db.matching c search policy).length - k * size) := by
  obtain ⟨-, -, rfl⟩ := Statement.page_eq_ok_iff.mp hs
  have hposition : ((k : Int) + 1 - 1) * size = ((k * size : Nat) : Int) := by
    rw [Int.add_sub_cancel, Nat.cast_mul]
  have hlisted : (db.listed c search policy (SortChoice.ofKey sortKey)).length = _ :=
    (listed_perm c search policy _).length_eq
  obtain ⟨r, hr, hdocuments⟩ := hdb.run_slice hc hn search policy (SortChoice.ofKey sortKey)
    converted hfit hoffset
  refine ⟨r, by rw [hposition, hr], ?_⟩
  rw [hdocuments, List.length_map, List.length_take, List.length_drop, hlisted]

/-- If tables were dropped and the statement of a page still has a result, it is the same one. -/
theorem Conforms.length_page_without (hdb : db.Conforms) (hc : c.Normal) (hn : c.Countable)
    {size k : Nat} (hfit : size < twoTo 63) (hoffset : k * size < twoTo 63)
    {sortKey : Option String} {converted : Bool} {s : Statement} {r : Result Cell}
    (hs : Statement.page (c.predicate search policy) sortKey ((k : Int) + 1) size converted =
      .ok s) (hr : (Store.readable (db.without names)).run s = .ok r) :
    r.documents.length = min size ((db.matching c search policy).length - k * size) := by
  obtain ⟨r', hr', hlength⟩ := hdb.run_page hc hn hfit hoffset hs
  have hbreaks : Breaks (Fault.Misses names) _ _ _ := Store.breaks_run hr'
  by_cases hhits : Hits names s.tables
  · obtain ⟨e, -, he⟩ := hbreaks.fails hhits
    cases he.symm.trans hr
  · obtain rfl := Except.ok.inj (hr'.symm.trans ((hbreaks.same hhits).symm.trans hr))
    exact hlength

/-- The searched fields are shown. -/
theorem mem_displayFields_of_searched : ∀ f ∈ searchFields, f ∈ displayFields := by decide

/-- The postings of a page are counted, read and given their labels one after the other. -/
theorem Conforms.breaks_page (hdb : db.Conforms) (hc : c.Normal) (hfields : c.Filterable)
    (hn : c.Countable) (names : List String) (search : String) (policy : Policy) (atOnce : Bool)
    (sortKey : Option String) {size k : Nat} (hsize : 0 < size) (hfit : size < twoTo 63)
    (hoffset : k * size < twoTo 63) :
    QuerySafe ((Store.readable db).page atOnce ⟨k + 1, size, c, search, sortKey, policy⟩) ∧
    Breaks (Fault.Misses names)
      ((Drops names postingTable ∨ (c.predicate search policy).Hit names) ∨
        (∃ g ∈ displayFields, Drops names g.entry.table) ∨
        k * size < (db.matching c search policy).length ∧ HitsAttached names)
      ((Store.readable db).page atOnce ⟨k + 1, size, c, search, sortKey, policy⟩)
      ((Store.readable (db.without names)).page atOnce
        ⟨k + 1, size, c, search, sortKey, policy⟩) := by
  have hcompile : (Predicate.compile c search policy none).mapError Fault.unknownField =
      .ok (c.predicate search policy) := by
    rw [Predicate.compile_eq_ok hfields]
    rfl
  have hcount : (Store.readable db).count (c.predicate search policy) = .ok _ :=
    hdb.count_eq_ok hc hn
  obtain ⟨converted, hconverted⟩ := Store.hasConversion_readable db
  have hs : Statement.page (c.predicate search policy) sortKey ((k : Int) + 1) size
      converted = .ok (Statement.slice (c.predicate search policy) (SortChoice.ofKey sortKey)
        converted size ((k * size : Nat) : Int)) := by
    rw [Statement.page_eq_ok_iff]
    refine ⟨by omega, by omega, ?_⟩
    rw [Int.add_sub_cancel, Nat.cast_mul]
  obtain ⟨r, hr, hlength⟩ := hdb.run_page hc hn hfit hoffset hs
  have hids : ∀ row ∈ r.documents, ∃ id, rowId row = .ok id ∧ (Cell.int id).fits = true :=
    fun row hrow => hdb.rowId_of_isPageRow ⟨_, _, _, _, _, _, _, hs, hr, hrow⟩
  have hrows : r.documents ≠ [] ↔ k * size < (db.matching c search policy).length := by
    rw [← List.length_pos_iff, hlength]
    omega
  constructor
  · exact .after hcompile (.after hcount (.after hconverted (.after hs (.after hr
      ((hdb.querySafe_attachTo atOnce hids).bind fun _ => (querySafe_totalPages _ _).bind fun _ =>
        .ok _)))))
  · refine .after hcompile (.bind (Store.breaks_count hcount) hcount fun hcounted => ?_)
    have hposting : ¬Drops names postingTable := fun hdrops => hcounted (Or.inl hdrops)
    rw [hasConversion_without hposting]
    refine .after hconverted (.after hs (.iff (.bind (Store.breaks_run hr) hr fun _ =>
      (hdb.breaks_attachTo atOnce hids).andThen _) ?_))
    rw [hrows, Statement.hits_slice, or_iff_right hposting,
      or_iff_left fun hhit => hcounted (Or.inr hhit)]

/-- The statement of the facets of a field. -/
theorem facets_statement_eq (hfields : c.Filterable) {f : Field} (hf : f.entry.filterable = true)
    (search : String) (policy : Policy) : Statement.facets f.key c search policy =
      .ok (Statement.facetsUnder f ((c.withoutField f.key).predicate search policy)) := by
  simp only [Statement.facets, Predicate.compile_exclude hf,
    Predicate.compile_eq_ok (hfields.withoutField f.key), Field.resolve_key, Except.map]

/-- The facets of a field name its own tables, those of the other selected fields and, for a search
text that is not blank, those of the searched fields. -/
theorem hits_facets (f : Field) (c : Criteria) (search : String) (policy : Policy) :
    Hits names
        (Statement.facetsUnder f ((c.withoutField f.key).predicate search policy)).tables ↔
      Drops names postingTable ∨ Hits names f.tables ∨
        (∃ g ∈ c.chosen, g ≠ f ∧ Hits names g.tables) ∨
        Text.trim search ≠ "" ∧ ∃ g ∈ searchFields, Drops names g.entry.table := by
  rw [Statement.hits_facetsUnder, hit_predicate]
  simp only [Criteria.mem_chosen_withoutField, and_assoc]

/-- The facets of a field fail exactly where they name a dropped table. -/
theorem Conforms.failsExactly_facets (hdb : db.Conforms) (hc : c.Normal) (hfields : c.Filterable)
    (hn : c.Countable) (names : List String) (search : String) (policy : Policy) {f : Field}
    (hf : f.entry.filterable = true) :
    (∃ fs, (Store.readable db).facets f.key c search policy = .ok fs) ∧
    FailsExactly names
      (Drops names postingTable ∨ Hits names f.tables ∨
        (∃ g ∈ c.chosen, g ≠ f ∧ Hits names g.tables) ∨
        Text.trim search ≠ "" ∧ ∃ g ∈ searchFields, Drops names g.entry.table)
      ((Store.readable db).facets f.key c search policy)
      ((Store.readable (db.without names)).facets f.key c search policy) := by
  obtain ⟨fs, hfs, -⟩ := hdb.facets_eq_ok hf hc hfields hn search policy
  have hbreaks : Breaks (Fault.Misses names) _ _ _ :=
    Store.breaks_facets (facets_statement_eq hfields hf search policy) hfs
  exact ⟨⟨fs, hfs⟩, (hbreaks.iff (hits_facets f c search policy)).failsExactly (hfs ▸ .ok fs)⟩

/-- Where the facets of a field name no dropped table an engine with limits answers, or refuses,
them as on the whole dataset. -/
theorem limited_facets_without (hfields : c.Filterable) {f : Field}
    (hf : f.entry.filterable = true) (engine : Engine)
    (h : ¬(Drops names postingTable ∨ Hits names f.tables ∨
      (∃ g ∈ c.chosen, g ≠ f ∧ Hits names g.tables) ∨
      Text.trim search ≠ "" ∧ ∃ g ∈ searchFields, Drops names g.entry.table)) :
    (Store.limited engine (.readable (db.without names))).facets f.key c search policy =
      (Store.limited engine (.readable db)).facets f.key c search policy := by
  refine Store.facets_congr fun s hs => ?_
  obtain rfl := Except.ok.inj ((facets_statement_eq hfields hf search policy).symm.trans hs)
  exact Store.limited_run_without fun hhits => h ((hits_facets f c search policy).mp hhits)

/-- A page names the tables of the shown and of the selected fields, the searched ones being shown,
and those of the attached fields if it has a posting. -/
theorem Conforms.failsExactly_page (hdb : db.Conforms) (hc : c.Normal) (hfields : c.Filterable)
    (hn : c.Countable) (names : List String) (search : String) (policy : Policy) (atOnce : Bool)
    (sortKey : Option String) {size k : Nat} (hsize : 0 < size) (hfit : size < twoTo 63)
    (hoffset : k * size < twoTo 63) :
    FailsExactly names
      (Drops names postingTable ∨ (∃ g ∈ displayFields, Drops names g.entry.table) ∨
        (∃ g ∈ c.chosen, Hits names g.tables) ∨
        k * size < (db.matching c search policy).length ∧
          ∃ g ∈ attachedFields, Hits names g.tables)
      ((Store.readable db).page atOnce ⟨k + 1, size, c, search, sortKey, policy⟩)
      ((Store.readable (db.without names)).page atOnce
        ⟨k + 1, size, c, search, sortKey, policy⟩) := by
  obtain ⟨hsafe, hbreaks⟩ :=
    hdb.breaks_page hc hfields hn names search policy atOnce sortKey hsize hfit hoffset
  refine (hbreaks.iff ?_).failsExactly hsafe
  rw [hit_predicate]
  constructor
  · rintro ((hposting | hselected | ⟨-, g, hg, hdrops⟩) | hshown | hattached)
    · exact Or.inl hposting
    · exact Or.inr (Or.inr (Or.inl hselected))
    · exact Or.inr (Or.inl ⟨g, mem_displayFields_of_searched g hg, hdrops⟩)
    · exact Or.inr (Or.inl hshown)
    · exact Or.inr (Or.inr (Or.inr hattached))
  · rintro (hposting | hshown | hselected | hattached)
    · exact Or.inl (Or.inl hposting)
    · exact Or.inr (Or.inl hshown)
    · exact Or.inl (Or.inr (Or.inl hselected))
    · exact Or.inr (Or.inr hattached)

/-- Where a page names no dropped table an engine with limits answers, or refuses, it as on the
whole dataset. -/
theorem Conforms.limited_page_without (hdb : db.Conforms) (hc : c.Normal) (hfields : c.Filterable)
    (hn : c.Countable) (engine : Engine) (atOnce : Bool) (sortKey : Option String) {size k : Nat}
    (hfit : size < twoTo 63) (hoffset : k * size < twoTo 63)
    (h : ¬(Drops names postingTable ∨ (∃ g ∈ displayFields, Drops names g.entry.table) ∨
      (∃ g ∈ c.chosen, Hits names g.tables) ∨
      k * size < (db.matching c search policy).length ∧
        ∃ g ∈ attachedFields, Hits names g.tables)) :
    (Store.limited engine (.readable (db.without names))).page atOnce
        ⟨k + 1, size, c, search, sortKey, policy⟩ =
      (Store.limited engine (.readable db)).page atOnce
        ⟨k + 1, size, c, search, sortKey, policy⟩ := by
  obtain ⟨hposting, hshown, hselected, hattached⟩ := by simpa only [not_or] using h
  have hpredicate : ¬(c.predicate search policy).Hit names := by
    rw [hit_predicate]
    rintro (hhits | ⟨-, g, hg, hdrops⟩)
    · exact hselected hhits
    · exact hshown ⟨g, mem_displayFields_of_searched g hg, hdrops⟩
  refine Store.page_congr (Predicate.compile_eq_ok hfields search policy) ?_ ?_
    (fun converted s hs => ?_) fun converted s r hs hr hrows f hf ids _ => ?_
  · rw [Store.hasConversion_limited, Store.hasConversion_limited, hasConversion_without hposting]
  · refine Store.limited_run_without fun hhits => ?_
    exact ((Statement.hits_count _).mp hhits).elim hposting hpredicate
  · obtain ⟨-, -, rfl⟩ := Statement.page_eq_ok_iff.mp hs
    refine Store.limited_run_without fun hhits => ?_
    exact ((Statement.hits_slice ..).mp hhits).elim hposting (Or.elim · hshown hpredicate)
  · refine Store.limited_run_without fun hhits => hattached ⟨?_, f, hf, ?_⟩
    · obtain ⟨r', hr', hlength⟩ := hdb.run_page hc hn hfit hoffset hs
      have hfree := (Store.curtails_run engine (.readable db) s).eq_ok hr
      obtain rfl := Except.ok.inj (hr'.symm.trans hfree)
      have hpos := List.length_pos_of_ne_nil hrows
      omega
    · exact (Statement.hits_attributesOf f ids).mp hhits

/-- After some tables were dropped, the facets of a field fail exactly if the table of postings,
one of the field, one of another selected field or, for a search text that is not blank, one of a
searched field was dropped. A page fails exactly if the table of postings, one of a shown or
selected field or, where the page has a posting, one of an attached field was dropped. Besides, an
engine may refuse a request on the whole dataset because a statement is beyond its limits, and then
it refuses the request whatever was dropped elsewhere. Everything else is answered as by the whole
dataset. A key that postings cannot be filtered by is refused whatever was dropped. -/
theorem missing_tables_break_what_names_them (hdb : db.Conforms) (hc : c.Normal)
    (hfields : c.Filterable) (hn : c.Countable) (engine : Engine) (names : List String)
    (search : String) (policy : Policy) :
    (∀ f : Field, f.entry.filterable = true →
      (∃ fs, (Store.readable db).facets f.key c search policy = .ok fs) ∧
      BreaksWithin names
        (Drops names postingTable ∨ Hits names f.tables ∨
          (∃ g ∈ c.chosen, g ≠ f ∧ Hits names g.tables) ∨
          Text.trim search ≠ "" ∧ ∃ g ∈ searchFields, Drops names g.entry.table)
        (∀ s, Statement.facets f.key c search policy = .ok s → s.Within engine.limits)
        ((Store.readable db).facets f.key c search policy)
        ((Store.limited engine (.readable db)).facets f.key c search policy)
        ((Store.limited engine (.readable (db.without names))).facets f.key c search policy)) ∧
    (∀ (store : Store) key u, Field.resolveFilterable key = .error u →
      store.facets key c search policy = .error (.unknownField u)) ∧
    ∀ (atOnce : Bool) (sortKey : Option String) (size k : Nat), 0 < size → size < twoTo 63 →
      k * size < twoTo 63 →
      (db.Readable → ∃ p, (Store.readable db).page atOnce
        ⟨k + 1, size, c, search, sortKey, policy⟩ = .ok p) ∧
      BreaksWithin names
        (Drops names postingTable ∨ (∃ g ∈ displayFields, Drops names g.entry.table) ∨
          (∃ g ∈ c.chosen, Hits names g.tables) ∨
          k * size < (db.matching c search policy).length ∧
            ∃ g ∈ attachedFields, Hits names g.tables)
        (∀ p, Predicate.compile c search policy none = .ok p →
          Store.PageWithin engine.limits p (SortChoice.ofKey sortKey) size (k * size) atOnce
            (min size ((db.matching c search policy).length - k * size)))
        ((Store.readable db).page atOnce ⟨k + 1, size, c, search, sortKey, policy⟩)
        ((Store.limited engine (.readable db)).page atOnce
          ⟨k + 1, size, c, search, sortKey, policy⟩)
        ((Store.limited engine (.readable (db.without names))).page atOnce
          ⟨k + 1, size, c, search, sortKey, policy⟩) := by
  refine ⟨fun f hf => ?_, fun store key u hkey => ?_,
    fun atOnce sortKey size k hsize hfit hoffset => ⟨fun hread => ?_, ?_⟩⟩
  · obtain ⟨hfs, hexactly⟩ := hdb.failsExactly_facets hc hfields hn names search policy hf
    exact ⟨hfs, hexactly.breaksWithin (Store.curtails_facets ..) (Store.curtails_facets ..)
      (limited_facets_without hfields hf engine) fun hwithin =>
        ⟨Store.facets_congr fun s hs => Store.run_limited (hwithin s hs),
          Store.facets_congr fun s hs => Store.run_limited (hwithin s hs)⟩⟩
  · simp only [Store.facets, Statement.facets, Predicate.compile, Predicate.resolveExcluded, hkey,
      Except.map, Except.mapError, bind, Except.bind]
  · obtain ⟨p, hp, -⟩ := hread.exists_page hc hfields hn atOnce sortKey hsize hfit hoffset
    exact ⟨p, hp⟩
  · refine (hdb.failsExactly_page hc hfields hn names search policy atOnce sortKey hsize hfit
      hoffset).breaksWithin (Store.curtails_page ..) (Store.curtails_page ..)
      (hdb.limited_page_without hc hfields hn engine atOnce sortKey hfit hoffset) fun hwithin => ?_
    have hcompile : Predicate.compile c search policy none = .ok (c.predicate search policy) :=
      Predicate.compile_eq_ok hfields search policy
    have hpage : Store.PageWithin engine.limits (c.predicate search policy)
        (SortChoice.ofKey sortKey) size (((k : Int) + 1 - 1) * size) atOnce
        (min size ((db.matching c search policy).length - k * size)) := by
      rw [Int.add_sub_cancel]
      exact hwithin _ hcompile
    refine ⟨Store.page_limited hcompile hpage fun _ _ _ hs hr => ?_,
      Store.page_limited hcompile hpage fun _ _ _ hs hr => ?_⟩
    · obtain ⟨r', hr', hlength⟩ := hdb.run_page hc hn hfit hoffset hs
      obtain rfl := Except.ok.inj (hr'.symm.trans hr)
      exact Nat.le_of_eq hlength
    · exact Nat.le_of_eq (hdb.length_page_without hc hn hfit hoffset hs hr)

/-- Without the companies, whatever the case of the name, the skills in Oslo are still counted, but
no page shows them; the limits are kept. -/
theorem missing_companies_in_sample : ∃ fs e,
    (Store.limited .leftToRight
      (.readable { Dataset.sample with dropped := ["COMPANIES"] }.database)).facets "hard_skills"
        .sample " " .all = .ok fs ∧
    (Store.limited .leftToRight
      (.readable { Dataset.sample with dropped := ["COMPANIES"] }.database)).page true
        ⟨1, 2, .sample, " ", none, .all⟩ = .error e ∧ e.Misses ["COMPANIES"] := by
  obtain ⟨hfacets, -, hpage⟩ := missing_tables_break_what_names_them
    Dataset.storable_sample.conforms Criteria.normal_sample Criteria.filterable_sample
    Criteria.countable_sample .leftToRight ["COMPANIES"] " " .all
  have hfacetsWithin : ∀ s, Statement.facets "hard_skills" .sample " " .all = .ok s →
      s.Within .documented := by
    have hstatement : (Statement.facets "hard_skills" .sample " " .all).toOption.map
        (fun s => decide (s.Within .documented)) = some true := by decide +kernel
    intro s hs
    simpa [hs, Except.toOption] using hstatement
  have hpageWithin : ∀ p, Predicate.compile .sample " " .all none = .ok p →
      Store.PageWithin .documented p (SortChoice.ofKey none) (2 : Nat) ((0 : Nat) * (2 : Nat)) true
        (min 2 ((Dataset.sample.database.matching .sample " " .all).length - 0 * 2)) := by
    have hstatements : (Predicate.compile .sample " " .all none).toOption.map
        (fun p => decide ((Statement.count p).Within .documented ∧ ∀ converted,
          (Statement.slice p (SortChoice.ofKey none) converted (2 : Nat)
            ((0 : Nat) * (2 : Nat))).Within .documented)) = some true := by decide +kernel
    intro p hp
    rw [hp] at hstatements
    obtain ⟨hcount, hslice⟩ := of_decide_eq_true (Option.some.inj hstatements)
    exact ⟨hcount, hslice, fun _ => (min_le_left _ _).trans (by decide)⟩
  obtain ⟨⟨fs, hfs⟩, hbreaks⟩ := hfacets .hardSkills rfl
  obtain ⟨hfree, -⟩ := hbreaks.withoutLimits hfacetsWithin
  obtain ⟨-, hpageBreaks⟩ := hpage true none 2 0 (by decide) (by decide) (by decide)
  obtain ⟨-, hmisses⟩ := hpageBreaks.withoutLimits hpageWithin
  obtain ⟨e, he, heq⟩ := hmisses (Or.inr (Or.inl ⟨.company, by decide, by decide⟩))
  rw [Dataset.database_dropped rfl]
  exact ⟨fs, e, (hbreaks.same (by decide +kernel)).trans (hfree.trans hfs), heq, he⟩

/-- A thousand labels of one character each. -/
def manyLabels : List String :=
  (List.range 1000).map fun i => String.singleton (Char.ofNat (0x4E00 + i))

theorem nodup_manyLabels : manyLabels.Nodup := by
  refine List.Nodup.map_on (fun i hi j hj h => ?_) List.nodup_range
  rw [List.mem_range] at hi hj
  have hchar : ∀ n < 1000, (Char.ofNat (0x4E00 + n)).toNat = 0x4E00 + n := fun n hn =>
    Text.toNat_ofNat_of_isValidChar (Or.inl (by omega))
  have hsame : Char.ofNat (0x4E00 + i) = Char.ofNat (0x4E00 + j) := by simpa using h
  have hnumber := congrArg Char.toNat hsame
  rw [hchar i hi, hchar j hj] at hnumber
  omega

/-- No table was dropped, and still the skills are not counted: the comparisons with a thousand
companies are nested too deeply for the documented limits. -/
theorem many_labels_refused :
    let c : Criteria := ⟨[("company", manyLabels)], fun _ => none⟩
    (c.Normal ∧ c.Filterable ∧ c.Countable) ∧ Dataset.sample.dropped = [] ∧
      ∃ e, e.IsQueryFailure ∧ (Store.limited .leftToRight
        (.readable Dataset.sample.database)).facets "hard_skills" c "" .all = .error e := by
  intro c
  have hlength : manyLabels.length = 1000 := by simp [manyLabels]
  have hne : manyLabels ≠ [] := List.ne_nil_of_length_pos (by omega)
  have hnormal : c.Normal := by
    refine ⟨?_, ?_, ?_, ?_⟩
    · simp [c, Criteria.activeFields]
    · simpa [c] using hne
    · simpa [c] using nodup_manyLabels
    · simp [c, manyLabels]
  have hfilterable : c.Filterable := by
    intro key hkey
    obtain rfl : key = "company" := by simpa [c, Criteria.activeFields] using hkey
    exact ⟨Field.company, Field.resolveFilterable_eq_ok_iff.mpr ⟨rfl, rfl⟩⟩
  have hcountable : c.Countable := by
    intro p hp
    obtain rfl : p = ("company", manyLabels) := by simpa [c] using hp
    rw [hlength]
    decide +kernel
  have hdeep : Engine.leftToRight.limits.depth < manyLabels.length + 3 := by
    rw [hlength]
    decide
  obtain ⟨e, he, hrefused⟩ := Store.facets_of_many_companies hne hdeep
  exact ⟨⟨hnormal, hfilterable, hcountable⟩, rfl, e, he.isQueryFailure, hrefused⟩

end Database

end JobSearch
