import JobSearch.Browse.Facets
import JobSearch.Proofs.Browse.Listing
import JobSearch.Proofs.Query.LabelRows
import Mathlib.Algebra.BigOperators.Ring.Finset

/-!
# Facets

The facets of a field are the groups of the rows of its labels. A group has the rows with one
label; its postings are those that match without the field's own selection and carry the label,
and as they are told apart by their ids each of them counts once (`Database.Conforms.facetOf_eq`).
The groups are ordered by number and label (`facets_count_carriers`). What is said of groups is said
of the labels that have some property, so that it serves labels that contain a term as well.

## Main definitions

* `Database.carrying` — the postings of a list that carry a label.
* `Field.facetOf` — the facet of a group of rows.
-/

namespace JobSearch

open Query

/-- The postings of a list that carry a label. -/
def Database.carrying (db : Database) (f : Field) (l : String) (js : List Row) : List Row :=
  js.filter fun j => db.Carries f j l

/-- The facet of a group of rows: the label of the first one and the number of ids. -/
def Field.facetOf (f : Field) (g : List Joined) : Facet :=
  ⟨((Expression.column f.labelColumn).value g).label,
    Carriers.countDistinct (g.map (·.cell postingId))⟩

/-- The facets of a result are those of its groups of rows. -/
theorem facetsIn_eq_ok (f : Field) (columns : List String) (gs : List (List Joined)) :
    facetsIn
        { columns
          rows := gs.map fun g => [(Expression.column f.labelColumn).value g,
            (Expression.countDistinct postingId).value g] } =
      .ok (gs.map f.facetOf) := by
  rw [facetsIn]
  induction gs with
  | nil => rfl
  | cons g gs ih =>
    rw [List.map_cons, List.mapM_cons, ih]
    rfl

namespace Database

variable {db : Database} {f : Field} {c : Criteria} {search : String} {policy : Policy}

/-- A row is kept if it has a label and the predicate holds of it. -/
theorem holdsIn?_facetsUnder (r : Joined) (p : Predicate) :
    Condition.holdsIn? db r (Statement.facetsUnder f p).condition =
      (!(r.cell f.labelColumn).isNull && Condition.holdsIn? db r p.condition) := by
  rw [Statement.facetsUnder, Statement.labels]
  cases p.condition with
  | none => exact (Bool.and_true _).symm
  | some c => rfl

theorem answered?_facetsUnder {p : Predicate} (h : Condition.Answered? db p.condition) :
    Condition.Answered? db (Statement.facetsUnder f p).condition := by
  intro d hd s hs
  rw [Statement.facetsUnder, Statement.labels] at hd
  obtain rfl := Option.some.inj hd
  cases hp : p.condition with
  | none => simp [hp, Condition.carriers] at hs
  | some t => exact h t hp s (by simpa [hp, Condition.carriers] using hs)

theorem fits_facetsUnder {p : Predicate} (h : p.params.all Cell.fits = true) :
    (Statement.facetsUnder f p).params.all Cell.fits = true := by
  rw [Predicate.params] at h
  rw [Statement.params, Statement.facetsUnder, Statement.labels]
  cases hp : p.condition with
  | none => rfl
  | some t => simpa [hp, Condition.params] using h

/-- The rows of the postings that match are kept, if they have a label. -/
theorem Conforms.kept_facetsUnder (hdb : db.Conforms) (hc : c.Normal) (search : String)
    (policy : Policy) (f : Field) :
    ∃ (kept : List Joined) (rowsFor : Row → List Joined),
      (Statement.facetsUnder f (c.predicate search policy)).kept db = .ok kept ∧
      (∀ j, LabelRows db f (c.predicate search policy).referenced j (rowsFor j)) ∧
      ∀ r, r ∈ kept ↔ ∃ j ∈ db.matching c search policy, r ∈ rowsFor j ∧
        ∃ l, r.cell f.labelColumn = .text l := by
  obtain ⟨hanswered, hholds⟩ := hdb.holdsIn?_predicate hc search policy
  obtain ⟨rowsFor, hrows, hlabelled⟩ :=
    hdb.labelSource_rows f (c.predicate search policy).referenced
  refine ⟨_, rowsFor, Statement.kept_eq_filter hrows (answered?_facetsUnder hanswered), hlabelled,
    fun r => ?_⟩
  have hlabel : ∀ j, r ∈ rowsFor j → ((r.cell f.labelColumn).isNull = false ↔
      ∃ l, r.cell f.labelColumn = .text l) := by
    intro j hr
    rcases (hlabelled j).label r hr with h | ⟨l, h⟩
    · simp [h, Cell.isNull, Cell.key]
    · simp [h, Cell.isNull, Cell.key]
  rw [List.mem_filter, List.mem_flatMap, holdsIn?_facetsUnder, Bool.and_eq_true,
    Bool.not_eq_true']
  constructor
  · rintro ⟨⟨j, hj, hr⟩, hnull, hp⟩
    refine ⟨j, List.mem_filter.mpr ⟨hj, ?_⟩, hr, (hlabel j hr).mp hnull⟩
    exact decide_eq_true ((hholds j hj r ((hlabelled j).shows r hr)).mp hp)
  · rintro ⟨j, hj, hr, hl⟩
    obtain ⟨hj, hmatch⟩ := List.mem_filter.mp hj
    exact ⟨⟨j, hj, hr⟩, (hlabel j hr).mpr hl,
      (hholds j hj r ((hlabelled j).shows r hr)).mpr (of_decide_eq_true hmatch)⟩

/-! ### Groups -/

section groups

variable {P : String → Prop} {js : List Row} {rowsFor : Row → List Joined} {kept : List Joined}
  (hmem : ∀ r, r ∈ kept ↔ ∃ j ∈ js, r ∈ rowsFor j ∧ ∃ l, P l ∧ r.cell f.labelColumn = .text l)
include hmem

/-- The rows with the key of a label are the rows with the label, if it is one that is kept. -/
theorem mem_filter_key {l : String} (hP : P l) {r : Joined} :
    r ∈ kept.filter (fun r => (r.cell f.labelColumn).key = .text l) ↔
      ∃ j ∈ js, r ∈ rowsFor j ∧ r.cell f.labelColumn = .text l := by
  rw [List.mem_filter, hmem, decide_eq_true_iff]
  constructor
  · rintro ⟨⟨j, hj, hr, m, -, hm⟩, hkey⟩
    rw [hm] at hkey
    injection hkey with hkey
    exact ⟨j, hj, hr, hkey ▸ hm⟩
  · rintro ⟨j, hj, hr, hl⟩
    exact ⟨⟨j, hj, hr, l, hP, hl⟩, by rw [hl]; rfl⟩

/-- A group has the rows with one label. -/
theorem exists_label_of_group {g : List Joined}
    (hg : g ∈ groupsBy (fun r => (r.cell f.labelColumn).key) kept) :
    ∃ l, P l ∧ g ≠ [] ∧
      ∀ r, r ∈ g ↔ ∃ j ∈ js, r ∈ rowsFor j ∧ r.cell f.labelColumn = .text l := by
  obtain ⟨x, hx, rfl⟩ := mem_groupsBy.mp hg
  obtain ⟨j, hj, hr, l, hP, hl⟩ := (hmem x).mp hx
  have hkey : (x.cell f.labelColumn).key = .text l := by rw [hl]; rfl
  simp only [hkey]
  refine ⟨l, hP, ?_, fun r => mem_filter_key hmem hP⟩
  exact List.ne_nil_of_mem ((mem_filter_key hmem hP).mpr ⟨j, hj, hr, hl⟩)

/-- Every label that occurs and is kept has a group. -/
theorem exists_group_of_label {l : String} (hP : P l) {j : Row} {x : Joined} (hj : j ∈ js)
    (hx : x ∈ rowsFor j) (hl : x.cell f.labelColumn = .text l) :
    ∃ g ∈ groupsBy (fun r => (r.cell f.labelColumn).key) kept,
      g ≠ [] ∧ ∀ r, r ∈ g ↔ ∃ j ∈ js, r ∈ rowsFor j ∧ r.cell f.labelColumn = .text l := by
  have hkey : (x.cell f.labelColumn).key = .text l := by rw [hl]; rfl
  refine ⟨_, mem_groupsBy.mpr ⟨x, (hmem x).mpr ⟨j, hj, hx, l, hP, hl⟩, rfl⟩, ?_⟩
  simp only [hkey]
  exact ⟨List.ne_nil_of_mem ((mem_filter_key hmem hP).mpr ⟨j, hj, hx, hl⟩), fun r =>
    mem_filter_key hmem hP⟩

end groups

/-- What a group with the rows of one label shows of it. -/
theorem value_labelColumn {l : String} {g : List Joined} (hne : g ≠ [])
    (hg : ∀ r ∈ g, r.cell f.labelColumn = .text l) :
    (Expression.column f.labelColumn).value g = .text l := by
  obtain ⟨r, rest, rfl⟩ := List.exists_cons_of_ne_nil hne
  exact hg r (by simp)

/-- The facet of the rows with one label has the number of postings that carry it, however many
rows a posting has among them. -/
theorem Conforms.facetOf_eq (hdb : db.Conforms) {others : List Field} {js : List Row}
    (hjs : ∀ j ∈ js, j ∈ db.postings) (hn : js.Nodup) {rowsFor : Row → List Joined}
    (hlabelled : ∀ j, LabelRows db f others j (rowsFor j)) {l : String} {g : List Joined}
    (hg : ∀ r, r ∈ g ↔ ∃ j ∈ js, r ∈ rowsFor j ∧ r.cell f.labelColumn = .text l)
    (hne : g ≠ []) :
    f.facetOf g = ⟨l, (db.carrying f l js).length⟩ := by
  have hlabel := value_labelColumn hne fun r hr => by
    obtain ⟨-, -, -, hl⟩ := (hg r).mp hr
    exact hl
  have hids : ((db.carrying f l js).map fun j => (Cell.int (idOf j)).key).Nodup := by
    refine List.Nodup.map_on (fun i hi j hj he => ?_) (hn.filter _)
    have hi := hjs i (List.mem_filter.mp hi).1
    have hj := hjs j (List.mem_filter.mp hj).1
    exact hdb.postings.eq_of_idOf_eq hi hj (Cell.key_int_inj he)
  have hcell : ∀ j ∈ js, ∀ r ∈ rowsFor j, r.cell postingId = .int (idOf j) := by
    intro j hj r hr
    rw [postingId, ((hlabelled j).shows r hr).cell, hdb.cell_id (hjs j hj)]
  have hcount : Carriers.countDistinct (g.map (·.cell postingId)) =
      (db.carrying f l js).length := by
    rw [Carriers.countDistinct, ← List.length_map (fun j => (Cell.int (idOf j)).key)]
    refine length_distinct_eq hids fun k => ?_
    simp only [List.mem_filter, List.mem_map, carrying, decide_eq_true_iff]
    constructor
    · rintro ⟨⟨_, ⟨r, hr, rfl⟩, rfl⟩, -⟩
      obtain ⟨j, hj, hrj, hl⟩ := (hg r).mp hr
      exact ⟨j, ⟨hj, ((hlabelled j).carries l).mp ⟨r, hrj, hl⟩⟩, by rw [hcell j hj r hrj]⟩
    · rintro ⟨j, ⟨hj, hcarries⟩, rfl⟩
      obtain ⟨r, hr, hl⟩ := ((hlabelled j).carries l).mpr hcarries
      exact ⟨⟨_, ⟨r, (hg r).mpr ⟨j, hj, hr, hl⟩, rfl⟩, by rw [hcell j hj r hr]⟩, by simp [Cell.key]⟩
  rw [Field.facetOf, hlabel, hcount]
  rfl

/-- The values by which groups are ordered are the number and the label of their facets. -/
theorem order_labels {name : String} (hname : name ≠ "count") (others : List Field)
    (condition : Term) (window : Window) (g : List Joined) :
    (Statement.labels f name others condition window).order.map
        (fun t => t.key.value (Statement.labels f name others condition window).outputs g) =
      [.int (f.facetOf g).count, (Expression.column f.labelColumn).value g] := by
  have hcount : outputValue (Statement.labels f name others condition window).outputs "count" g =
      .int (f.facetOf g).count := by
    rw [outputValue, Statement.labels, List.find?_cons_of_neg (by simpa using hname)]
    rfl
  exact congrArg (fun c => [c, (Expression.column f.labelColumn).value g]) hcount

/-- Groups are ordered by number, the highest first, and those of equal number by label. -/
theorem before_labels {name : String} (hname : name ≠ "count") {others : List Field}
    {condition : Term} {window : Window} {g h : List Joined} {l m : String}
    (hg : (Expression.column f.labelColumn).value g = .text l)
    (hh : (Expression.column f.labelColumn).value h = .text m) :
    (Statement.labels f name others condition window).before g h = true ↔
      (f.facetOf h).count < (f.facetOf g).count ∨
        (f.facetOf h).count = (f.facetOf g).count ∧ l ≤ m := by
  rw [Statement.before, order_labels hname, order_labels hname, hg, hh]
  show inOrder [.descending, .ascending] _ _ = true ↔ _
  rw [inOrder_cons, inOrder_cons]
  simp only [Direction.le, Cell.le_int, Cell.le_text, inOrder, Bool.or_true, Bool.and_true,
    Bool.and_eq_true, Bool.or_eq_true, Bool.not_eq_true', decide_eq_true_iff,
    decide_eq_false_iff_not]
  constructor
  · rintro ⟨hle, hge | hlm⟩
    · exact Or.inl (by omega)
    · rcases hle.lt_or_eq with hlt | heq
      · exact Or.inl hlt
      · exact Or.inr ⟨heq, hlm⟩
  · rintro (hlt | ⟨heq, hlm⟩)
    · exact ⟨hlt.le, Or.inl (by omega)⟩
    · exact ⟨heq.le, Or.inr hlm⟩

section listing

variable {P : String → Prop} {others : List Field} {js : List Row} {rowsFor : Row → List Joined}
  {kept : List Joined} {gs : List (List Joined)} (hdb : db.Conforms)
  (hjs : ∀ j ∈ js, j ∈ db.postings) (hn : js.Nodup)
  (hlabelled : ∀ j, LabelRows db f others j (rowsFor j))
  (hmem : ∀ r, r ∈ kept ↔ ∃ j ∈ js, r ∈ rowsFor j ∧ ∃ l, P l ∧ r.cell f.labelColumn = .text l)
  (hperm : gs.Perm (groupsBy (fun r => (r.cell f.labelColumn).key) kept))
include hdb hjs hn hlabelled hmem hperm

/-- The facets of all groups are the labels that are carried and kept, with the numbers of postings
that carry them. -/
theorem mem_map_facetOf (x : Facet) :
    x ∈ gs.map f.facetOf ↔
      P x.label ∧ 0 < x.count ∧ x.count = (db.carrying f x.label js).length := by
  constructor
  · intro hx
    obtain ⟨g, hg, rfl⟩ := List.mem_map.mp hx
    obtain ⟨l, hP, hne, hrows⟩ := exists_label_of_group hmem (hperm.mem_iff.mp hg)
    obtain ⟨r, hr⟩ := List.exists_mem_of_ne_nil g hne
    obtain ⟨j, hj, hrj, hl⟩ := (hrows r).mp hr
    have hcarried : j ∈ db.carrying f l js :=
      List.mem_filter.mpr ⟨hj, decide_eq_true (((hlabelled j).carries l).mp ⟨r, hrj, hl⟩)⟩
    rw [hdb.facetOf_eq hjs hn hlabelled hrows hne]
    exact ⟨hP, Int.natCast_pos.mpr (List.length_pos_of_mem hcarried), rfl⟩
  · rintro ⟨hP, hpos, hcount⟩
    rw [hcount] at hpos
    obtain ⟨j, hcarried⟩ := List.exists_mem_of_length_pos (by exact_mod_cast hpos)
    obtain ⟨hj, hcarries⟩ := List.mem_filter.mp hcarried
    obtain ⟨r, hr, hl⟩ := ((hlabelled j).carries x.label).mpr (of_decide_eq_true hcarries)
    obtain ⟨g, hg, hne, hrows⟩ := exists_group_of_label hmem hP hj hr hl
    refine List.mem_map.mpr ⟨g, hperm.mem_iff.mpr hg, ?_⟩
    rw [hdb.facetOf_eq hjs hn hlabelled hrows hne, ← hcount]

/-- Groups in the order of the statement have their facets in that order. -/
theorem pairwise_map_facetOf {name : String} (hname : name ≠ "count") {condition : Term}
    {window : Window} (hpairs : gs.Pairwise fun g h =>
      (Statement.labels f name others condition window).before g h = true) :
    (gs.map f.facetOf).Pairwise fun x y =>
      y.count < x.count ∨ y.count = x.count ∧ x.label < y.label := by
  have hkeys : gs.Pairwise fun g h => ∀ x ∈ g, ∀ y ∈ h,
      (x.cell f.labelColumn).key ≠ (y.cell f.labelColumn).key :=
    (hperm.pairwise_iff fun h x hx y hy he => h y hy x hx he.symm).mpr pairwise_groupsBy
  rw [List.pairwise_map]
  refine (hpairs.and hkeys).imp_of_mem fun {g h} hg hh hgh => ?_
  obtain ⟨l, -, hgne, hgrows⟩ := exists_label_of_group hmem (hperm.mem_iff.mp hg)
  obtain ⟨m, -, hhne, hhrows⟩ := exists_label_of_group hmem (hperm.mem_iff.mp hh)
  have hl : ∀ r ∈ g, r.cell f.labelColumn = .text l := fun r hr => by
    obtain ⟨-, -, -, hl⟩ := (hgrows r).mp hr
    exact hl
  have hm : ∀ r ∈ h, r.cell f.labelColumn = .text m := fun r hr => by
    obtain ⟨-, -, -, hm⟩ := (hhrows r).mp hr
    exact hm
  have hne : l ≠ m := by
    rintro rfl
    obtain ⟨r, hr⟩ := List.exists_mem_of_ne_nil g hgne
    obtain ⟨s, hs⟩ := List.exists_mem_of_ne_nil h hhne
    exact hgh.2 r hr s hs (by rw [hl r hr, hm s hs])
  have horder := (before_labels hname (value_labelColumn hgne hl) (value_labelColumn hhne hm)).mp
    hgh.1
  have hglabel : (f.facetOf g).label = l := by
    rw [hdb.facetOf_eq hjs hn hlabelled hgrows hgne]
  have hhlabel : (f.facetOf h).label = m := by
    rw [hdb.facetOf_eq hjs hn hlabelled hhrows hhne]
  rw [hglabel, hhlabel]
  exact horder.imp_right fun ⟨hcount, hle⟩ =>
    ⟨hcount, String.not_le.mp fun hge => hne (String.le_antisymm hle hge)⟩

end listing

/-- The facets of a field under the criteria on all other fields: each label with the number of
postings that carry it, unless there is none, the most frequent labels first. -/
theorem Conforms.facets_eq_ok (hdb : db.Conforms) (hf : f.entry.filterable = true)
    (hc : c.Normal) (hfields : c.Filterable) (hn : c.Countable) (search : String)
    (policy : Policy) :
    ∃ fs, (Store.readable db).facets f.key c search policy = .ok fs ∧
      (∀ x, x ∈ fs ↔ 0 < x.count ∧ x.count =
        (db.carrying f x.label (db.matching (c.withoutField f.key) search policy)).length) ∧
      fs.Pairwise fun x y => y.count < x.count ∨ y.count = x.count ∧ x.label < y.label := by
  have hcompile : Statement.facets f.key c search policy =
      .ok (Statement.facetsUnder f ((c.withoutField f.key).predicate search policy)) := by
    simp only [Statement.facets, Predicate.compile_exclude hf,
      Predicate.compile_eq_ok (hfields.withoutField f.key), Field.resolve_key, Except.map]
  obtain ⟨kept, rowsFor, hkept, hlabelled, hmem⟩ :=
    hdb.kept_facetsUnder (hc.withoutField f.key) search policy f
  have hlabel : ∀ r, r ∈ kept ↔
      ∃ j ∈ db.matching (c.withoutField f.key) search policy, r ∈ rowsFor j ∧
        ∃ l, True ∧ r.cell f.labelColumn = .text l := by
    simpa only [true_and] using hmem
  have hrun := Store.run_readable hkept
    (fits_facetsUnder ((hn.withoutField f.key).fits_predicate search policy))
  have hjs : ∀ j ∈ db.matching (c.withoutField f.key) search policy, j ∈ db.postings :=
    fun j hj => (List.mem_filter.mp hj).1
  have hnodup : (db.matching (c.withoutField f.key) search policy).Nodup :=
    hdb.postings.nodup_rows.filter _
  refine ⟨((Statement.facetsUnder f ((c.withoutField f.key).predicate search policy)).lines
    kept).map f.facetOf, ?_, fun x => ?_,
    pairwise_map_facetOf hdb hjs hnodup hlabelled hlabel (Statement.lines_perm _ kept) (by decide)
      (Statement.lines_pairwise _ kept)⟩
  · simp only [Store.facets, hcompile, Except.mapError, hrun, bind, Except.bind]
    exact facetsIn_eq_ok f _ _
  · rw [mem_map_facetOf hdb hjs hnodup hlabelled hlabel (Statement.lines_perm _ kept)]
    exact and_iff_right trivial

/-! ### The facets of a field -/

/-- A posting has a label in a field. -/
def HasLabel (db : Database) (f : Field) (j : Row) : Prop := ∃ x ∈ db.labels f j, x.isNull = false

instance (db : Database) (f : Field) (j : Row) : Decidable (db.HasLabel f j) :=
  inferInstanceAs (Decidable (∃ x ∈ _, _))

theorem Conforms.hasLabel_iff (hdb : db.Conforms) (j : Row) :
    db.HasLabel f j ↔ ∃ l, db.Carries f j l := by
  constructor
  · rintro ⟨x, hx, hnull⟩
    rcases hdb.isLabel_of_mem_labels hx with rfl | ⟨l, rfl⟩
    · simp [Cell.isNull, Cell.key] at hnull
    · exact ⟨l, hx⟩
  · rintro ⟨l, hl⟩
    exact ⟨.text l, hl, rfl⟩

/-- If no posting has two labels then the numbers of postings by label add up to the number of
those that have one. -/
theorem Conforms.sum_carrying (hdb : db.Conforms) (hf : f.entry.shape = .lookup) {js : List Row}
    {labels : List String} (hn : labels.Nodup)
    (hall : ∀ j ∈ js, ∀ l, db.Carries f j l → l ∈ labels) :
    (labels.map fun l => (db.carrying f l js).length).sum =
      (js.filter fun j => db.HasLabel f j).length := by
  have hone : ∀ j ∈ js, ∀ l m, decide (db.Carries f j l) = true →
      decide (db.Carries f j m) = true → l = m := by
    intro j _ l m hl hm
    have hl := (mem_labels_lookup hf hdb j l).mp (of_decide_eq_true hl)
    have hm := (mem_labels_lookup hf hdb j m).mp (of_decide_eq_true hm)
    rw [hl] at hm
    injection hm
  refine (sum_length_filter hn hone).trans (congrArg List.length (List.filter_congr fun j hj => ?_))
  rw [Bool.eq_iff_iff, List.any_eq_true, decide_eq_true_iff, hdb.hasLabel_iff]
  constructor
  · rintro ⟨l, -, hl⟩
    exact ⟨l, of_decide_eq_true hl⟩
  · rintro ⟨l, hl⟩
    exact ⟨l, hall j hj l hl, decide_eq_true hl⟩

/-- The facets of a field are the labels that the postings carry which match without the field's
own selection, each once and with the number of these postings, the most frequent first and equal
numbers by label; if a posting has at most one label they add up to the postings with a label. -/
theorem facets_count_carriers (hdb : db.Conforms) (hf : f.entry.filterable = true)
    (hc : c.Normal) (hfields : c.Filterable) (hn : c.Countable) (search : String)
    (policy : Policy) :
    ∃ fs, (Store.readable db).facets f.key c search policy = .ok fs ∧
      (∀ l, (∃ x ∈ fs, x.label = l) ↔
        ∃ j ∈ db.matching (c.withoutField f.key) search policy, db.Carries f j l) ∧
      (∀ x ∈ fs, x.count = ((db.matching (c.withoutField f.key) search policy).filter
        fun j => db.Carries f j x.label).length) ∧
      (fs.map (·.label)).Nodup ∧
      fs.Pairwise (fun x y => y.count < x.count ∨ y.count = x.count ∧ x.label < y.label) ∧
      (f.entry.shape = .lookup → (fs.map (·.count)).sum =
        ((db.matching (c.withoutField f.key) search policy).filter
          fun j => db.HasLabel f j).length) := by
  obtain ⟨fs, hfs, hmem, hpairs⟩ := hdb.facets_eq_ok hf hc hfields hn search policy
  generalize db.matching (c.withoutField f.key) search policy = js at hmem ⊢
  have hcount : ∀ x ∈ fs, x.count = (db.carrying f x.label js).length := fun x hx =>
    ((hmem x).mp hx).2
  have hlabels : ∀ l, (∃ x ∈ fs, x.label = l) ↔ ∃ j ∈ js, db.Carries f j l := by
    intro l
    constructor
    · rintro ⟨x, hx, rfl⟩
      obtain ⟨hpos, he⟩ := (hmem x).mp hx
      rw [he] at hpos
      obtain ⟨j, hj⟩ := List.exists_mem_of_length_pos (Int.natCast_pos.mp hpos)
      obtain ⟨hj, hl⟩ := List.mem_filter.mp hj
      exact ⟨j, hj, of_decide_eq_true hl⟩
    · rintro ⟨j, hj, hl⟩
      have hcarried : j ∈ db.carrying f l js := List.mem_filter.mpr ⟨hj, decide_eq_true hl⟩
      exact ⟨⟨l, (db.carrying f l js).length⟩,
        (hmem _).mpr ⟨Int.natCast_pos.mpr (List.length_pos_of_mem hcarried), rfl⟩, rfl⟩
  have hnodup : (fs.map (·.label)).Nodup := by
    rw [List.nodup_iff_pairwise_ne, List.pairwise_map]
    refine hpairs.imp_of_mem fun {x y} hx hy horder he => ?_
    have hsame : y.count = x.count := by rw [hcount x hx, hcount y hy, he]
    rcases horder with hlt | ⟨-, hlt⟩
    · omega
    · exact String.lt_irrefl _ (he ▸ hlt)
  refine ⟨fs, hfs, hlabels, hcount, hnodup, hpairs, fun hshape => ?_⟩
  have hall : ∀ j ∈ js, ∀ l, db.Carries f j l → l ∈ fs.map (·.label) := fun j hj l hl =>
    List.mem_map.mpr ((hlabels l).mpr ⟨j, hj, hl⟩)
  rw [← hdb.sum_carrying hshape hnodup hall, Nat.cast_list_sum, List.map_map, List.map_map,
    List.map_congr_left hcount]
  rfl

/-- All three jobs of the small dataset ask for one skill, which one of them names twice. -/
theorem facets_of_sample :
    ∃ fs, (Store.readable Dataset.sample.database).facets "hard_skills" .sample "" .all = .ok fs ∧
      ∃ x ∈ fs, x.label = "welding" ∧ x.count = 3 := by
  have hcarried : ∃ j ∈ Dataset.sample.database.matching
      (Criteria.sample.withoutField "hard_skills") "" .all,
        Dataset.sample.database.Carries .hardSkills j "welding" := by decide +kernel
  have hlength : ((Dataset.sample.database.matching
      (Criteria.sample.withoutField "hard_skills") "" .all).filter fun j =>
        Dataset.sample.database.Carries .hardSkills j "welding").length = 3 := by decide +kernel
  obtain ⟨fs, hfs, hlabels, hcounts, -⟩ := facets_count_carriers (f := .hardSkills)
    Dataset.storable_sample.conforms rfl Criteria.normal_sample Criteria.filterable_sample
    Criteria.countable_sample "" .all
  obtain ⟨x, hx, hlabel⟩ := (hlabels "welding").mpr hcarried
  refine ⟨fs, hfs, x, hx, hlabel, ?_⟩
  rw [hcounts x hx, hlabel]
  exact congrArg Int.ofNat hlength

end Database

end JobSearch
