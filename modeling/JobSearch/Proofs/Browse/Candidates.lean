import JobSearch.Proofs.Browse.Facets
import JobSearch.Proofs.Sequence
import JobSearch.Proofs.Sorting
import JobSearch.Proofs.Text.Finds

/-!
# Candidates for suggestions

The labels of a field that a search for a term finds are listed by number, and only the first ones
are looked at (`Database.Listing`); then the selected ones are left out
(`Database.Conforms.suggestIn_eq_ok`). So a label is suggested if few enough others stand before it
in the listing of its field (`Database.Conforms.exists_suggestIn`), even if these are selected.

## Main definitions

* `Database.carriedLabels`, `Database.frequency` — the labels of a field and how many postings carry
  each.
* `Database.foundAhead` — the labels that stand before one in the listing of its field.
* `Database.Offered`, `Database.Suggested` — what may be suggested, and what is.
-/

namespace JobSearch

open Query

/-- A facet is listed before another one: it has a higher number, or the same one and its label
comes first. -/
def Facet.Before (x y : Facet) : Prop :=
  y.count < x.count ∨ y.count = x.count ∧ x.label < y.label

instance : DecidableRel Facet.Before := fun _ _ => inferInstanceAs (Decidable (_ ∨ _))

theorem Facet.Before.asymm {x y : Facet} (h : x.Before y) : ¬y.Before x := by
  rintro (hback | ⟨hsame, hback⟩)
  · rcases h with h | ⟨h, -⟩ <;> omega
  · rcases h with h | ⟨-, h⟩
    · omega
    · exact String.lt_irrefl _ (String.lt_trans h hback)

namespace SuggestionRequest

/-- What labels have to contain: whoever asks for the labels of a field puts the term into lower
case again. -/
def sought (q : SuggestionRequest) : String := Text.lower q.needle

theorem sought_eq (q : SuggestionRequest) : q.sought = q.needle := Text.lower_lower _

/-- What is asked for can be looked up: the fields are known, and the number of labels of a field
is not negative and fits the storage if a field is looked at. -/
structure Listable (q : SuggestionRequest) : Prop where
  fields : ∀ key ∈ q.fields, ∃ f, Field.resolve key = .ok f
  perField : 0 ≤ q.limitPerField
  fits : q.fields ≠ [] → (Cell.int q.limitPerField).fits = true

theorem needle_ne {q : SuggestionRequest} (h : Text.trim q.term ≠ "") : q.needle ≠ "" := by
  intro hempty
  have hlong := Text.length_le_lower (Text.trim q.term)
  rw [show Text.lower (Text.trim q.term) = "" from hempty] at hlong
  exact h (String.toList_inj.mp (List.length_eq_zero_iff.mp (Nat.le_zero.mp hlong)))

end SuggestionRequest

namespace Database

variable {db : Database} {f : Field} {q : SuggestionRequest}

/-- The labels of a field that postings carry, each once. -/
def carriedLabels (db : Database) (f : Field) : List String :=
  distinct ((db.postings.flatMap (db.labels f)).filterMap Cell.asText?)

/-- The number of postings that carry a label. -/
def frequency (db : Database) (f : Field) (l : String) : Nat :=
  (db.carrying f l db.postings).length

/-- A label is listed before another one: more postings carry it, or as many and it comes first. -/
def ListedBefore (db : Database) (f : Field) (m l : String) : Prop :=
  db.frequency f l < db.frequency f m ∨ db.frequency f l = db.frequency f m ∧ m < l

instance (db : Database) (f : Field) (m l : String) : Decidable (db.ListedBefore f m l) :=
  inferInstanceAs (Decidable (_ ∨ _))

/-- The labels of a field that a search for a term finds and that are listed before a label. -/
def foundAhead (db : Database) (f : Field) (term l : String) : List String :=
  (db.carriedLabels f).filter fun m => Text.Finds term m ∧ db.ListedBefore f m l

/-- What may be suggested is a label of a field that is looked at; it contains the term, some
posting carries it, and it is not selected. -/
structure Offered (db : Database) (q : SuggestionRequest) (x : Suggestion) : Prop where
  field : x.field.key ∈ q.fields
  contains : Text.Finds q.needle x.value
  count : x.count = db.frequency x.field x.value
  carried : 0 < db.frequency x.field x.value
  free : x.value ∉ q.criteria.labelsFor x.field.key

/-- A suggestion is among the first labels of its field. -/
structure Suggested (db : Database) (q : SuggestionRequest) (x : Suggestion) : Prop
    extends db.Offered q x where
  few : (db.foundAhead x.field q.needle x.value).length < q.limitPerField

theorem frequency_pos {l : String} :
    0 < db.frequency f l ↔ ∃ j ∈ db.postings, db.Carries f j l := by
  rw [frequency, List.length_pos_iff_exists_mem]
  simp only [carrying, List.mem_filter, decide_eq_true_iff]

theorem Conforms.mem_carriedLabels (hdb : db.Conforms) {l : String} :
    l ∈ db.carriedLabels f ↔ 0 < db.frequency f l := by
  rw [frequency_pos, carriedLabels, mem_distinct, List.mem_filterMap]
  simp only [List.mem_flatMap]
  constructor
  · rintro ⟨x, ⟨j, hj, hx⟩, hl⟩
    rcases hdb.isLabel_of_mem_labels hx with rfl | ⟨m, rfl⟩
    · cases hl
    · obtain rfl : m = l := Option.some.inj hl
      exact ⟨j, hj, hx⟩
  · rintro ⟨j, hj, hl⟩
    exact ⟨.text l, ⟨j, hj, hl⟩, rfl⟩

theorem nodup_carriedLabels (db : Database) (f : Field) : (db.carriedLabels f).Nodup :=
  nodup_distinct _

theorem Conforms.mem_foundAhead (hdb : db.Conforms) {term l m : String} :
    m ∈ db.foundAhead f term l ↔ 0 < db.frequency f m ∧
      Text.Finds term m ∧ db.ListedBefore f m l := by
  rw [foundAhead, List.mem_filter, hdb.mem_carriedLabels, decide_eq_true_iff]

theorem nodup_foundAhead (db : Database) (f : Field) (term l : String) :
    (db.foundAhead f term l).Nodup :=
  (db.nodup_carriedLabels f).filter _

/-- The labels of a field that a search for a term finds and their numbers, listed in order. -/
structure Listing (db : Database) (f : Field) (term : String) (fs : List Facet) : Prop where
  mem : ∀ x, x ∈ fs ↔ Text.Finds term x.label ∧ 0 < x.count ∧ x.count = db.frequency f x.label
  pairwise : fs.Pairwise Facet.Before

end Database

/-! ### The listing of a field -/

/-- A stored label is looked at in lower case, but that makes no difference. -/
theorem Cell.holds_like_containing (part l : String) :
    ((Cell.text l).lowerAscii.like (Text.containing part)).holds = true ↔ Text.Finds part l := by
  have htext : (Cell.text l).lowerAscii.like (Text.containing part) =
      .ofBool (Text.likeMatches (Text.searched (Text.containing part))
        (Text.searched (Text.lowerAscii l))) := rfl
  rw [htext, Truth.holds_ofBool, Text.likeMatches_searched_iff, Text.finds_lowerAscii_iff]

namespace Database

variable {db : Database} {f : Field} {q : SuggestionRequest}

/-- The rows of the labels that contain the term are kept. -/
theorem Conforms.kept_suggestionsOf (hdb : db.Conforms) (f : Field) (term : String) (limit : Int) :
    ∃ (kept : List Joined) (rowsFor : Row → List Joined),
      (Statement.suggestionsOf f term limit).kept db = .ok kept ∧
      (∀ j, LabelRows db f [] j (rowsFor j)) ∧
      ∀ r, r ∈ kept ↔ ∃ j ∈ db.postings, r ∈ rowsFor j ∧
        ∃ l, Text.Finds (Text.lower term) l ∧ r.cell f.labelColumn = .text l := by
  obtain ⟨rowsFor, hrows, hlabelled⟩ := hdb.labelSource_rows f []
  have hanswered : Condition.Answered? db (Statement.suggestionsOf f term limit).condition := by
    rintro d hd s hs
    obtain rfl := Option.some.inj hd
    cases hs
  refine ⟨_, rowsFor, Statement.kept_eq_filter hrows hanswered, hlabelled, fun r => ?_⟩
  have hholds : Condition.holdsIn? db r (Statement.suggestionsOf f term limit).condition =
      ((r.cell f.labelColumn).lowerAscii.like (Text.containing (Text.lower term))).holds := rfl
  rw [List.mem_filter, List.mem_flatMap, hholds]
  constructor
  · rintro ⟨⟨j, hj, hr⟩, hlike⟩
    refine ⟨j, hj, hr, ?_⟩
    rcases (hlabelled j).label r hr with hnull | ⟨l, hl⟩
    · rw [hnull] at hlike
      cases hlike
    · rw [hl] at hlike
      exact ⟨l, (Cell.holds_like_containing _ l).mp hlike, hl⟩
  · rintro ⟨j, hj, hr, l, hfinds, hl⟩
    refine ⟨⟨j, hj, hr⟩, ?_⟩
    rw [hl]
    exact (Cell.holds_like_containing _ l).mpr hfinds

theorem fits_suggestionsOf (f : Field) (term : String) (limit : Int) :
    (Statement.suggestionsOf f term limit).params.all Cell.fits = (Cell.int limit).fits := by
  show [Cell.text _, Cell.int limit].all Cell.fits = _
  rw [List.all_cons, List.all_cons, List.all_nil, Bool.and_true]
  rfl

/-- Leaving out the rows of selected labels is leaving out their facets. -/
theorem facetsIn_unselected (columns selected : List String) {gs : List (List Joined)}
    (hgs : ∀ g ∈ gs, ∃ l, (Expression.column f.labelColumn).value g = .text l) :
    facetsIn
        { columns
          rows := (gs.map fun g => [(Expression.column f.labelColumn).value g,
            (Expression.countDistinct postingId).value g]).filter
              fun row => !Store.isSelected selected row } =
      .ok ((gs.map f.facetOf).filter fun x => x.label ∉ selected) := by
  have hkeep : gs.filter ((fun row => !Store.isSelected selected row) ∘ fun g =>
      [(Expression.column f.labelColumn).value g, (Expression.countDistinct postingId).value g]) =
        gs.filter ((fun x : Facet => decide (x.label ∉ selected)) ∘ f.facetOf) := by
    refine List.filter_congr fun g hg => ?_
    obtain ⟨l, hl⟩ := hgs g hg
    have hlabel : (f.facetOf g).label = l := by
      rw [Field.facetOf, hl]
      rfl
    rw [Function.comp_apply, Function.comp_apply, hl, hlabel, decide_not, ← List.contains_eq_mem]
    rfl
  rw [List.filter_map, List.filter_map, hkeep]
  exact facetsIn_eq_ok f columns _

/-- What is suggested of a field: the first ones of the labels that contain the term, the most
frequent first, without those that are selected. -/
theorem Conforms.suggestIn_eq_ok (hdb : db.Conforms) (hq : 0 ≤ q.limitPerField)
    (hfits : (Cell.int q.limitPerField).fits = true) (f : Field) :
    ∃ fs, db.Listing f q.needle fs ∧
      (Store.readable db).suggestIn q f.key =
        .ok (((fs.take q.limitPerField.toNat).filter fun x =>
          x.label ∉ q.criteria.labelsFor f.key).map fun x => ⟨x.label, x.count, f⟩) := by
  obtain ⟨kept, rowsFor, hkept, hlabelled, hmem⟩ :=
    hdb.kept_suggestionsOf f q.needle q.limitPerField
  rw [show Text.lower q.needle = q.needle from q.sought_eq] at hmem
  have hrun := Store.run_readable hkept
    ((fits_suggestionsOf f q.needle q.limitPerField).trans hfits)
  have hperm := (Statement.suggestionsOf f q.needle q.limitPerField).lines_perm kept
  have hjs : ∀ j ∈ db.postings, j ∈ db.postings := fun j hj => hj
  have hnodup := hdb.postings.nodup_rows
  refine ⟨((Statement.suggestionsOf f q.needle q.limitPerField).lines kept).map f.facetOf,
    ⟨mem_map_facetOf hdb hjs hnodup hlabelled hmem hperm,
      pairwise_map_facetOf hdb hjs hnodup hlabelled hmem hperm (by decide)
        (Statement.lines_pairwise _ kept)⟩, ?_⟩
  have hcut : ∀ gs : List (List Joined),
      (Statement.suggestionsOf f q.needle q.limitPerField).window.cut gs =
        gs.take q.limitPerField.toNat := fun gs => if_neg (Int.not_lt.mpr hq)
  have hgs : ∀ g ∈ ((Statement.suggestionsOf f q.needle q.limitPerField).lines kept).take
      q.limitPerField.toNat, ∃ l, (Expression.column f.labelColumn).value g = .text l := by
    intro g hg
    obtain ⟨l, -, hne, hrows⟩ :=
      exists_label_of_group hmem (hperm.mem_iff.mp (List.mem_of_mem_take hg))
    refine ⟨l, value_labelColumn hne fun r hr => ?_⟩
    obtain ⟨-, -, -, hl⟩ := (hrows r).mp hr
    exact hl
  have hfound := facetsIn_unselected ["value", "count"] (q.criteria.labelsFor f.key) hgs
  rw [hcut] at hrun
  rw [Store.suggestIn, Field.resolve_key, ← List.map_take]
  simp only [Except.mapError, bind, Except.bind, hrun]
  exact congrArg (fun found : Except Fault (List Facet) => found >>= fun fs =>
    .ok (fs.map fun x => (⟨x.label, x.count, f⟩ : Suggestion))) hfound

/-! ### What is suggested of a field -/

namespace Listing

variable {term : String} {fs : List Facet} (h : db.Listing f term fs)
include h

/-- The facets before a facet are those of the labels ahead of its label. -/
theorem length_filter_before (hdb : db.Conforms) {x : Facet} (hx : x ∈ fs) :
    (fs.filter (Facet.Before · x)).length = (db.foundAhead f term x.label).length := by
  have hnodup : fs.Nodup := h.pairwise.imp fun hlt he => (he ▸ hlt).asymm (he ▸ hlt)
  have hlabels : ((fs.filter (Facet.Before · x)).map (·.label)).Nodup := by
    refine (hnodup.filter _).map_on fun y hy z hz he => ?_
    obtain ⟨-, -, hycount⟩ := (h.mem y).mp (List.mem_filter.mp hy).1
    obtain ⟨-, -, hzcount⟩ := (h.mem z).mp (List.mem_filter.mp hz).1
    rw [← he, ← hycount] at hzcount
    exact congr (congrArg Facet.mk he) hzcount.symm
  obtain ⟨-, -, hcount⟩ := (h.mem x).mp hx
  have hperm := (List.perm_ext_iff_of_nodup hlabels (db.nodup_foundAhead f term x.label)).mpr ?_
  · rw [← hperm.length_eq, List.length_map]
  intro l
  rw [List.mem_map, hdb.mem_foundAhead, ListedBefore]
  constructor
  · rintro ⟨y, hy, rfl⟩
    obtain ⟨hy, hbefore⟩ := List.mem_filter.mp hy
    obtain ⟨hfinds, hpos, hycount⟩ := (h.mem y).mp hy
    have hbefore : x.count < y.count ∨ x.count = y.count ∧ y.label < x.label :=
      of_decide_eq_true hbefore
    refine ⟨by omega, hfinds, hbefore.imp (fun hlt => ?_) fun ⟨he, hlt⟩ => ⟨?_, hlt⟩⟩ <;> omega
  · rintro ⟨hpos, hfinds, hbefore⟩
    refine ⟨⟨l, db.frequency f l⟩, List.mem_filter.mpr ⟨(h.mem _).mpr ⟨hfinds, ?_, rfl⟩, ?_⟩, rfl⟩
    · exact Int.natCast_pos.mpr hpos
    · refine decide_eq_true (hbefore.imp (fun hlt => ?_) fun ⟨he, hlt⟩ => ⟨?_, hlt⟩)
      · exact hcount.trans_lt (Int.ofNat_lt.mpr hlt)
      · exact hcount.trans (congrArg Int.ofNat he)

/-- A facet is among the first ones if few enough labels are ahead of its own. -/
theorem mem_take_iff (hdb : db.Conforms) (x : Facet) (n : Nat) :
    x ∈ fs.take n ↔ x ∈ fs ∧ (db.foundAhead f term x.label).length < n := by
  by_cases hx : x ∈ fs
  · rw [mem_take_iff_of_pairwise (fun _ _ => Facet.Before.asymm) h.pairwise hx,
      h.length_filter_before hdb hx, and_iff_right hx]
  · exact iff_of_false (fun ht => hx (List.mem_of_mem_take ht)) fun ht => hx ht.1

end Listing

/-- The suggestions of one field, in the order of its listing. -/
structure SuggestedIn (db : Database) (q : SuggestionRequest) (key : String)
    (xs : List Suggestion) : Prop where
  mem : ∀ x, x ∈ xs ↔ x.field.key = key ∧ db.Suggested q x
  few : xs.length ≤ q.limitPerField
  pairwise : xs.Pairwise fun x y => y.count < x.count ∨ y.count = x.count ∧ x.value < y.value

theorem Conforms.exists_suggestIn (hdb : db.Conforms) (hq : q.Listable) {key : String}
    (hkey : key ∈ q.fields) :
    ∃ xs, (Store.readable db).suggestIn q key = .ok xs ∧ db.SuggestedIn q key xs := by
  obtain ⟨f, hf⟩ := hq.fields key hkey
  obtain rfl := Field.key_of_resolve hf
  obtain ⟨fs, hlisting, hsuggest⟩ :=
    hdb.suggestIn_eq_ok hq.perField (hq.fits (List.ne_nil_of_mem hkey)) f
  refine ⟨_, hsuggest, fun x => ?_, ?_, ?_⟩
  · simp only [List.mem_map, List.mem_filter, decide_eq_true_iff, hlisting.mem_take_iff hdb,
      hlisting.mem]
    constructor
    · rintro ⟨y, ⟨⟨⟨hfinds, hpos, hcount⟩, hfew⟩, hfree⟩, rfl⟩
      exact ⟨rfl, ⟨hkey, hfinds, hcount, Int.natCast_pos.mp (hcount ▸ hpos), hfree⟩,
        Int.lt_toNat.mp hfew⟩
    · rintro ⟨hfield, hx⟩
      obtain ⟨l, n, g⟩ := x
      obtain rfl := Field.key_inj hfield
      exact ⟨⟨l, n⟩, ⟨⟨⟨hx.contains, (Int.natCast_pos.mpr hx.carried).trans_eq hx.count.symm,
        hx.count⟩, Int.lt_toNat.mpr hx.few⟩, hx.free⟩, rfl⟩
  · have hlen := (List.filter_sublist (l := fs.take q.limitPerField.toNat)
      (p := fun x => x.label ∉ q.criteria.labelsFor f.key)).length_le
    have htake := List.length_take_le q.limitPerField.toNat fs
    have hperField := hq.perField
    rw [List.length_map]
    omega
  · exact List.pairwise_map.mpr
      ((hlisting.pairwise.sublist (List.take_sublist _ _)).sublist List.filter_sublist)

/-- What is suggested are the labels of all fields, best first. -/
theorem Conforms.exists_suggestions (hdb : db.Conforms) (hq : q.Listable) :
    ∃ xss, List.Forall₂ (db.SuggestedIn q) q.fields xss ∧ (Store.readable db).suggest q =
      .ok (firstOf q.limit (xss.flatten.mergeSort (Suggestion.before q.needle))) := by
  obtain ⟨xss, hfound, hall⟩ := exists_mapM q.fields fun key hkey => hdb.exists_suggestIn hq hkey
  refine ⟨xss, hall, ?_⟩
  rw [Store.suggest, hfound]
  rfl

theorem mem_flatten_suggestedIn {xss : List (List Suggestion)}
    (h : List.Forall₂ (db.SuggestedIn q) q.fields xss) (x : Suggestion) :
    x ∈ xss.flatten ↔ db.Suggested q x := by
  rw [List.mem_flatten]
  constructor
  · rintro ⟨xs, hxs, hx⟩
    obtain ⟨key, -, hmem⟩ := forall₂_left h xs hxs
    exact ((hmem.mem x).mp hx).2
  · intro hx
    obtain ⟨xs, hxs, hmem⟩ := forall₂_right h _ hx.field
    exact ⟨xs, hxs, (hmem.mem x).mpr ⟨rfl, hx⟩⟩

end Database

/-! ### The order of suggestions -/

namespace Suggestion

variable {needle : String} {x y : Suggestion}

theorem rank_eq_zero_iff : x.rank needle = 0 ↔ Text.lower x.value = needle := by
  rw [rank]
  split
  · next h => exact iff_of_true rfl h
  · next h =>
    refine iff_of_false ?_ h
    split <;> decide

theorem before_iff : before needle x y = true ↔
    x.rank needle < y.rank needle ∨ x.rank needle = y.rank needle ∧ y.count ≤ x.count := by
  rw [before]
  split
  · next h => simp [h]
  · next h => simp [h]

theorem before_total (needle : String) (x y : Suggestion) :
    (before needle x y || before needle y x) = true := by
  rw [Bool.or_eq_true, before_iff, before_iff]
  omega

theorem before_trans (needle : String) (x y z : Suggestion) (hxy : before needle x y = true)
    (hyz : before needle y z = true) : before needle x z = true := by
  rw [before_iff] at hxy hyz ⊢
  omega

end Suggestion

end JobSearch
