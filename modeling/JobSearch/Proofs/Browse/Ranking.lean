import JobSearch.Proofs.Browse.Candidates
import JobSearch.Proofs.Loading.Serving

/-!
# The ranking of suggestions

The candidates of each field come in the order of its listing, cut off there; together they are
sorted by how well they fit and by number, and cut off again. The sort is stable, so the order is
that of fit, number, field and label (`Suggestion.Precedes`), and nothing is left out but for one of
the two cuts (`Database.Ranked`). Labels are searched as the dataset searches text, that is up to
the first zero character (`Text.Finds`), and the number of labels of a field is a number of the
dataset (`Database.suggestions_ranked`).

## Main definitions

* `SuggestionRequest.Proper` — a request that should be answered.
* `Suggestion.Precedes` — the order of suggestions.
* `Database.Ranked` — what is promised of the answer.
-/

namespace JobSearch

open Query

/-- A request that should be answered: the term is not blank, the fields are known and each is
named once, and no limit is negative. -/
structure SuggestionRequest.Proper (q : SuggestionRequest) : Prop where
  present : Text.trim q.term ≠ ""
  fields : ∀ key ∈ q.fields, ∃ f, Field.resolve key = .ok f
  distinct : q.fields.Nodup
  perField : 0 ≤ q.limitPerField
  limit : 0 ≤ q.limit

/-- Skills are asked for, at most ten of them. -/
def SuggestionRequest.skills (term : String) (limitPerField : Int) : SuggestionRequest :=
  ⟨term, .empty, ["hard_skills"], limitPerField, 10⟩

theorem SuggestionRequest.proper_skills {term : String} (h : Text.trim term ≠ "") {limit : Int}
    (hlimit : 0 ≤ limit) : (skills term limit).Proper where
  present := h
  fields := by
    intro key hkey
    obtain rfl := List.mem_singleton.mp hkey
    exact ⟨.hardSkills, Field.resolve_key .hardSkills⟩
  distinct := List.nodup_singleton _
  perField := hlimit
  limit := show (0 : Int) ≤ 10 by decide

/-- A suggestion comes before another one: it fits better, or more postings carry it, or its field
is named first, or its label comes first. -/
def Suggestion.Precedes (q : SuggestionRequest) (x y : Suggestion) : Prop :=
  x.rank q.needle < y.rank q.needle ∨ x.rank q.needle = y.rank q.needle ∧
    (y.count < x.count ∨ y.count = x.count ∧
      (q.fields.idxOf x.field.key < q.fields.idxOf y.field.key ∨
        x.field = y.field ∧ x.value < y.value))

theorem Cell.fits_int_iff {n : Int} (h : 0 ≤ n) : (Cell.int n).fits = true ↔ n < 2 ^ 63 := by
  have hlarge : (Number.twoTo 63 : Int) = 2 ^ 63 := rfl
  rw [Cell.fits, Bool.and_eq_true, decide_eq_true_iff, decide_eq_true_iff, hlarge]
  omega

namespace Database

variable {db : Database} {q : SuggestionRequest}

/-- What is promised of suggestions: they are no more than asked for, in all and of each field, and
none is there twice; each is one that may be made, and they are in order; and one that could be made
is left out only if enough labels of its field are listed before its own, selected or not, or if as
many as asked for come before it. -/
structure Ranked (db : Database) (q : SuggestionRequest) (found : List Suggestion) : Prop where
  few : found.length ≤ q.limit
  fewIn : ∀ f, ((found.filter (·.field = f)).length : Int) ≤ q.limitPerField
  distinct : (found.map fun x => (x.field, x.value)).Nodup
  sound : ∀ x ∈ found, db.Offered q x
  ordered : found.Pairwise (Suggestion.Precedes q)
  complete : ∀ x, db.Offered q x → x ∈ found ∨
    q.limitPerField ≤ (db.foundAhead x.field q.needle x.value).length ∨
      found.length = q.limit ∧ ∀ y ∈ found, y.Precedes q x

/-! ### The candidates of all fields -/

/-- The order in which candidates are collected: by field, and in a field by number and label. -/
def Collected (q : SuggestionRequest) (x y : Suggestion) : Prop :=
  q.fields.idxOf x.field.key < q.fields.idxOf y.field.key ∨
    x.field = y.field ∧ (y.count < x.count ∨ y.count = x.count ∧ x.value < y.value)

theorem pairwise_idxOf {as : List String} (h : as.Nodup) :
    as.Pairwise fun a b => as.idxOf a < as.idxOf b := by
  rw [List.pairwise_iff_getElem]
  intro i j hi hj hij
  rwa [h.idxOf_getElem, h.idxOf_getElem]

theorem pairwise_collected {xss : List (List Suggestion)}
    (h : List.Forall₂ (db.SuggestedIn q) q.fields xss) (hn : q.fields.Nodup) :
    xss.flatten.Pairwise (Collected q) := by
  rw [List.pairwise_flatten]
  constructor
  · intro xs hxs
    obtain ⟨key, -, hsuggested⟩ := forall₂_left h xs hxs
    refine hsuggested.pairwise.imp_of_mem fun hx hy horder => Or.inr ⟨?_, horder⟩
    have hx := ((hsuggested.mem _).mp hx).1
    have hy := ((hsuggested.mem _).mp hy).1
    exact Field.key_inj (hx.trans hy.symm)
  · refine pairwise_of_forall₂ h (pairwise_idxOf hn) fun k k' xs ys hlt hxs hys x hx y hy => ?_
    left
    rwa [((hxs.mem x).mp hx).1, ((hys.mem y).mp hy).1]

/-- No more candidates of a field are collected than are looked at. -/
theorem length_filter_collected {keys : List String} {xss : List (List Suggestion)}
    (h : List.Forall₂ (db.SuggestedIn q) keys xss) (hn : keys.Nodup) (hq : 0 ≤ q.limitPerField)
    (f : Field) : ((xss.flatten.filter (·.field = f)).length : Int) ≤ q.limitPerField := by
  induction h with
  | nil => exact hq
  | @cons key xs keys xss hxs hrest ih =>
    obtain ⟨hkey, hn⟩ := List.nodup_cons.mp hn
    rw [List.flatten_cons, List.filter_append]
    by_cases hf : f.key = key
    · have hnone : xss.flatten.filter (·.field = f) = [] := by
        rw [List.filter_eq_nil_iff]
        intro x hx hfield
        obtain ⟨ys, hys, hx⟩ := List.mem_flatten.mp hx
        obtain ⟨k, hk, hsuggested⟩ := forall₂_left hrest ys hys
        obtain rfl := of_decide_eq_true hfield
        rw [← hf, ((hsuggested.mem x).mp hx).1] at hkey
        exact hkey hk
      rw [hnone, List.append_nil]
      exact (Int.ofNat_le.mpr List.filter_sublist.length_le).trans hxs.few
    · have hnone : xs.filter (·.field = f) = [] := by
        rw [List.filter_eq_nil_iff]
        intro x hx hfield
        obtain rfl := of_decide_eq_true hfield
        exact hf ((hxs.mem x).mp hx).1
      rw [hnone, List.nil_append]
      exact ih hn

/-! ### The order of suggestions -/

/-- What is sorted by fit and number, and was collected before, is in the order of suggestions. -/
theorem pairwise_precedes {xs : List Suggestion} (h : xs.Pairwise (Collected q)) :
    (xs.mergeSort (Suggestion.before q.needle)).Pairwise (Suggestion.Precedes q) := by
  refine (pairwise_mergeSort_of_pairwise (Suggestion.before_trans q.needle)
    (Suggestion.before_total q.needle) h).imp fun {x y} => ?_
  rintro ⟨hxy, hback⟩
  rw [Suggestion.before_iff] at hxy hback
  rcases hxy with hfit | ⟨hfit, hcount⟩
  · exact Or.inl hfit
  · refine Or.inr ⟨hfit, ?_⟩
    rcases hcount.lt_or_eq with hcount | hcount
    · exact Or.inl hcount
    · refine Or.inr ⟨hcount, (hback (Or.inr ⟨hfit.symm, hcount.ge⟩)).imp_right ?_⟩
      rintro ⟨hfield, hlt | ⟨-, hlabel⟩⟩
      · omega
      · exact ⟨hfield, hlabel⟩

/-- Suggestions in order are different labels. -/
theorem nodup_of_precedes {xs : List Suggestion} (h : xs.Pairwise (Suggestion.Precedes q))
    (hoffered : ∀ x ∈ xs, db.Offered q x) : (xs.map fun x => (x.field, x.value)).Nodup := by
  rw [List.nodup_iff_pairwise_ne, List.pairwise_map]
  refine h.imp_of_mem fun {x y} hx hy hprecedes he => ?_
  obtain ⟨hfield, hvalue⟩ := Prod.mk.inj he
  have hcount : x.count = y.count := by
    rw [(hoffered x hx).count, (hoffered y hy).count, hfield, hvalue]
  have hrank : x.rank q.needle = y.rank q.needle := by
    rw [Suggestion.rank, Suggestion.rank, hvalue]
  rcases hprecedes with hfit | ⟨-, hlt | ⟨-, hplace | ⟨-, hlabel⟩⟩⟩
  · omega
  · omega
  · rw [hfield] at hplace
    exact Nat.lt_irrefl _ hplace
  · rw [hvalue] at hlabel
    exact String.lt_irrefl _ hlabel

/-- What is asked for is found, as promised. -/
theorem Conforms.exists_ranked (hdb : db.Conforms) (hq : q.Proper)
    (hfits : q.fields ≠ [] → q.limitPerField < 2 ^ 63) :
    ∃ found, (Store.readable db).suggest q = .ok found ∧ db.Ranked q found := by
  obtain ⟨xss, hall, hsuggest⟩ := hdb.exists_suggestions
    ⟨hq.fields, hq.perField, fun hne => (Cell.fits_int_iff hq.perField).mpr (hfits hne)⟩
  have hmem := mem_flatten_suggestedIn hall
  have hfew := length_filter_collected hall hq.distinct hq.perField
  have hperm := List.mergeSort_perm xss.flatten (Suggestion.before q.needle)
  have hordered := pairwise_precedes (pairwise_collected hall hq.distinct)
  rw [firstOf, if_pos hq.limit] at hsuggest
  generalize xss.flatten.mergeSort (Suggestion.before q.needle) = ys at *
  have hlimit := hq.limit
  have hoffered : ∀ x ∈ ys.take q.limit.toNat, db.Offered q x := fun x hx =>
    ((hmem x).mp (hperm.mem_iff.mp (List.mem_of_mem_take hx))).toOffered
  have htake := hordered.sublist (List.take_sublist q.limit.toNat ys)
  refine ⟨_, hsuggest, ?_, fun f => ?_, nodup_of_precedes htake hoffered, hoffered, htake,
    fun x hx => ?_⟩
  · have hlen := List.length_take_le q.limit.toNat ys
    omega
  · have hsub := ((List.take_sublist q.limit.toNat ys).filter (·.field = f)).length_le
    have hsame := (hperm.filter (·.field = f)).length_eq
    have hfew := hfew f
    omega
  · by_cases hcut : q.limitPerField ≤ (db.foundAhead x.field q.needle x.value).length
    · exact Or.inr (Or.inl hcut)
    have hin : x ∈ ys := hperm.mem_iff.mpr ((hmem x).mpr ⟨hx, Int.not_le.mp hcut⟩)
    refine (mem_take_or_of_pairwise hordered hin q.limit.toNat).imp_right fun hlast => Or.inr ?_
    obtain ⟨hlen, hbehind⟩ := hlast
    exact ⟨by omega, hbehind⟩

/-- A number of labels that does not fit the storage is refused, if a field is looked at. -/
theorem Conforms.suggest_overflow (hdb : db.Conforms) (hq : q.Proper) (hne : q.fields ≠ [])
    (hlarge : 2 ^ 63 ≤ q.limitPerField) :
    (Store.readable db).suggest q = .error .overflow := by
  obtain ⟨key, rest, hfields⟩ := List.exists_cons_of_ne_nil hne
  obtain ⟨f, hf⟩ := hq.fields key (by simp [hfields])
  obtain ⟨kept, -, hkept, -⟩ := hdb.kept_suggestionsOf f q.needle q.limitPerField
  have hfits :
      (Statement.suggestionsOf f q.needle q.limitPerField).params.all Cell.fits = false := by
    rw [fits_suggestionsOf, Bool.eq_false_iff, ne_eq, Cell.fits_int_iff hq.perField]
    exact Int.not_lt.mpr hlarge
  have hrun : (Store.readable db).run (Statement.suggestionsOf f q.needle q.limitPerField) =
      .error .overflow := by
    simp only [Store.run, Store.runAs, Statement.run, hkept, hfits]
    rfl
  have hfirst : (Store.readable db).suggestIn q key = .error .overflow := by
    rw [Store.suggestIn, hf]
    simp only [Except.mapError, bind, Except.bind, hrun]
  rw [Store.suggest, hfields, List.mapM_cons, hfirst]
  rfl

theorem suggest_eq {s : Service} (hs : s.AnswersFrom (.readable db))
    (h : Text.trim q.term ≠ "") : (s.suggest q).1 = (Store.readable db).suggest q := by
  rw [Service.suggest, if_neg (by simpa using SuggestionRequest.needle_ne h)]
  exact (hs.ask _).1

/-- A service that answers from a dataset finds what is asked for as promised, if the number of
labels of a field is a number of the dataset; else it refuses to look at any field. -/
theorem suggestions_ranked (hdb : db.Conforms) {s : Service} (hs : s.AnswersFrom (.readable db))
    (hq : q.Proper) :
    ((q.fields ≠ [] → q.limitPerField < 2 ^ 63) →
      ∃ found, (s.suggest q).1 = .ok found ∧ db.Ranked q found) ∧
    (q.fields ≠ [] → 2 ^ 63 ≤ q.limitPerField → (s.suggest q).1 = .error .overflow) := by
  rw [suggest_eq hs hq.present]
  exact ⟨hdb.exists_ranked hq, hdb.suggest_overflow hq⟩

/-- Two fields of the small dataset, of which two labels each are looked at. -/
theorem suggestions_ranked_in_sample :
    ∃ found, ((Service.serving Dataset.sample.database).suggest
        ⟨" L", .sample, ["city", "hard_skills"], 2, 3⟩).1 = .ok found ∧
      Dataset.sample.database.Ranked ⟨" L", .sample, ["city", "hard_skills"], 2, 3⟩ found := by
  have hq : SuggestionRequest.Proper ⟨" L", .sample, ["city", "hard_skills"], 2, 3⟩ := {
    present := by decide +kernel
    fields := by
      intro key hkey
      rcases List.mem_pair.mp hkey with rfl | rfl
      · exact ⟨.city, Field.resolve_key .city⟩
      · exact ⟨.hardSkills, Field.resolve_key .hardSkills⟩
    distinct := by decide
    perField := by decide
    limit := by decide }
  exact (suggestions_ranked Dataset.storable_sample.conforms (Service.answersFrom_serving _) hq).1
    fun _ => by decide

end Database

/-! ### Labels that are not searched literally -/

/-- A job with three skills: one has a zero character, and one is no character. -/
def Dataset.odd : Dataset where
  jobs := [welder 1 "Tester" none [some "Xa", some "x\x00a", some "\uFFFE"]]
  conversion := ⟨false, false⟩
  dropped := []

theorem Dataset.storable_odd : odd.Storable where
  ids := by decide
  nodup := by decide
  few := by decide
  whole := rfl

namespace Database

/-- All three skills can be listed, so those are suggested that a search finds. -/
theorem suggest_odd {term : String} (h : Text.trim term ≠ "") :
    ∃ found, ((Service.serving Dataset.odd.database).suggest (.skills term 5)).1 = .ok found ∧
      found.length < 10 ∧ ∀ l, (∃ x ∈ found, x.value = l) ↔
        l ∈ ["Xa", "x\x00a", "\uFFFE"] ∧ Text.Finds (Text.lower (Text.trim term)) l := by
  have hcarried : Dataset.odd.database.carriedLabels .hardSkills = ["Xa", "x\x00a", "\uFFFE"] := by
    decide +kernel
  have hdb := Dataset.storable_odd.conforms
  have hq := SuggestionRequest.proper_skills h (show (0 : Int) ≤ 5 by decide)
  obtain ⟨found, hfound, hranked⟩ :=
    hdb.exists_ranked hq fun _ => show (5 : Int) < 2 ^ 63 by decide
  rw [suggest_eq (Service.answersFrom_serving _) hq.present]
  have hfield : ∀ x ∈ found, x.field = .hardSkills := fun x hx =>
    Field.key_inj (List.mem_singleton.mp (hranked.sound x hx).field)
  have hfew : found.length < 10 := by
    have hfewIn := hranked.fewIn .hardSkills
    rw [List.filter_eq_self.mpr fun x hx => decide_eq_true (hfield x hx)] at hfewIn
    exact Int.ofNat_lt.mp (hfewIn.trans_lt (show (5 : Int) < 10 by decide))
  refine ⟨found, hfound, hfew, fun l => ?_⟩
  rw [← hcarried, hdb.mem_carriedLabels]
  constructor
  · rintro ⟨x, hx, rfl⟩
    have hoffered := hranked.sound x hx
    exact ⟨hfield x hx ▸ hoffered.carried, hoffered.contains⟩
  · rintro ⟨hpos, hfinds⟩
    have hoffered : Dataset.odd.database.Offered (.skills term 5)
        ⟨l, Dataset.odd.database.frequency .hardSkills l, .hardSkills⟩ :=
      ⟨List.mem_singleton_self _, hfinds, rfl, hpos, List.not_mem_nil⟩
    rcases hranked.complete _ hoffered with hin | hcut | ⟨hlen, -⟩
    · exact ⟨_, hin, rfl⟩
    · have hahead : (Dataset.odd.database.foundAhead .hardSkills
          (SuggestionRequest.skills term 5).needle l).length ≤ _ := List.length_filter_le _ _
      rw [hcarried] at hahead
      exact absurd (hcut.trans (Int.ofNat_le.mpr hahead)) (show ¬(5 : Int) ≤ 3 by decide)
    · have hlen : (found.length : Int) = 10 := hlen
      omega

/-- Text is not searched literally. For a zero character in the term, and for a character that is
none, a label is suggested that does not contain the term; a label with a zero character is left out
that does contain the term, though no number of labels is reached; and a large one is refused. -/
theorem suggestions_not_literal :
    (∃ found, ((Service.serving Dataset.odd.database).suggest (.skills "a\x00b" 5)).1 = .ok found ∧
      ∃ x ∈ found, ¬Text.OccursIn (Text.lower (Text.trim "a\x00b")) x.value) ∧
    (∃ found, ((Service.serving Dataset.odd.database).suggest (.skills "\uFFFD" 5)).1 = .ok found ∧
      ∃ x ∈ found, ¬Text.OccursIn (Text.lower (Text.trim "\uFFFD")) x.value) ∧
    (∃ found, ((Service.serving Dataset.odd.database).suggest (.skills "a" 5)).1 = .ok found ∧
      found.length < 10 ∧ (Dataset.odd.database.carriedLabels .hardSkills).length < 5 ∧
      ∃ l ∈ Dataset.odd.database.carriedLabels .hardSkills,
        Text.OccursIn (Text.lower (Text.trim "a")) l ∧ ∀ x ∈ found, x.value ≠ l) ∧
    ((Service.serving Dataset.odd.database).suggest (.skills "a" (2 ^ 63))).1 =
      .error .overflow := by
  refine ⟨?_, ?_, ?_, ?_⟩
  · obtain ⟨found, hfound, -, hall⟩ := suggest_odd (show Text.trim "a\x00b" ≠ "" by decide +kernel)
    obtain ⟨x, hx, hvalue⟩ := (hall "Xa").mpr (by decide +kernel)
    refine ⟨found, hfound, x, hx, ?_⟩
    rw [hvalue]
    decide +kernel
  · obtain ⟨found, hfound, -, hall⟩ := suggest_odd (show Text.trim "\uFFFD" ≠ "" by decide +kernel)
    obtain ⟨x, hx, hvalue⟩ := (hall "\uFFFE").mpr (by decide +kernel)
    refine ⟨found, hfound, x, hx, ?_⟩
    rw [hvalue]
    decide +kernel
  · obtain ⟨found, hfound, hfew, hall⟩ := suggest_odd (show Text.trim "a" ≠ "" by decide +kernel)
    refine ⟨found, hfound, hfew, by decide +kernel, "x\x00a", by decide +kernel, by decide +kernel,
      fun x hx hvalue => ?_⟩
    have hfinds := ((hall _).mp ⟨x, hx, hvalue⟩).2
    exact absurd hfinds (by decide +kernel)
  · have hq := SuggestionRequest.proper_skills (show Text.trim "a" ≠ "" by decide +kernel)
      (show (0 : Int) ≤ 2 ^ 63 by decide)
    rw [suggest_eq (Service.answersFrom_serving _) hq.present]
    exact Dataset.storable_odd.conforms.suggest_overflow hq (List.cons_ne_nil _ _) (Int.le_refl _)

end Database

end JobSearch
