import JobSearch.Proofs.Browse.Candidates
import JobSearch.Proofs.Loading.Serving

/-!
# Exact suggestions

Only the first labels in the listing of a field are looked at, and a term is put into lower case in
any script before it is looked for, but labels only in `A` to `Z`. An exact match comes first
exactly if neither stands in its way: one is not cut off in the listing of its field, and the term
has no other capitals (`Database.exact_suggestion_first`). The usual limits do cut one off
(`Database.exact_suggestion_cut_off`).

## Main definitions

* `Database.ahead` — the labels that stand before one in the listing of its field.
* `Database.ExactMatch` — what should come first.
* `SuggestionRequest.Regular` — a request that can be answered.
-/

namespace JobSearch

open Query

namespace SuggestionRequest

/-- The term has no capitals but `A` to `Z`. -/
def PlainTerm (q : SuggestionRequest) : Prop :=
  Text.lower (Text.trim q.term) = Text.lowerAscii (Text.trim q.term)

/-- What is asked for can be listed: the term is not blank and is searched as it is, the fields are
known, and the limits are positive. -/
structure Regular (q : SuggestionRequest) : Prop where
  present : Text.trim q.term ≠ ""
  searched : Text.searched (Text.trim q.term) = Text.trim q.term
  fields : ∀ key ∈ q.fields, ∃ f, Field.resolve key = .ok f
  perField : 1 ≤ q.limitPerField
  fits : (Cell.int q.limitPerField).fits = true
  limit : 1 ≤ q.limit

end SuggestionRequest

namespace Database

variable {db : Database} {f : Field} {q : SuggestionRequest}

/-- The labels of a field that contain a term and are listed before a label. -/
def ahead (db : Database) (f : Field) (sought l : String) : List String :=
  (db.carriedLabels f).filter fun m =>
    Text.OccursIn sought (Text.searched m) ∧ db.ListedBefore f m l

/-- A label of a field that is looked at equals the term up to the case of `A` to `Z`, and it is
carried and not selected. -/
structure ExactMatch (db : Database) (q : SuggestionRequest) (f : Field) (l : String) : Prop where
  field : f.key ∈ q.fields
  carried : ∃ j ∈ db.postings, db.Carries f j l
  free : l ∉ q.criteria.labelsFor f.key
  same : Text.lowerAscii l = Text.lowerAscii (Text.trim q.term)

end Database

namespace SuggestionRequest

variable {q : SuggestionRequest}

/-- What is sought is searched to its end. -/
theorem Regular.searched_sought (h : q.Regular) : Text.searched q.sought = q.sought :=
  Text.searched_lower (Text.searched_lower h.searched)

theorem Regular.finds_iff (h : q.Regular) (l : String) :
    Text.Finds q.needle l ↔ Text.OccursIn q.sought (Text.searched l) := by
  rw [← q.sought_eq, Text.finds_iff_occursIn h.searched_sought]

theorem Regular.listable (h : q.Regular) : q.Listable :=
  ⟨h.fields, Int.le_of_lt h.perField, fun _ => h.fits⟩

theorem Regular.needle_ne (h : q.Regular) : q.needle ≠ "" := SuggestionRequest.needle_ne h.present

/-- Without other capitals labels have to contain the term itself. -/
theorem PlainTerm.sought_eq (h : q.PlainTerm) : q.sought = Text.lowerAscii (Text.trim q.term) :=
  q.sought_eq.trans h

end SuggestionRequest

/-! ### The best one first -/

theorem head?_firstOf {α : Type} {limit : Int} (h : 1 ≤ limit) (xs : List α) :
    (firstOf limit xs).head? = xs.head? := by
  rw [firstOf, if_pos (by omega), List.head?_take, if_neg (by omega)]

namespace Database

variable {db : Database} {f : Field} {l : String} {q : SuggestionRequest}

/-- Where the term is searched to its end, the labels ahead are those in which it occurs. -/
theorem foundAhead_eq (hq : q.Regular) (f : Field) (l : String) :
    db.foundAhead f q.needle l = db.ahead f q.sought l := by
  refine List.filter_congr fun m _ => ?_
  rw [decide_eq_decide, hq.finds_iff]

/-- If an exact match is suggested then the term has no capitals but `A` to `Z`. -/
theorem Suggested.plainTerm {x : Suggestion} (hx : db.Suggested q x) (hq : q.Regular)
    (h : db.ExactMatch q x.field x.value) : q.PlainTerm :=
  Text.lower_eq_lowerAscii_of_occursIn hq.searched h.same ((hq.finds_iff x.value).mp hx.contains)

/-- A suggestion fits best exactly if it is an exact match. -/
theorem Suggested.exactMatch_iff {x : Suggestion} (hx : db.Suggested q x) (hreg : q.Regular)
    (hq : q.PlainTerm) : db.ExactMatch q x.field x.value ↔ x.rank q.needle = 0 := by
  rw [Suggestion.rank_eq_zero_iff]
  constructor
  · intro h
    exact Text.lower_eq_of_lowerAscii_eq hq h.same
  · intro hlower
    have hneedle : q.needle = Text.lowerAscii (Text.trim q.term) := hq
    refine ⟨hx.field, frequency_pos.mp hx.carried, hx.free, ?_⟩
    have hoccurs := (hreg.finds_iff x.value).mp hx.contains
    rw [hq.sought_eq, ← hneedle, ← hlower] at hoccurs
    rw [Text.lowerAscii_eq_of_occursIn hoccurs, hlower, hneedle, Text.lowerAscii_lowerAscii]

/-- An exact match is suggested if few enough labels are ahead of it. -/
theorem ExactMatch.suggested (h : db.ExactMatch q f l) (hq : q.Regular) (hplain : q.PlainTerm)
    (hfew : (db.ahead f q.sought l).length < q.limitPerField) :
    db.Suggested q ⟨l, db.frequency f l, f⟩ where
  field := h.field
  contains := by
    rw [hq.finds_iff, hplain.sought_eq]
    exact Text.occursIn_of_lowerAscii_eq hq.searched h.same
  count := rfl
  carried := frequency_pos.mpr h.carried
  free := h.free
  few := by rwa [foundAhead_eq hq]

/-- The first suggestion is an exact match exactly if the term has no capitals but `A` to `Z` and
one is not cut off in the listing of its field. -/
theorem Conforms.head_suggest (hdb : db.Conforms) (hq : q.Regular) :
    ∃ found, (Store.readable db).suggest q = .ok found ∧
      ((∃ x, found.head? = some x ∧ db.ExactMatch q x.field x.value) ↔
        q.PlainTerm ∧
          ∃ f l, db.ExactMatch q f l ∧ (db.ahead f q.sought l).length < q.limitPerField) := by
  obtain ⟨xss, hall, hsuggest⟩ := hdb.exists_suggestions hq.listable
  have hmem := mem_flatten_suggestedIn hall
  generalize xss.flatten = xs at hsuggest hmem
  refine ⟨_, hsuggest, ?_⟩
  rw [head?_firstOf hq.limit]
  have hperm := List.mergeSort_perm xs (Suggestion.before q.needle)
  have hsorted := List.pairwise_mergeSort (Suggestion.before_trans q.needle)
    (Suggestion.before_total q.needle) xs
  generalize xs.mergeSort (Suggestion.before q.needle) = ys at hperm hsorted
  constructor
  · rintro ⟨x, hx, hexact⟩
    have hx := (hmem x).mp (hperm.mem_iff.mp (List.mem_of_head? hx))
    have hfew := hx.few
    rw [foundAhead_eq hq] at hfew
    exact ⟨hx.plainTerm hq hexact, x.field, x.value, hexact, hfew⟩
  · rintro ⟨hplain, f, l, hexact, hfew⟩
    have hl := hexact.suggested hq hplain hfew
    have hin := hperm.mem_iff.mpr ((hmem _).mpr hl)
    obtain ⟨x, rest, rfl⟩ := List.exists_cons_of_ne_nil (List.ne_nil_of_mem hin)
    refine ⟨x, rfl, ?_⟩
    have hx := (hmem x).mp (hperm.mem_iff.mp (by simp))
    have hbefore := Suggestion.before_iff.mp
      (le_of_mem_cons (Suggestion.before_total q.needle) hsorted hin)
    have hrank := (hl.exactMatch_iff hq hplain).mp hexact
    exact (hx.exactMatch_iff hq hplain).mpr (by omega)

/-- A service that answers from a dataset suggests an exact match first exactly if the term has no
capitals but `A` to `Z`, and there is an exact match that is not cut off: one of which fewer labels
of its field are ahead than are listed for a field, selected or not. -/
theorem exact_suggestion_first (hdb : db.Conforms) {s : Service} (hs : s.AnswersFrom (.readable db))
    (hq : q.Regular) :
    ∃ found, (s.suggest q).1 = .ok found ∧
      ((∃ x, found.head? = some x ∧ db.ExactMatch q x.field x.value) ↔
        q.PlainTerm ∧
          ∃ f l, db.ExactMatch q f l ∧ (db.ahead f q.sought l).length < q.limitPerField) := by
  obtain ⟨found, hfound, hhead⟩ := hdb.head_suggest hq
  refine ⟨found, ?_, hhead⟩
  rw [Service.suggest, if_neg (by simpa using hq.needle_ne)]
  exact (hs.ask _).1.trans hfound

/-- A skill in capitals among two fields, of which one label each is listed. -/
theorem exact_suggestion_first_in_sample :
    ∃ found x, ((Service.initial ⟨none, "", none, 30, 20, "MDL", true, none⟩
        (.opened (.readable Dataset.sample.database))).suggest
          ⟨" CUTTING ", .sample, ["city", "hard_skills"], 1, 10⟩).1 = .ok found ∧
      found.head? = some x ∧ Dataset.sample.database.ExactMatch
        ⟨" CUTTING ", .sample, ["city", "hard_skills"], 1, 10⟩ x.field x.value := by
  have hq : SuggestionRequest.Regular ⟨" CUTTING ", .sample, ["city", "hard_skills"], 1, 10⟩ := {
    present := by decide +kernel
    searched := by decide +kernel
    fields := by
      intro key hkey
      rcases List.mem_pair.mp hkey with rfl | rfl
      · exact ⟨.city, Field.resolve_key .city⟩
      · exact ⟨.hardSkills, Field.resolve_key .hardSkills⟩
    perField := by decide
    fits := by decide
    limit := by decide }
  have hexact : Dataset.sample.database.ExactMatch
      ⟨" CUTTING ", .sample, ["city", "hard_skills"], 1, 10⟩ .hardSkills "cutting" := {
    field := by decide
    carried := by decide +kernel
    free := by decide
    same := by decide +kernel }
  obtain ⟨found, hfound, hhead⟩ := exact_suggestion_first Dataset.storable_sample.conforms
    (Service.answersFrom_initial ⟨none, "", none, 30, 20, "MDL", true, none⟩ _) hq
  have hplain : SuggestionRequest.PlainTerm
      ⟨" CUTTING ", .sample, ["city", "hard_skills"], 1, 10⟩ := by
    rw [SuggestionRequest.PlainTerm]
    decide +kernel
  obtain ⟨x, hx, hsame⟩ := hhead.mpr ⟨hplain, .hardSkills, "cutting", hexact, by decide +kernel⟩
  exact ⟨found, x, hfound, hx, hsame⟩

end Database

/-- Two jobs that ask for five skills whose names contain that of a sixth one, which only one of
them asks for. -/
def Dataset.crowded : Dataset where
  jobs := [welder 1 "Developer" none [some "Core Java", some "Java 17", some "Java EE",
      some "JavaFX", some "JavaScript", some "Java"],
    welder 2 "Developer" none [some "Core Java", some "Java 17", some "Java EE", some "JavaFX",
      some "JavaScript"]]
  conversion := ⟨false, false⟩
  dropped := []

theorem Dataset.storable_crowded : crowded.Storable where
  ids := by decide
  nodup := by decide
  few := by decide
  whole := rfl

namespace Database

/-- The usual number of labels is listed for the skills, and the exact match is not among them: it
is a label that is carried and not selected, but it is not suggested first. -/
theorem exact_suggestion_cut_off :
    Dataset.crowded.database.ExactMatch ⟨"java", .empty, ["hard_skills"], 5, 1⟩ .hardSkills "Java" ∧
    ∃ found, ((Service.initial ⟨none, "", none, 30, 20, "MDL", true, none⟩
        (.opened (.readable Dataset.crowded.database))).suggest
          ⟨"java", .empty, ["hard_skills"], 5, 1⟩).1 = .ok found ∧
      ¬∃ x, found.head? = some x ∧ Dataset.crowded.database.ExactMatch
        ⟨"java", .empty, ["hard_skills"], 5, 1⟩ x.field x.value := by
  have hq : SuggestionRequest.Regular ⟨"java", .empty, ["hard_skills"], 5, 1⟩ := {
    present := by decide +kernel
    searched := by decide +kernel
    fields := by
      intro key hkey
      obtain rfl := List.mem_singleton.mp hkey
      exact ⟨.hardSkills, Field.resolve_key .hardSkills⟩
    perField := by decide
    fits := by decide
    limit := by decide }
  have hahead : ∀ l ∈ Dataset.crowded.database.carriedLabels .hardSkills,
      Text.lowerAscii l = "java" →
        5 ≤ (Dataset.crowded.database.ahead .hardSkills "java" l).length := by decide +kernel
  refine ⟨⟨by decide, by decide +kernel, by decide, by decide +kernel⟩, ?_⟩
  obtain ⟨found, hfound, hhead⟩ := Dataset.storable_crowded.conforms.head_suggest hq
  refine ⟨found, ((Service.answersFrom_initial _ _).ask _).1.trans hfound, fun hfirst => ?_⟩
  obtain ⟨-, f, l, hexact, hfew⟩ := hhead.mp hfirst
  obtain rfl : f = .hardSkills := Field.key_inj (List.mem_singleton.mp hexact.field)
  have hcarried := Dataset.storable_crowded.conforms.mem_carriedLabels.mpr
    (frequency_pos.mpr hexact.carried)
  have hmany := hahead l hcarried (hexact.same.trans (by decide +kernel))
  have hsought : SuggestionRequest.sought ⟨"java", .empty, ["hard_skills"], 5, 1⟩ = "java" := by
    decide +kernel
  rw [hsought] at hfew
  exact absurd hfew (Int.not_lt.mpr (Int.ofNat_le.mpr hmany))

end Database

end JobSearch
