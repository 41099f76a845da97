import JobSearch.Proofs.Browse.Ranking
import Mathlib.Data.Bool.AllAny

/-!
# Suggestions for a label itself

A label that is typed in, as it is or in lower case, should be suggested if no limit is less than
the number of labels. But the term is put into lower case in any script and stored text only in `A`
to `Z`, so a label is suggested for itself exactly if what is read of it has no other capitals
(`Database.own_label_suggested`): a label with an accented capital never is
(`Database.accented_label_left_out`).

## Main definitions

* `Database.allLabels` — the labels of all fields.
-/

namespace JobSearch

namespace Database

variable {db : Database} {q : SuggestionRequest} {f : Field} {l : String}

/-- The labels of all fields that postings carry, each with its field. -/
def allLabels (db : Database) : List (Field × String) :=
  Field.all.flatMap fun f => (db.carriedLabels f).map fun l => (f, l)

theorem Conforms.mem_allLabels (hdb : db.Conforms) {p : Field × String} :
    p ∈ db.allLabels ↔ 0 < db.frequency p.1 p.2 := by
  simp only [allLabels, List.mem_flatMap, List.mem_map, hdb.mem_carriedLabels]
  constructor
  · rintro ⟨f, -, l, hpos, rfl⟩
    exact hpos
  · intro hpos
    exact ⟨p.1, p.1.mem_all, p.2, hpos, rfl⟩

/-- Different labels among which one is missing are fewer than all labels. -/
theorem Conforms.length_lt_allLabels (hdb : db.Conforms) {ps : List (Field × String)}
    (hn : ps.Nodup) (hps : ∀ p ∈ ps, 0 < db.frequency p.1 p.2) {p : Field × String}
    (hp : 0 < db.frequency p.1 p.2) (hmissing : p ∉ ps) : ps.length < db.allLabels.length := by
  have hall : ∀ r ∈ p :: ps, r ∈ db.allLabels := by
    intro r hr
    rw [hdb.mem_allLabels]
    rcases List.mem_cons.mp hr with rfl | hr
    · exact hp
    · exact hps r hr
  exact (List.nodup_cons.mpr ⟨hmissing, hn⟩).length_le_of_subset hall

theorem Conforms.length_foundAhead_lt (hdb : db.Conforms) (hpos : 0 < db.frequency f l)
    (term : String) : (db.foundAhead f term l).length < db.allLabels.length := by
  rw [← List.length_map (fun m => (f, m))]
  refine hdb.length_lt_allLabels ((db.nodup_foundAhead f term l).map fun _ _ he =>
    (Prod.mk.inj he).2) (fun p hp => ?_) (p := (f, l)) hpos fun hself => ?_
  · obtain ⟨m, hm, rfl⟩ := List.mem_map.mp hp
    exact (hdb.mem_foundAhead.mp hm).1
  · obtain ⟨m, hm, he⟩ := List.mem_map.mp hself
    obtain rfl := (Prod.mk.inj he).2
    obtain ⟨-, -, hlt | ⟨-, hlt⟩⟩ := hdb.mem_foundAhead.mp hm
    · exact Nat.lt_irrefl _ hlt
    · exact String.lt_irrefl _ hlt

/-- If no limit is less than the number of labels, all labels are suggested that a search finds. -/
theorem Ranked.mem_iff {found : List Suggestion} (h : db.Ranked q found) (hdb : db.Conforms)
    (hperField : db.allLabels.length ≤ q.limitPerField) (hlimit : db.allLabels.length ≤ q.limit)
    (x : Suggestion) : x ∈ found ↔ db.Offered q x := by
  refine ⟨h.sound x, fun hx => ?_⟩
  by_contra hmissing
  rcases h.complete x hx with hin | hcut | ⟨hlen, -⟩
  · exact hmissing hin
  · have hahead := hdb.length_foundAhead_lt hx.carried q.needle
    omega
  · have hfew := hdb.length_lt_allLabels (p := (x.field, x.value)) h.distinct (fun p hp => ?_)
      hx.carried fun hself => ?_
    · rw [List.length_map] at hfew
      omega
    · obtain ⟨y, hy, rfl⟩ := List.mem_map.mp hp
      exact (h.sound y hy).carried
    · obtain ⟨y, hy, he⟩ := List.mem_map.mp hself
      obtain ⟨hfield, hvalue⟩ := Prod.mk.inj he
      have hcount : y.count = x.count := by
        rw [(h.sound y hy).count, hx.count, hfield, hvalue]
      obtain ⟨yv, yc, yf⟩ := y
      obtain ⟨xv, xc, xf⟩ := x
      subst hfield hvalue hcount
      exact hmissing hy

/-- A term that is a label, as it is or in lower case, is looked for in lower case and trimmed. -/
theorem needle_of_label (hterm : q.term = l ∨ q.term = Text.lower l) :
    q.needle = Text.lower (Text.trim l) := by
  rw [SuggestionRequest.needle]
  rcases hterm with h | h
  · rw [h]
  · rw [h, Text.trim_lower, Text.lower_lower]

/-- A label that some posting carries and that is not selected is suggested for itself, if no limit
is less than the number of labels, exactly if a search for it finds it. -/
theorem Conforms.mem_suggest_label (hdb : db.Conforms) (hq : q.Proper)
    (hfits : q.limitPerField < 2 ^ 63) (hperField : db.allLabels.length ≤ q.limitPerField)
    (hlimit : db.allLabels.length ≤ q.limit) (hterm : q.term = l ∨ q.term = Text.lower l)
    (hfield : f.key ∈ q.fields) (hcarried : ∃ j ∈ db.postings, db.Carries f j l)
    (hfree : l ∉ q.criteria.labelsFor f.key) :
    ∃ found, (Store.readable db).suggest q = .ok found ∧
      ((∃ x ∈ found, x.field = f ∧ x.value = l) ↔
        ∀ c ∈ Text.beforeZero l.toList, Text.PlainCase c) := by
  obtain ⟨found, hfound, hranked⟩ := hdb.exists_ranked hq fun _ => hfits
  refine ⟨found, hfound, ?_⟩
  rw [← Text.finds_lower_trim_iff, ← needle_of_label hterm]
  constructor
  · rintro ⟨x, hx, -, rfl⟩
    exact (hranked.sound x hx).contains
  · intro hfinds
    refine ⟨⟨l, db.frequency f l, f⟩, ?_, rfl, rfl⟩
    rw [hranked.mem_iff hdb hperField hlimit]
    exact ⟨hfield, hfinds, rfl, frequency_pos.mpr hcarried, hfree⟩

/-- A service that answers from a dataset suggests a label for itself, as it is or in lower case,
exactly if what is read of the label has no capitals but `A` to `Z`. Some posting carries the label,
it is not selected, and no limit is less than the number of labels. -/
theorem own_label_suggested (hdb : db.Conforms) {s : Service} (hs : s.AnswersFrom (.readable db))
    (hq : q.Proper) (hfits : q.limitPerField < 2 ^ 63)
    (hperField : db.allLabels.length ≤ q.limitPerField) (hlimit : db.allLabels.length ≤ q.limit)
    (hterm : q.term = l ∨ q.term = Text.lower l) (hfield : f.key ∈ q.fields)
    (hcarried : ∃ j ∈ db.postings, db.Carries f j l) (hfree : l ∉ q.criteria.labelsFor f.key) :
    ∃ found, (s.suggest q).1 = .ok found ∧
      ((∃ x ∈ found, x.field = f ∧ x.value = l) ↔
        ∀ c ∈ Text.beforeZero l.toList, Text.PlainCase c) := by
  rw [suggest_eq hs hq.present]
  exact hdb.mem_suggest_label hq hfits hperField hlimit hterm hfield hcarried hfree

end Database

/-- A job with three skills in different scripts. -/
def Dataset.scripts : Dataset where
  jobs := [welder 1 "Cook" none [some "Ragoût Fin", some "Éclair", some "щи"]]
  conversion := ⟨false, false⟩
  dropped := []

theorem Dataset.storable_scripts : scripts.Storable where
  ids := by decide
  nodup := by decide
  few := by decide
  whole := rfl

namespace Database

/-- A label with a small letter outside `A` to `Z` and capitals among them. -/
theorem own_label_suggested_in_scripts :
    ∃ found, ((Service.serving Dataset.scripts.database).suggest (.skills "Ragoût Fin" 5)).1 =
        .ok found ∧ ∃ x ∈ found, x.field = .hardSkills ∧ x.value = "Ragoût Fin" := by
  have hplain : ∀ c ∈ Text.beforeZero "Ragoût Fin".toList,
      c.toNat ≠ 0x3A3 ∧ Text.lowerChar c = [Text.lowerAsciiChar c] :=
    List.all_iff_forall_prop.mp (by decide +kernel)
  obtain ⟨found, hfound, hall⟩ := own_label_suggested (f := .hardSkills) (l := "Ragoût Fin")
    Dataset.storable_scripts.conforms (Service.answersFrom_serving _)
    (SuggestionRequest.proper_skills (show Text.trim "Ragoût Fin" ≠ "" by decide +kernel)
      (show (0 : Int) ≤ 5 by decide)) (by decide) (by decide +kernel) (by decide +kernel)
    (Or.inl rfl) (by decide) (by decide +kernel) (by decide)
  exact ⟨found, hfound, hall.mpr hplain⟩

/-- A label with an accented capital is left out, whether it is typed as it is or in lower case,
though it is carried and not selected and no limit is less than the number of labels. -/
theorem accented_label_left_out :
    (∃ j ∈ Dataset.scripts.database.postings,
      Dataset.scripts.database.Carries .hardSkills j "Éclair") ∧
    Dataset.scripts.database.allLabels.length ≤ 5 ∧
    ∀ term ∈ ["Éclair", Text.lower "Éclair"], ∃ found,
      ((Service.serving Dataset.scripts.database).suggest (.skills term 5)).1 = .ok found ∧
        ¬∃ x ∈ found, x.field = .hardSkills ∧ x.value = "Éclair" := by
  have hcarried : ∃ j ∈ Dataset.scripts.database.postings,
      Dataset.scripts.database.Carries .hardSkills j "Éclair" := by decide +kernel
  have hfew : Dataset.scripts.database.allLabels.length ≤ 5 := by decide +kernel
  refine ⟨hcarried, hfew, fun term hterm => ?_⟩
  have hpresent : ∀ t ∈ ["Éclair", Text.lower "Éclair"], Text.trim t ≠ "" := by decide +kernel
  have hcapital : ¬∀ c ∈ Text.beforeZero "Éclair".toList,
      c.toNat ≠ 0x3A3 ∧ Text.lowerChar c = [Text.lowerAsciiChar c] :=
    mt List.all_iff_forall_prop.mpr (by decide +kernel)
  have hq := SuggestionRequest.proper_skills (hpresent term hterm) (show (0 : Int) ≤ 5 by decide)
  rw [suggest_eq (Service.answersFrom_serving _) hq.present]
  obtain ⟨found, hfound, hall⟩ := Dataset.storable_scripts.conforms.mem_suggest_label
    (f := .hardSkills) hq (show (5 : Int) < 2 ^ 63 by decide) (Int.ofNat_le.mpr hfew)
    (Int.ofNat_le.mpr (hfew.trans (by decide))) (List.mem_pair.mp hterm) (List.mem_singleton_self _)
    hcarried List.not_mem_nil
  exact ⟨found, hfound, mt hall.mp hcapital⟩

end Database

end JobSearch
