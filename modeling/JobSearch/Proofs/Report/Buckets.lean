import JobSearch.Proofs.Report.Totals

/-!
# Buckets

Two of the standing reports put postings into buckets by a number and show the buckets in a fixed
order, the numbers in none of them last. The ranges of salaries are open downwards, so a posting
with less never stands behind one with more. The levels of experience are closed ranges with gaps
between them, and a number of years in a gap or below zero is in none. So of two postings the one
with fewer years does not stand behind the other one exactly if its years are in a level or those
of the other one are in none (`StandingReport.places_by_number`).

## Main definitions

* `Cell.Less` — a cell holds a smaller number than another one.
* `Query.bucketIndex` — the number of the bucket that a cell is in.
* `StandingReport.placeIn` — the place of the row in which a posting is counted.
* `StandingReport.InLevel` — a number of years is in a level below the highest.
-/

namespace JobSearch

open Query Number

theorem Number.Point.le_antisymm {p q : Point} (hpq : p.le q = true) (hqp : q.le p = true) :
    p = q := by
  cases p <;> cases q <;> simp_all [Point.le]
  exact Rat.le_antisymm hpq hqp

/-! ### Numbers in ranges -/

namespace Cell

/-- Whether a cell holds a number. -/
def isNumber (a : Cell) : Bool :=
  match a.key with
  | .number _ => true
  | _ => false

/-- A cell holds a smaller number than another one. -/
def Less (a b : Cell) : Prop := a.isNumber = true ∧ b.isNumber = true ∧ b.le a = false

instance (a b : Cell) : Decidable (a.Less b) := inferInstanceAs (Decidable (_ ∧ _ ∧ _))

/-- Whether a cell holds a number between two others. -/
def isBetween (low high : Int) (a : Cell) : Bool :=
  match a.key with
  | .number p => (Point.exactly low).le p && p.le (.exactly high)
  | _ => false

variable {a b : Cell}

theorem isNull_of_key {p : Point} (h : a.key = .number p) : a.isNull = false := by
  simp [isNull, h]

theorem exists_key_of_isNumber (h : a.isNumber = true) : ∃ p, a.key = .number p := by
  rw [isNumber] at h
  split at h
  · next p hp => exact ⟨p, hp⟩
  · cases h

theorem Less.exists_points (h : a.Less b) :
    ∃ p q, a.key = .number p ∧ b.key = .number q ∧ q.le p = false := by
  obtain ⟨ha, hb, hlt⟩ := h
  obtain ⟨p, hp⟩ := exists_key_of_isNumber ha
  obtain ⟨q, hq⟩ := exists_key_of_isNumber hb
  rw [le, hp, hq] at hlt
  exact ⟨p, q, hp, hq, hlt⟩

/-- Two numbers in ranges of which the first lies above the second are not in ascending order. -/
theorem Less.not_apart (h : a.Less b) {low high low' high' : Int} (hapart : high' < low) :
    ¬(a.isBetween low high = true ∧ b.isBetween low' high' = true) := by
  obtain ⟨p, q, hp, hq, hlt⟩ := h.exists_points
  rintro ⟨ha, hb⟩
  simp only [isBetween, hp, hq, Bool.and_eq_true] at ha hb
  have hends : (Point.exactly high').le (.exactly low) = true :=
    decide_eq_true (Rat.intCast_le_intCast.mpr hapart.le)
  have hle := Point.le_trans _ _ _ (Point.le_trans _ _ _ hb.2 hends) ha.1
  rw [hlt] at hle
  cases hle

end Cell

/-! ### The bucket of a number -/

namespace Query

/-- The least and the greatest number that pass a test, if there are some. -/
def RangeTest.bounds? : RangeTest → Option (Int × Int)
  | equals n => some (n, n)
  | between low high => some (low, high)
  | below _ => none

/-- The number of the bucket that a cell is in, which is that of no bucket if it is in none. -/
def bucketIndex (buckets : List Bucket) (a : Cell) : Nat :=
  buckets.findIdx fun b => (b.test.truth a).holds

variable {a b : Cell} {buckets : List Bucket} {otherwise : String}

theorem RangeTest.holds_below (n : Int) :
    ((below n).truth a).holds = true ↔ a.isNull = false ∧ (Cell.int n).key.le a.key = false := by
  rw [truth, Cell.holds_compare_int, Bool.not_eq_true']

/-- A test with bounds is passed by the numbers between them. -/
theorem RangeTest.holds_of_bounds? {t : RangeTest} {x : Int × Int} (h : t.bounds? = some x) :
    (t.truth a).holds = a.isBetween x.1 x.2 := by
  rw [Bool.eq_iff_iff, Cell.isBetween]
  cases t with
  | equals n =>
    obtain rfl := Option.some.inj h
    rw [truth, Cell.holds_equals_int, Cell.key_int]
    cases a.key with
    | number p =>
      simp only [Cell.Key.number.injEq, Bool.and_eq_true]
      exact ⟨fun he => he ▸ ⟨Point.le_refl _, Point.le_refl _⟩,
        fun hle => Point.le_antisymm hle.2 hle.1⟩
    | _ => simp
  | between low high =>
    obtain rfl := Option.some.inj h
    rw [truth, Truth.holds_and, Cell.atLeast, Cell.atMost, Bool.and_eq_true,
      Cell.holds_compare_int, Cell.holds_compare_int, Cell.isNull]
    cases a.key <;> simp [Cell.key_int, Cell.Key.le]
  | below n => cases h

/-- The place of the label of a bucket among the labels is the number of the bucket. -/
theorem idxOf_bucketLabel (hn : (buckets.map (·.label)).Nodup)
    (ho : otherwise ∉ buckets.map (·.label)) (a : Cell) :
    (buckets.map (·.label)).idxOf (bucketLabel buckets otherwise a) = bucketIndex buckets a := by
  rw [bucketLabel, List.find?_eq_getElem?_findIdx, ← bucketIndex]
  by_cases h : bucketIndex buckets a < buckets.length
  · rw [List.getElem?_eq_getElem h]
    have hlt : bucketIndex buckets a < (buckets.map (·.label)).length := by simpa using h
    have hlabel : (buckets.map (·.label))[bucketIndex buckets a] =
        buckets[bucketIndex buckets a].label := List.getElem_map _
    simp only [← hlabel]
    exact hn.idxOf_getElem _ hlt
  · have hlast : bucketIndex buckets a = buckets.length :=
      Nat.le_antisymm List.findIdx_le_length (Nat.not_lt.mp h)
    rw [List.getElem?_eq_none (Nat.not_lt.mp h), hlast]
    simpa using List.idxOf_eq_length ho

/-- Numbers in the same bucket have the same label. -/
theorem bucketLabel_congr (h : bucketIndex buckets a = bucketIndex buckets b) :
    bucketLabel buckets otherwise a = bucketLabel buckets otherwise b := by
  rw [bucketLabel, bucketLabel, List.find?_eq_getElem?_findIdx, List.find?_eq_getElem?_findIdx]
  rw [bucketIndex, bucketIndex] at h
  rw [h]

/-- If all ranges are open downwards then a smaller number is in no later one. -/
theorem bucketIndex_le_of_below (hbelow : ∀ b ∈ buckets, ∃ n, b.test = .below n)
    (h : a.Less b) : bucketIndex buckets a ≤ bucketIndex buckets b := by
  obtain ⟨p, q, hp, hq, hlt⟩ := h.exists_points
  have hle : p.le q = true := by simpa [hlt] using Point.le_total p q
  refine List.findIdx_le_findIdx fun x hx hpass => ?_
  obtain ⟨n, hn⟩ := hbelow x hx
  rw [hn, RangeTest.holds_below, Cell.key_int, hq] at hpass
  rw [hn, RangeTest.holds_below, Cell.key_int, hp]
  refine ⟨Cell.isNull_of_key hp, Bool.eq_false_iff.mpr fun hnp => ?_⟩
  exact Bool.eq_false_iff.mp hpass.2 (Point.le_trans _ _ _ hnp hle)

variable {ranges : List (Int × Int)}

theorem bucketIndex_eq_findIdx (hbounds : buckets.map (·.test.bounds?) = ranges.map some)
    (a : Cell) : bucketIndex buckets a = ranges.findIdx fun x => a.isBetween x.1 x.2 := by
  let inRange : Option (Int × Int) → Bool := fun o => o.any fun x => a.isBetween x.1 x.2
  have hranges : ranges.findIdx (fun x => a.isBetween x.1 x.2) =
      buckets.findIdx fun b => inRange b.test.bounds? := by
    have hsome := List.findIdx_map ranges some inRange
    rw [← hbounds, List.findIdx_map] at hsome
    exact hsome.symm
  have hpass : ∀ b ∈ buckets, (b.test.truth a).holds = inRange b.test.bounds? := by
    intro b hb
    obtain ⟨x, -, hx⟩ := List.mem_map.mp (hbounds ▸ List.mem_map.mpr ⟨b, hb, rfl⟩ :
      b.test.bounds? ∈ ranges.map some)
    rw [RangeTest.holds_of_bounds? hx.symm, ← hx]
    rfl
  rw [hranges]
  exact Nat.le_antisymm (List.findIdx_le_findIdx fun b hb h => (hpass b hb).trans h)
    (List.findIdx_le_findIdx fun b hb h => (hpass b hb).symm.trans h)

/-- If the ranges are closed and ascend then a smaller number is in no later one, unless it is in
none and the other number is in one. -/
theorem bucketIndex_le_iff (hbounds : buckets.map (·.test.bounds?) = ranges.map some)
    (hapart : ranges.Pairwise fun x y => x.2 < y.1) (h : a.Less b) :
    bucketIndex buckets a ≤ bucketIndex buckets b ↔
      (∃ x ∈ ranges, a.isBetween x.1 x.2 = true) ∨
        ¬∃ x ∈ ranges, b.isBetween x.1 x.2 = true := by
  rw [bucketIndex_eq_findIdx hbounds, bucketIndex_eq_findIdx hbounds,
    ← List.findIdx_lt_length (p := fun x : Int × Int => a.isBetween x.1 x.2),
    ← List.findIdx_lt_length (p := fun x : Int × Int => b.isBetween x.1 x.2)]
  generalize hi : (ranges.findIdx fun x => a.isBetween x.1 x.2) = i
  generalize hk : (ranges.findIdx fun x => b.isBetween x.1 x.2) = k
  have hile : i ≤ ranges.length := hi ▸ List.findIdx_le_length
  constructor
  · intro hle
    omega
  · intro hcase
    by_contra hgt
    -- Both are in ranges, and that of the smaller number is the later one.
    have hilt : i < ranges.length := by omega
    have hklt : k < ranges.length := by omega
    have ha : a.isBetween ranges[i].1 ranges[i].2 = true := by
      subst hi
      exact List.findIdx_getElem (p := fun x : Int × Int => a.isBetween x.1 x.2)
    have hb : b.isBetween ranges[k].1 ranges[k].2 = true := by
      subst hk
      exact List.findIdx_getElem (p := fun x : Int × Int => b.isBetween x.1 x.2)
    exact h.not_apart (List.pairwise_iff_getElem.mp hapart k i hklt hilt (by omega)) ⟨ha, hb⟩

end Query

/-! ### Rows in the order of the buckets -/

/-- In a list that is sorted by a number, the places of two elements are in the order of their
numbers, if no other element has the same number. -/
theorem idxOf_le_idxOf_iff {α : Type} [DecidableEq α] {xs : List α} {rank : α → Nat}
    (hsorted : xs.Pairwise fun x y => rank x ≤ rank y) {x y : α} (hx : x ∈ xs) (hy : y ∈ xs)
    (hinj : rank x = rank y → x = y) : xs.idxOf x ≤ xs.idxOf y ↔ rank x ≤ rank y := by
  have hbefore : ∀ {x y : α}, x ∈ xs → y ∈ xs → xs.idxOf x < xs.idxOf y → rank x ≤ rank y := by
    intro x y hx hy hlt
    have hle := List.pairwise_iff_getElem.mp hsorted _ _ (List.idxOf_lt_length_of_mem hx)
      (List.idxOf_lt_length_of_mem hy) hlt
    rwa [List.getElem_idxOf, List.getElem_idxOf] at hle
  rcases Nat.lt_trichotomy (xs.idxOf x) (xs.idxOf y) with hlt | heq | hgt
  · exact iff_of_true hlt.le (hbefore hx hy hlt)
  · obtain rfl := (List.idxOf_inj hx).mp heq
    exact iff_of_true (Nat.le_refl _) (Nat.le_refl _)
  · refine iff_of_false (Nat.not_le.mpr hgt) fun hle => ?_
    obtain rfl := hinj (Nat.le_antisymm hle (hbefore hy hx hgt))
    exact Nat.lt_irrefl _ hgt

namespace StandingReport

variable {db : Database} {c : Criteria} {r : StandingReport} {j k : Row} {column : String}
  {buckets : List Bucket} {otherwise : String}

/-- A report that counts postings by the buckets of a column and shows them in this order. -/
structure Bucketed (r : StandingReport) (column : String) (buckets : List Bucket)
    (otherwise : String) : Prop where
  exhaustive : r ∈ exhaustive
  group : r.group.expression = .bucket (postingColumn column) buckets otherwise
  order : r.order = byBucket r.group.name buckets
  nodup : (buckets.map (·.label)).Nodup
  other : otherwise ∉ buckets.map (·.label)

/-- The place of the row in which a posting is counted. -/
def placeIn (r : StandingReport) (db : Database) (tally : List (String × Nat)) (j : Row) : Nat :=
  tally.findIdx fun t => Cell.text t.1 = r.labelOf (db.joined r.fields j)

/-- The postings that a report counts: those that match and hold what it requires. -/
def CountedIn (r : StandingReport) (db : Database) (c : Criteria) (j : Row) : Prop :=
  j ∈ db.matching c "" .any ∧ r.Requires j

theorem Bucketed.labelOf_eq (h : r.Bucketed column buckets otherwise) (j : Row) :
    r.labelOf (db.joined r.fields j) = .text (bucketLabel buckets otherwise (j.cell column)) := by
  rw [labelOf, h.group]
  show Cell.text (bucketLabel buckets otherwise
    ((db.joined r.fields j).cell ⟨postingQualifier, column⟩)) = _
  rw [Joined.cell_posting, Database.posting_joined]

/-- The rows of the answer are sorted by the places of their labels among those of the buckets. -/
theorem Bucketed.pairwise_tally (h : r.Bucketed column buckets otherwise)
    {tally : List (String × Nat)}
    (htally : tally.map (fun t => (Cell.text t.1, t.2)) = r.tallyOf db c) :
    (tally.map (·.1)).Pairwise fun s t =>
      (buckets.map (·.label)).idxOf s ≤ (buckets.map (·.label)).idxOf t := by
  have hlines := Statement.lines_pairwise (r.statement (c.predicate "" .any)) (r.keptRows db c)
  have hrank (s : String) : ((buckets.map (·.label)).map Cell.text).findIdx (· == .text s) =
      (buckets.map (·.label)).idxOf s := by
    rw [List.findIdx_map, List.idxOf]
    congr 1
    funext l
    simp
  have hvalue (g : List Joined) : outputValue r.outputs r.group.name g = (r.entryOf g).1 := by
    simp [outputValue, outputs, entryOf]
  have hsorted : (r.tallyOf db c).Pairwise fun t u =>
      ((buckets.map (·.label)).map Cell.text).findIdx (· == t.1) ≤
        ((buckets.map (·.label)).map Cell.text).findIdx (· == u.1) := by
    rw [tallyOf, List.pairwise_map]
    refine hlines.imp fun {g g'} hbefore => ?_
    have horder : (r.statement (c.predicate "" .any)).order =
        [⟨.ranked r.group.name (buckets.map (·.label)), .unspoken⟩] := h.order
    rw [Statement.before, horder] at hbefore
    simp only [List.map_cons, List.map_nil, inOrder_cons, Bool.and_eq_true, SortKey.value,
      statement, hvalue] at hbefore
    have hle : (Cell.int _).le (Cell.int _) = true := hbefore.1
    rw [Cell.le_int] at hle
    exact Int.ofNat_le.mp (of_decide_eq_true hle)
  rw [← htally, List.pairwise_map] at hsorted
  rw [List.pairwise_map]
  refine hsorted.imp fun {t u} hle => ?_
  rwa [hrank, hrank] at hle

theorem Bucketed.placeIn_eq (h : r.Bucketed column buckets otherwise) (tally : List (String × Nat))
    (j : Row) : r.placeIn db tally j =
      (tally.map (·.1)).idxOf (bucketLabel buckets otherwise (j.cell column)) := by
  rw [placeIn, h.labelOf_eq, List.idxOf, List.findIdx_map]
  congr 1
  funext t
  rw [Bool.eq_iff_iff]
  simp

/-- The rows in which two postings are counted are in the order of their buckets. -/
theorem Bucketed.exists_places (h : r.Bucketed column buckets otherwise) (hdb : db.Conforms)
    (hc : c.Normal) (hfields : c.Filterable) (hn : c.Countable) :
    ∃ rows tally, r.Yields db c rows ∧ r.CountsOnce db c rows tally ∧
      ∀ j k, r.CountedIn db c j → r.CountedIn db c k →
        (r.placeIn db tally j ≤ r.placeIn db tally k ↔
          bucketIndex buckets (j.cell column) ≤ bucketIndex buckets (k.cell column)) := by
  obtain ⟨tally, htally, honce⟩ := exists_countsOnce hdb h.exhaustive c
  refine ⟨_, tally, yields_answerRows hdb (mem_all_of_exhaustive h.exhaustive) hc hfields hn,
    honce, fun j k hj hk => ?_⟩
  have hmem : ∀ j, r.CountedIn db c j →
      bucketLabel buckets otherwise (j.cell column) ∈ tally.map (·.1) := by
    intro j hj
    obtain ⟨t, ⟨ht, hlabel⟩, -⟩ := honce.unique j hj.1 hj.2
    rw [h.labelOf_eq] at hlabel
    exact List.mem_map.mpr ⟨t, ht, (Cell.text.inj hlabel).symm⟩
  have hindex (j : Row) := idxOf_bucketLabel h.nodup h.other (j.cell column)
  rw [h.placeIn_eq, h.placeIn_eq, ← hindex j, ← hindex k]
  refine idxOf_le_idxOf_iff (h.pairwise_tally htally) (hmem j hj) (hmem k hk) fun he => ?_
  rw [hindex, hindex] at he
  exact bucketLabel_congr he

/-! ### Salaries and years -/

theorem bucketed_salaries : salaries.Bucketed "max_salary" salaryRanges "50k+ MDL" where
  exhaustive := by simp [exhaustive]
  group := rfl
  order := rfl
  nodup := by decide
  other := by decide

theorem bucketed_experience :
    experience.Bucketed "experience_years" experienceLevels "Expert (10+ years)" where
  exhaustive := by simp [exhaustive]
  group := rfl
  order := rfl
  nodup := by decide
  other := by decide

/-- The least and the greatest number of years of each level below the highest. -/
def levelYears : List (Int × Int) := [(0, 0), (1, 2), (3, 5), (6, 10)]

theorem bounds_experienceLevels :
    experienceLevels.map (·.test.bounds?) = levelYears.map some := rfl

/-- A number of years is in a level below the highest. -/
def InLevel (a : Cell) : Prop := ∃ x ∈ levelYears, a.isBetween x.1 x.2 = true

instance (a : Cell) : Decidable (InLevel a) := inferInstanceAs (Decidable (∃ x ∈ _, _))

/-- Under any criteria, of two postings that are counted by range of salary the one with less never
stands behind the other one. Of two postings that are counted by level of experience the one with
fewer years does not stand behind the other one exactly if its years are in a level below the
highest or those of the other one are in none. -/
theorem places_by_number (hdb : db.Conforms) (hc : c.Normal) (hfields : c.Filterable)
    (hn : c.Countable) :
    (∃ rows tally, salaries.Yields db c rows ∧ salaries.CountsOnce db c rows tally ∧
      ∀ j k, salaries.CountedIn db c j → salaries.CountedIn db c k →
        (j.cell "max_salary").Less (k.cell "max_salary") →
          salaries.placeIn db tally j ≤ salaries.placeIn db tally k) ∧
    ∃ rows tally, experience.Yields db c rows ∧ experience.CountsOnce db c rows tally ∧
      ∀ j k, experience.CountedIn db c j → experience.CountedIn db c k →
        (j.cell "experience_years").Less (k.cell "experience_years") →
          (experience.placeIn db tally j ≤ experience.placeIn db tally k ↔
            InLevel (j.cell "experience_years") ∨ ¬InLevel (k.cell "experience_years")) := by
  constructor
  · obtain ⟨rows, tally, hyields, honce, hplaces⟩ :=
      bucketed_salaries.exists_places hdb hc hfields hn
    have hbelow : ∀ b ∈ salaryRanges, ∃ n, b.test = .below n := by simp [salaryRanges]
    exact ⟨rows, tally, hyields, honce, fun j k hj hk hless =>
      (hplaces j k hj hk).mpr (bucketIndex_le_of_below hbelow hless)⟩
  · obtain ⟨rows, tally, hyields, honce, hplaces⟩ :=
      bucketed_experience.exists_places hdb hc hfields hn
    exact ⟨rows, tally, hyields, honce, fun j k hj hk hless =>
      (hplaces j k hj hk).trans
        (bucketIndex_le_iff bounds_experienceLevels (by decide) hless)⟩

end StandingReport

/-! ### Some trainees -/

namespace Dataset

/-- A job with a number of years and a salary. -/
def paid (id : Int) (years salary : Cell) : Job where
  id
  plain := [("experience_years", years), ("max_salary", salary)]
  label _ := none
  labels _ := []

/-- Four jobs for trainees, with years below zero and between zero and one among theirs. -/
def trainees : Dataset where
  jobs := [paid 1 (.int (-1)) (.int 16000), paid 2 (.int 0) (.real 14999.5),
    paid 3 (.real 0.5) (.int (-5)), paid 4 (.int 1) (.int 0)]
  conversion := ⟨false, false⟩
  dropped := []

theorem storable_trainees : trainees.Storable where
  ids := by decide
  nodup := by decide
  few := by decide
  whole := rfl

/-- The posting of one of these jobs. -/
def trainee (i : Nat) : Row := trainees.database.postings.getD i []

end Dataset

namespace StandingReport

open Dataset

theorem counted_trainees : ∀ r ∈ [experience, salaries], ∀ i < 4,
    r.CountedIn trainees.database .empty (trainee i) := by
  unfold CountedIn
  decide +kernel

/-- By range of salary the third job, with less than nothing, does not stand behind the first one.
By level of experience the second one, with no years, does not stand behind the last one, but the
first one, with fewer years, does. -/
theorem places_by_number_of_trainees :
    (∃ rows tally, salaries.Yields trainees.database .empty rows ∧
      salaries.CountsOnce trainees.database .empty rows tally ∧
      salaries.placeIn trainees.database tally (trainee 2) ≤
        salaries.placeIn trainees.database tally (trainee 0)) ∧
    ∃ rows tally, experience.Yields trainees.database .empty rows ∧
      experience.CountsOnce trainees.database .empty rows tally ∧
      experience.placeIn trainees.database tally (trainee 1) ≤
        experience.placeIn trainees.database tally (trainee 3) ∧
      ¬experience.placeIn trainees.database tally (trainee 0) ≤
        experience.placeIn trainees.database tally (trainee 3) := by
  have hsalaries := counted_trainees salaries (by simp)
  have hexperience := counted_trainees experience (by simp)
  obtain ⟨⟨rows, tally, hyields, honce, hplaces⟩, rows', tally', hyields', honce', hplaces'⟩ :=
    places_by_number storable_trainees.conforms Criteria.normal_empty Criteria.filterable_empty
      Criteria.countable_empty
  refine ⟨⟨rows, tally, hyields, honce, ?_⟩, rows', tally', hyields', honce', ?_, ?_⟩
  · exact hplaces _ _ (hsalaries 2 (by decide)) (hsalaries 0 (by decide)) (by decide +kernel)
  · rw [hplaces' _ _ (hexperience 1 (by decide)) (hexperience 3 (by decide)) (by decide +kernel)]
    decide +kernel
  · rw [hplaces' _ _ (hexperience 0 (by decide)) (hexperience 3 (by decide)) (by decide +kernel)]
    decide +kernel

/-- A number of years below zero stands behind none at all, and half a year behind one. -/
theorem fewer_years_behind : ∃ rows tally, experience.Yields trainees.database .empty rows ∧
    experience.CountsOnce trainees.database .empty rows tally ∧
    ∀ p ∈ [(0, 1), (2, 3)],
      experience.CountedIn trainees.database .empty (trainee p.1) ∧
      experience.CountedIn trainees.database .empty (trainee p.2) ∧
      ((trainee p.1).cell "experience_years").Less ((trainee p.2).cell "experience_years") ∧
      experience.placeIn trainees.database tally (trainee p.2) <
        experience.placeIn trainees.database tally (trainee p.1) := by
  obtain ⟨rows, tally, hyields, honce, hplaces⟩ := bucketed_experience.exists_places
    storable_trainees.conforms Criteria.normal_empty Criteria.filterable_empty
    Criteria.countable_empty
  have hcounted := counted_trainees experience (by simp)
  have hbuckets : ∀ p ∈ [(0, 1), (2, 3)], p.1 < 4 ∧ p.2 < 4 ∧
      ((trainee p.1).cell "experience_years").Less ((trainee p.2).cell "experience_years") ∧
      ¬bucketIndex experienceLevels ((trainee p.1).cell "experience_years") ≤
        bucketIndex experienceLevels ((trainee p.2).cell "experience_years") := by
    decide +kernel
  refine ⟨rows, tally, hyields, honce, fun p hp => ?_⟩
  obtain ⟨hi, hk, hless, hbehind⟩ := hbuckets p hp
  rw [← hplaces _ _ (hcounted _ hi) (hcounted _ hk), Nat.not_le] at hbehind
  exact ⟨hcounted _ hi, hcounted _ hk, hless, hbehind⟩

end StandingReport

end JobSearch
