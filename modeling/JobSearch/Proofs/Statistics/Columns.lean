import JobSearch.Proofs.Grouping
import JobSearch.Proofs.Number.Sums
import JobSearch.Proofs.Ordered
import JobSearch.Proofs.Sequence
import JobSearch.Proofs.Statistics.Mode
import JobSearch.Proofs.Statistics.Places

/-!
# Numeric cells

The summary of a column is that of the doubles of its numeric cells, and all other cells are passed
over (`numbersIn_eq`). Of these doubles the least and the greatest one and the most frequent one can
always be found, and the values at the shares of a summary lie at places inside the list. Only a sum
or a square may get beyond the largest double, and then there is no summary, although all cells are
finite (`exists_summarize_iff`).

## Main definitions

* `numericCells` — the numeric cells of a column.
* `HasFigures` — numbers whose figures can be formed.

## Main statements

* `columnSummary_congr` — rows with the same numeric cells have the same summary.
* `columnSummaries_of_singles` — summaries of several columns are those of each one.
-/

namespace JobSearch

open Number

/-! ### Cells that count -/

/-- The cell of a row in a column, null if the row has none. -/
def cellOf (column : String) (r : Record) : Json := (Ordered.find? column r).getD .null

/-- Whether a cell is numeric: an integer or a finite double, while a boolean is none. -/
def Json.isNumeric : Json → Bool
  | .int _ => true
  | .real x => isFinite x
  | _ => false

/-- The numeric cells of a column, in the order of the rows. -/
def numericCells (column : String) (rows : List Record) : List Json :=
  (rows.map (cellOf column)).filter Json.isNumeric

theorem numeric?_eq (v : Json) :
    v.numeric? = if v.isNumeric then v.toReal.map some else .ok none := by
  cases v with
  | int n =>
    rw [Json.numeric?, Json.isNumeric, if_pos rfl, Json.toReal]
    cases ofInt? n <;> rfl
  | real x =>
    rw [Json.numeric?, Json.isNumeric, Json.toReal]
    split <;> rfl
  | _ => rfl

/-- The numbers of a column are those of its numeric cells. -/
theorem numbersIn_eq (rows : List Record) (column : String) : numbersIn rows column =
    ((numericCells column rows).mapM Json.toReal).map (List.map fun x => ⟨x, false⟩) := by
  have hfound : (rows.mapM fun r => (cellOf column r).numeric?).map (List.filterMap id) =
      (numericCells column rows).mapM Json.toReal := by
    induction rows with
    | nil => rfl
    | cons r rows ih =>
      rw [List.mapM_cons, numeric?_eq, numericCells, List.map_cons]
      cases hv : (cellOf column r).isNumeric with
      | false =>
        rw [List.filter_cons_of_neg (by simp [hv]), ← numericCells, ← ih]
        cases rows.mapM fun r => (cellOf column r).numeric? <;> rfl
      | true =>
        rw [List.filter_cons_of_pos hv, ← numericCells, List.mapM_cons, ← ih]
        cases (cellOf column r).toReal with
        | error f => rfl
        | ok x => cases rows.mapM fun r => (cellOf column r).numeric? <;> rfl
  rw [← hfound, numbersIn]
  show Except.map _ (rows.mapM fun r => (cellOf column r).numeric?) = _
  cases rows.mapM fun r => (cellOf column r).numeric? <;> rfl

theorem numericCells_eq_nil_iff {rows : List Record} {column : String} :
    numericCells column rows = [] ↔ ∀ r ∈ rows, (cellOf column r).isNumeric = false := by
  simp [numericCells, List.filter_eq_nil_iff]

/-- The double of a numeric cell, which is finite. -/
theorem exists_toReal {v : Json} (hv : v.isNumeric = true)
    (hrange : ∀ n, v = .int n → n.natAbs < twoTo 1024 - twoTo 970) :
    ∃ x, v.toReal = .ok x ∧ isFinite x = true := by
  cases v with
  | int n =>
    obtain ⟨x, hx⟩ := exists_ofInt? (hrange n rfl)
    exact ⟨x, by rw [Json.toReal, hx],
      Option.isSome_iff_exists.mpr ⟨_, exactValue?_of_ofRatio? Nat.one_pos hx⟩⟩
  | real x => exact ⟨x, rfl, hv⟩
  | _ => cases hv

/-- The doubles of the numeric cells of a column. -/
theorem exists_reals {rows : List Record} {column : String}
    (hrange : ∀ r ∈ rows, ∀ n, cellOf column r = .int n → n.natAbs < twoTo 1024 - twoTo 970) :
    ∃ xs, (numericCells column rows).mapM Json.toReal = .ok xs ∧ (∀ x ∈ xs, isFinite x = true) ∧
      xs.length = (numericCells column rows).length := by
  obtain ⟨xs, hxs, hall⟩ := exists_mapM (numericCells column rows) (f := Json.toReal)
    (P := fun _ x => isFinite x = true) fun v hv => by
      obtain ⟨hmem, hnumeric⟩ := List.mem_filter.mp hv
      obtain ⟨r, hr, rfl⟩ := List.mem_map.mp hmem
      exact exists_toReal hnumeric (hrange r hr)
  refine ⟨xs, hxs, fun x hx => ?_, hall.length_eq.symm⟩
  obtain ⟨-, -, hx⟩ := forall₂_left hall x hx
  exact hx

/-! ### Figures -/

/-- The mean of finite numbers whose sum can be formed. -/
def meanValue (xs : List Float) : Float :=
  ofParts (xs.foldl withAddend []) / Float.ofNat xs.length

/-- Finite numbers of which a summary can be formed: they can be added up, the deviations from the
mean have squares in the range of doubles unless they lie beyond it themselves, these squares can be
added up, and the last position is a double. -/
structure HasFigures (xs : List Float) : Prop where
  sum : Addable xs
  squares : ∀ x ∈ xs, isFinite (x - meanValue xs) = true →
    isFinite ((x - meanValue xs) * (x - meanValue xs)) = true
  spread : Addable (xs.map fun x => (x - meanValue xs).pow 2)
  place : ∃ x, ofInt? (xs.length - 1) = some x

theorem square_eq_ok_iff {x y : Float} :
    square x = .ok y ↔ (isFinite x = true → isFinite (x * x) = true) ∧ x.pow 2 = y := by
  rw [square]
  cases isFinite x <;> cases isFinite (x * x) <;> simp

/-- The squares of all deviations can be formed if each one can. -/
theorem mapM_square_eq_ok_iff {xs squares : List Float} {mean : Float} :
    xs.mapM (fun x => square (x - mean)) = .ok squares ↔
      (∀ x ∈ xs, isFinite (x - mean) = true → isFinite ((x - mean) * (x - mean)) = true) ∧
        (xs.map fun x => (x - mean).pow 2) = squares := by
  constructor
  · intro h
    have hall := forall₂_of_mapM h
    simp only [square_eq_ok_iff] at hall
    refine ⟨fun x hx => ?_, ?_⟩
    · obtain ⟨-, -, hsquare, -⟩ := forall₂_right hall x hx
      exact hsquare
    · rw [← List.forall₂_eq_eq_eq]
      exact List.forall₂_map_left_iff.mpr (hall.imp fun _ _ hsquare => hsquare.2)
  · rintro ⟨hsquares, rfl⟩
    refine mapM_eq_ok (List.forall₂_same.mpr fun x hx => ?_)
    exact square_eq_ok_iff.mpr ⟨hsquares x hx, rfl⟩

theorem meanOf_eq_ok {xs : List Float} (h : Addable xs) (hfinite : ∀ x ∈ xs, isFinite x = true) :
    meanOf xs xs.length = .ok (meanValue xs) := by
  rw [meanOf, h.roundedSum_eq hfinite]
  rfl

theorem exists_meanOf_iff {xs : List Float} (count : Nat) :
    (∃ y, meanOf xs count = .ok y) ↔ Addable xs := by
  rw [← exists_roundedSum_iff, meanOf]
  cases roundedSum xs <;> simp [Except.map, Except.mapError]

/-- Mean and squares of the deviations can be formed exactly under the conditions on the numbers. -/
theorem exists_deviation_iff {xs : List Float} (hfinite : ∀ x ∈ xs, isFinite x = true) :
    (∃ mean squares variance, meanOf xs xs.length = .ok mean ∧
      xs.mapM (fun x => square (x - mean)) = .ok squares ∧
        meanOf squares xs.length = .ok variance) ↔
      Addable xs ∧
      (∀ x ∈ xs, isFinite (x - meanValue xs) = true →
        isFinite ((x - meanValue xs) * (x - meanValue xs)) = true) ∧
      Addable (xs.map fun x => (x - meanValue xs).pow 2) := by
  constructor
  · rintro ⟨mean, squares, variance, hmean, hsquares, hvariance⟩
    have hsum : Addable xs := (exists_meanOf_iff _).mp ⟨mean, hmean⟩
    obtain rfl : meanValue xs = mean :=
      Except.ok.inj ((meanOf_eq_ok hsum hfinite).symm.trans hmean)
    obtain ⟨hall, rfl⟩ := mapM_square_eq_ok_iff.mp hsquares
    exact ⟨hsum, hall, (exists_meanOf_iff _).mp ⟨variance, hvariance⟩⟩
  · rintro ⟨hsum, hall, hspread⟩
    obtain ⟨variance, hvariance⟩ := (exists_meanOf_iff xs.length).mpr hspread
    exact ⟨_, _, variance, meanOf_eq_ok hsum hfinite, mapM_square_eq_ok_iff.mpr ⟨hall, rfl⟩,
      hvariance⟩

theorem isNaN_of_isFinite {x : Float} (h : isFinite x = true) : isNaN x = false := by
  obtain ⟨q, hq⟩ := Option.isSome_iff_exists.mp h
  exact isNaN_of_exactValue? hq

theorem length_ascending {xs : List Float} (h : ∀ x ∈ xs, isNaN x = false) :
    (ascending xs).length = xs.length := by
  have hany : xs.any isNaN = false := List.any_eq_false.mpr fun x hx => by simp [h x hx]
  rw [ascending, hany, if_neg Bool.false_ne_true, List.length_mergeSort]

theorem ascending_ne_nil {xs : List Float} (hne : xs ≠ []) (h : ∀ x ∈ xs, isNaN x = false) :
    ascending xs ≠ [] := by
  rwa [← List.length_pos_iff, length_ascending h, List.length_pos_iff]

/-- The steps of a summary of some numbers, of which the deviation and the values at the shares may
fail. -/
theorem exists_summarize_eq {samples : List Sample} (hne : samples ≠ []) {xs : List Float}
    (hxs : samples.map Sample.value = xs) (hnumber : ∀ x ∈ xs, isNaN x = false) :
    ∃ low high, summarize samples = do
      let mean ← meanOf xs xs.length
      let squares ← xs.mapM fun x => square (x - mean)
      let variance ← meanOf squares xs.length
      let median ← percentile (ascending xs) (50 / 100)
      let most ← mode samples
      let percentiles ← summaryShares.mapM fun p => do
        return (p, ← percentile (ascending xs) (Float.ofNat p / 100))
      return ⟨xs.length, low, high, mean, median, most, variance.sqrt, percentiles⟩ := by
  have hne' : xs ≠ [] := by
    rw [← hxs]
    simpa using hne
  have hordered := ascending_ne_nil hne' hnumber
  refine ⟨(ascending xs).head hordered, (ascending xs).getLast hordered, ?_⟩
  rw [summarize]
  simp only [hxs, List.head?_eq_some_head hne', List.head?_eq_some_head hordered,
    List.getLast?_eq_some_getLast hordered]

/-- A summary counts all numbers. -/
theorem count_of_summarize {samples : List Sample} (hne : samples ≠ []) {xs : List Float}
    (hxs : samples.map Sample.value = xs) (hnumber : ∀ x ∈ xs, isNaN x = false) {s : Summary}
    (hs : summarize samples = .ok s) : s.count = xs.length := by
  obtain ⟨low, high, hsummarize⟩ := exists_summarize_eq hne hxs hnumber
  rw [hsummarize] at hs
  obtain ⟨mean, -, hs⟩ := bind_eq_ok_iff.mp hs
  obtain ⟨squares, -, hs⟩ := bind_eq_ok_iff.mp hs
  obtain ⟨variance, -, hs⟩ := bind_eq_ok_iff.mp hs
  obtain ⟨median, -, hs⟩ := bind_eq_ok_iff.mp hs
  obtain ⟨most, -, hs⟩ := bind_eq_ok_iff.mp hs
  obtain ⟨percentiles, -, hs⟩ := bind_eq_ok_iff.mp hs
  obtain rfl := Except.ok.inj hs
  rfl

/-- Finite numbers have a summary if their figures can be formed, and only then. -/
theorem exists_summarize_iff {samples : List Sample} (hne : samples ≠ []) {xs : List Float}
    (hxs : samples.map Sample.value = xs) (hfinite : ∀ x ∈ xs, isFinite x = true) :
    (∃ s, summarize samples = .ok s) ↔ HasFigures xs := by
  have hnumber : ∀ x ∈ xs, isNaN x = false := fun x hx => isNaN_of_isFinite (hfinite x hx)
  obtain ⟨low, high, hsummarize⟩ := exists_summarize_eq hne hxs hnumber
  have hlength : (ascending xs).length = xs.length := length_ascending hnumber
  have hne' : xs ≠ [] := by
    rw [← hxs]
    simpa using hne
  have hordered := ascending_ne_nil hne' hnumber
  have hpercentile : ∀ p ∈ summaryShares,
      ((∃ x, percentile (ascending xs) (Float.ofNat p / 100) = .ok x) ↔
        ∃ y, ofInt? (xs.length - 1) = some y) := fun p hp =>
    hlength ▸ exists_percentile_iff hordered hp
  -- The median is the value at one of the shares, so either all values are found or it is not.
  have hhalf : 50 ∈ summaryShares := by decide
  rw [hsummarize]
  constructor
  · rintro ⟨s, hs⟩
    obtain ⟨mean, hmean, hs⟩ := bind_eq_ok_iff.mp hs
    obtain ⟨squares, hsquares, hs⟩ := bind_eq_ok_iff.mp hs
    obtain ⟨variance, hvariance, hs⟩ := bind_eq_ok_iff.mp hs
    obtain ⟨median, hmedian, -⟩ := bind_eq_ok_iff.mp hs
    obtain ⟨hsum, hall, hspread⟩ :=
      (exists_deviation_iff hfinite).mp ⟨mean, squares, variance, hmean, hsquares, hvariance⟩
    exact ⟨hsum, hall, hspread, (hpercentile 50 hhalf).mp ⟨median, hmedian⟩⟩
  · intro h
    obtain ⟨mean, squares, variance, hmean, hsquares, hvariance⟩ :=
      (exists_deviation_iff hfinite).mpr ⟨h.sum, h.squares, h.spread⟩
    obtain ⟨median, hmedian⟩ := (hpercentile 50 hhalf).mpr h.place
    obtain ⟨-, s, -, hmost, -⟩ := exists_mode hne
    obtain ⟨percentiles, hpercentiles, -⟩ := exists_mapM summaryShares (P := fun _ _ => True)
      (f := fun p => do return (p, ← percentile (ascending xs) (Float.ofNat p / 100)))
      fun p hp => by
        obtain ⟨x, hx⟩ := (hpercentile p hp).mpr h.place
        exact ⟨(p, x), by rw [hx]; rfl, trivial⟩
    refine ⟨⟨xs.length, low, high, mean, median, s.value, variance.sqrt, percentiles⟩, ?_⟩
    refine bind_eq_ok_iff.mpr ⟨mean, hmean, ?_⟩
    refine bind_eq_ok_iff.mpr ⟨squares, hsquares, bind_eq_ok_iff.mpr ⟨variance, hvariance, ?_⟩⟩
    refine bind_eq_ok_iff.mpr ⟨median, hmedian, bind_eq_ok_iff.mpr ⟨s.value, hmost, ?_⟩⟩
    exact bind_eq_ok_iff.mpr ⟨percentiles, hpercentiles, rfl⟩

/-- The figures of a single number can be formed if its deviation from the mean has a square. -/
theorem HasFigures.single {x : Float} (hsquare : isFinite (x - meanValue [x]) = true →
    isFinite ((x - meanValue [x]) * (x - meanValue [x])) = true) : HasFigures [x] where
  sum := addable_single x
  squares := by simpa using hsquare
  spread := addable_single _
  place := ⟨zero false, show ofInt? 0 = _ from rfl⟩

/-! ### Columns of a table -/

/-- Pairs that give each of some keys its own value are a mapping in which each key stands once. -/
theorem Ordered.ofList_filterMap {κ ν : Type} [DecidableEq κ] (f : κ → Option ν) (ks : List κ) :
    ofList (ks.filterMap fun k => (f k).map (k, ·)) =
      (distinct ks).filterMap fun k => (f k).map (k, ·) := by
  induction ks using List.reverseRecOn with
  | nil => rfl
  | append_singleton ks k ih =>
    rw [List.filterMap_append, distinct_concat]
    cases hf : f k with
    | none =>
      rw [List.filterMap_cons_none (by rw [hf]; rfl), List.filterMap_nil, List.append_nil, ih]
      split
      · rfl
      · rw [List.filterMap_append, List.filterMap_cons_none (by rw [hf]; rfl), List.filterMap_nil,
          List.append_nil]
    | some v =>
      have hlast : ([k].filterMap fun k => (f k).map (k, ·)) = [(k, v)] := by simp [hf]
      rw [hlast, ofList, List.foldl_append, ← ofList, ih]
      show insert k v _ = _
      by_cases hk : k ∈ ks
      · rw [if_pos hk]
        refine insert_eq_self ?_
        rw [find?_filterMap, if_pos (mem_distinct.mpr hk), hf]
      · rw [if_neg hk, List.filterMap_append, hlast]
        refine insert_eq_concat ?_ v
        rw [find?_filterMap, if_neg (mem_distinct.not.mpr hk)]

section column

variable {rows rows' : List Record} {column : String}

theorem columnSummary_congr (h : numericCells column rows' = numericCells column rows) :
    columnSummary rows' column = columnSummary rows column := by
  rw [columnSummary, columnSummary, numbersIn_eq, numbersIn_eq, h]

theorem columnSummary_of_reals {xs : List Float}
    (hxs : (numericCells column rows).mapM Json.toReal = .ok xs) (hne : xs ≠ []) :
    columnSummary rows column = (summarize (xs.map fun x => ⟨x, false⟩)).map some := by
  obtain ⟨x, rest, rfl⟩ := List.exists_cons_of_ne_nil hne
  rw [columnSummary, numbersIn_eq, hxs]
  show ((summarize _).bind fun s => .ok (some s)) = _
  cases summarize _ <;> rfl

theorem columnSummary_eq_none_iff :
    columnSummary rows column = .ok none ↔ numericCells column rows = [] := by
  constructor
  · intro h
    by_contra hne
    cases hxs : (numericCells column rows).mapM Json.toReal with
    | error f =>
      rw [columnSummary, numbersIn_eq, hxs] at h
      cases h
    | ok xs =>
      have hxs' : xs ≠ [] := by
        rwa [← List.length_pos_iff, ← (forall₂_of_mapM hxs).length_eq, List.length_pos_iff]
      rw [columnSummary_of_reals hxs hxs'] at h
      cases hs : summarize (xs.map fun x => ⟨x, false⟩) <;> rw [hs] at h <;> cases h
  · intro h
    rw [columnSummary, numbersIn_eq, h]
    rfl

/-- The summaries of columns are those found one by one. -/
theorem columnSummaries_eq (rows : List Record) (columns : List String) :
    columnSummaries rows (some columns) =
      (columns.mapM fun c => (columnSummary rows c).map fun o => o.map fun s => (c, s)).map
        fun found => Ordered.ofList (found.filterMap id) := by
  cases rows with
  | nil =>
    have hnone : (columns.mapM fun c => (columnSummary [] c).map fun o => o.map fun s => (c, s)) =
        .ok (columns.map fun _ => none) :=
      mapM_eq_ok (List.forall₂_same.mpr fun _ _ => rfl)
    have hempty : (columns.map fun _ => (none : Option (String × Summary))).filterMap id = [] := by
      simp
    rw [hnone]
    show _ = Except.ok (Ordered.ofList _)
    rw [hempty]
    rfl
  | cons first rest =>
    have hstep : ∀ c, (columnSummary (first :: rest) c >>= fun o => pure (o.map fun s => (c, s))) =
        (columnSummary (first :: rest) c).map fun o => o.map fun s => (c, s) := by
      intro c
      cases columnSummary (first :: rest) c <;> rfl
    simp only [columnSummaries, Option.getD_some, hstep]
    cases columns.mapM fun c =>
      (columnSummary (first :: rest) c).map fun o => o.map fun s => (c, s) <;> rfl

theorem columnSummaries_single (rows : List Record) (column : String) :
    columnSummaries rows (some [column]) =
      (columnSummary rows column).map fun o => (o.map fun s => (column, s)).toList := by
  rw [columnSummaries_eq, List.mapM_cons, List.mapM_nil]
  cases columnSummary rows column with
  | error f => rfl
  | ok o => cases o <;> rfl

/-- Columns that succeed one by one give together what each of them gives, a repeated one once. -/
theorem columnSummaries_of_singles {columns : List String}
    {singles : String → List (String × Summary)}
    (h : ∀ c ∈ columns, columnSummaries rows (some [c]) = .ok (singles c)) :
    columnSummaries rows (some columns) = .ok ((distinct columns).flatMap singles) := by
  choose! found hfound using show ∀ c ∈ columns, ∃ o, columnSummary rows c = .ok o ∧
      singles c = (o.map fun s => (c, s)).toList by
    intro c hc
    have hc := h c hc
    rw [columnSummaries_single] at hc
    cases ho : columnSummary rows c with
    | error f =>
      rw [ho] at hc
      cases hc
    | ok o =>
      rw [ho] at hc
      exact ⟨o, rfl, (Except.ok.inj hc).symm⟩
  have hsteps : (columns.mapM fun c => (columnSummary rows c).map fun o => o.map fun s => (c, s)) =
      .ok (columns.map fun c => (found c).map fun s => (c, s)) := by
    refine mapM_eq_ok (List.forall₂_same.mpr fun c hc => ?_)
    rw [(hfound c hc).1]
    rfl
  have hunion : (distinct columns).flatMap singles =
      (distinct columns).filterMap fun c => (found c).map fun s => (c, s) := by
    rw [List.filterMap_eq_flatMap_toList]
    exact List.flatMap_congr fun c hc => (hfound c (mem_distinct.mp hc)).2
  rw [columnSummaries_eq, hsteps, hunion, ← Ordered.ofList_filterMap]
  show Except.ok (Ordered.ofList _) = _
  rw [List.filterMap_map]
  rfl

/-- Of a column only the numeric cells count. It is left out if it has none. Otherwise its summary
counts them, or the column is refused because the figures of these cells cannot be formed. Rows with
the same numeric cells have the same summary, whatever else they hold, and columns that succeed one
by one give together what each of them gives. -/
theorem only_numeric_cells_count
    (hrange : ∀ r ∈ rows, ∀ n, cellOf column r = .int n → n.natAbs < twoTo 1024 - twoTo 970) :
    (columnSummaries rows (some [column]) = .ok [] ↔
      ∀ r ∈ rows, (cellOf column r).isNumeric = false) ∧
    (numericCells column rows ≠ [] →
      ∃ xs, (numericCells column rows).mapM Json.toReal = .ok xs ∧
        (HasFigures xs → ∃ s, columnSummaries rows (some [column]) = .ok [(column, s)] ∧
          s.count = (numericCells column rows).length) ∧
        (¬HasFigures xs → ∃ f, columnSummaries rows (some [column]) = .error f)) ∧
    (∀ rows', numericCells column rows' = numericCells column rows →
      columnSummaries rows' (some [column]) = columnSummaries rows (some [column])) ∧
    ∀ columns singles, (∀ c ∈ columns, columnSummaries rows (some [c]) = .ok (singles c)) →
      columnSummaries rows (some columns) = .ok ((distinct columns).flatMap singles) := by
  refine ⟨?_, fun hne => ?_, fun rows' h => ?_, fun columns singles => columnSummaries_of_singles⟩
  · rw [columnSummaries_single, ← numericCells_eq_nil_iff, ← columnSummary_eq_none_iff]
    cases columnSummary rows column with
    | error f => simp [Except.map]
    | ok o => cases o <;> simp [Except.map]
  · obtain ⟨xs, hxs, hfinite, hlength⟩ := exists_reals hrange
    have hnumber : ∀ x ∈ xs, isNaN x = false := fun x hx => isNaN_of_isFinite (hfinite x hx)
    have hne' : xs ≠ [] := by
      rwa [← List.length_pos_iff, hlength, List.length_pos_iff]
    have hsamples : (xs.map fun x => Sample.mk x false) ≠ [] := by simpa using hne'
    have hvalues : (xs.map fun x => Sample.mk x false).map Sample.value = xs := by
      rw [List.map_map]
      exact List.map_id xs
    have hiff := exists_summarize_iff hsamples hvalues hfinite
    refine ⟨xs, hxs, fun hfigures => ?_, fun hfigures => ?_⟩
    · obtain ⟨s, hs⟩ := hiff.mpr hfigures
      refine ⟨s, ?_, (count_of_summarize hsamples hvalues hnumber hs).trans hlength⟩
      rw [columnSummaries_single, columnSummary_of_reals hxs hne', hs]
      rfl
    · cases hs : summarize (xs.map fun x => ⟨x, false⟩) with
      | ok s => exact absurd (hiff.mp ⟨s, hs⟩) hfigures
      | error f =>
        refine ⟨f, ?_⟩
        rw [columnSummaries_single, columnSummary_of_reals hxs hne', hs]
        rfl
  · rw [columnSummaries_single, columnSummaries_single, columnSummary_congr h]

/-- Among text, a boolean and a double that is no number the one integer is summed up. An infinity
in place of these changes nothing, and neither does another column. -/
theorem only_numeric_cells_count_sample :
    let rows : List Record := [[("x", .int 3), ("y", .text "a")], [("x", .text "4")],
      [("x", .bool true)], [("y", .int 5)], [("x", .real notANumber)]]
    let rows' : List Record := [[("x", .real (infinity false))], [("y", .null), ("x", .int 3)]]
    (∃ s, columnSummaries rows (some ["x"]) = .ok [("x", s)] ∧ s.count = 1 ∧
      columnSummaries rows' (some ["x"]) = .ok [("x", s)] ∧
      columnSummaries rows (some ["z", "x", "x"]) = .ok [("x", s)]) ∧
    columnSummaries rows (some ["z"]) = .ok [] := by
  intro rows rows'
  have hthree : (3 : ℤ).natAbs < twoTo 1024 - twoTo 970 := by decide +kernel
  have hrange : ∀ r ∈ rows, ∀ n, cellOf "x" r = .int n → n.natAbs < twoTo 1024 - twoTo 970 := by
    simpa [rows, cellOf, Ordered.find?] using hthree
  have hrange' : ∀ r ∈ rows, ∀ n, cellOf "z" r = .int n → n.natAbs < twoTo 1024 - twoTo 970 := by
    simp [rows, cellOf, Ordered.find?]
  have hcells : numericCells "x" rows = [.int 3] := by rfl
  have hcells' : numericCells "x" rows' = [.int 3] := by rfl
  have hfigures : HasFigures [3] := .single (by decide +kernel)
  obtain ⟨-, hx, hsame, hunion⟩ := only_numeric_cells_count hrange
  obtain ⟨hz, -⟩ := only_numeric_cells_count hrange'
  obtain ⟨xs, hxs, hsummary, -⟩ := hx (by simp [hcells])
  obtain rfl : [3] = xs := Except.ok.inj (hcells ▸ hxs)
  obtain ⟨s, hs, hcount⟩ := hsummary hfigures
  have hempty : columnSummaries rows (some ["z"]) = .ok [] := hz.mpr (by decide)
  refine ⟨⟨s, hs, by rw [hcount, hcells]; rfl, (hsame rows' (hcells'.trans hcells.symm)).trans hs,
    hunion ["z", "x", "x"] (fun c => if c = "x" then [("x", s)] else []) ?_⟩, hempty⟩
  simp [hempty, hs]

/-- Two finite doubles whose sum lies beyond the largest one have no summary, although both are
numeric. -/
theorem finite_cells_refused :
    let rows : List Record := [[("x", .real 1e308)], [("x", .real 1e308)]]
    numericCells "x" rows = [.real 1e308, .real 1e308] ∧
      columnSummaries rows (some ["x"]) = .error .overflow := by
  intro rows
  have hfinite : isFinite 1e308 = true := by decide +kernel
  have hcells : numericCells "x" rows = [.real 1e308, .real 1e308] := by
    simp [numericCells, rows, cellOf, Ordered.find?, Json.isNumeric, hfinite]
  have hnumber : ∀ x ∈ [1e308, 1e308], isNaN x = false := by decide +kernel
  have hxs : (numericCells "x" rows).mapM Json.toReal = .ok [1e308, 1e308] := by
    rw [hcells]
    rfl
  have hmean : meanOf [1e308, 1e308] 2 = .error .overflow := by
    rw [meanOf, roundedSum, if_pos (by decide +kernel)]
    rfl
  have hne : [Sample.mk 1e308 false, Sample.mk 1e308 false] ≠ [] := by simp
  obtain ⟨low, high, hsummarize⟩ := exists_summarize_eq hne rfl hnumber
  refine ⟨hcells, ?_⟩
  rw [columnSummaries_single, columnSummary_of_reals hxs (by simp), List.map_cons, List.map_cons,
    List.map_nil, hsummarize]
  show Except.map _ (Except.map _ (meanOf [1e308, 1e308] 2 >>= _)) = _
  rw [hmean]
  rfl

end column

end JobSearch
