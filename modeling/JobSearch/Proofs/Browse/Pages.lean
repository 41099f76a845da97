import JobSearch.Proofs.Browse.Attaching
import JobSearch.Proofs.Browse.Listing
import JobSearch.Proofs.Browse.TotalPages

/-!
# Pages

A page shows the part of the listing that its window cuts out (`Database.Readable.page_eq_ok`).
The windows of the pages follow each other, so the pages together show the listing, and their
number is the one that each of them reports (`pages_partition_matching`).
-/

namespace JobSearch

open Query Number

/-! ### Cutting a list into pages -/

/-- Parts of one length that follow each other are the beginning of the list. -/
theorem flatMap_range_take_drop {α : Type} (xs : List α) (size count : Nat) :
    ((List.range count).flatMap fun i => (xs.drop (i * size)).take size) =
      xs.take (count * size) := by
  induction count with
  | zero => simp
  | succ count ih =>
    rw [List.range_succ, List.flatMap_append, ih, Nat.succ_mul, List.take_add]
    simp

/-- The pages of a list together are the list. -/
theorem flatMap_pages {α : Type} (xs : List α) {size : Nat} (hsize : 0 < size) :
    ((List.range (pageCount xs.length size)).flatMap fun k => (xs.drop (k * size)).take size) =
      xs := by
  rw [flatMap_range_take_drop]
  exact List.take_of_length_le (le_pageCount_mul hsize)

theorem cut_slice {α : Type} (size offset : Nat) (xs : List α) :
    Window.cut (.slice size offset) xs = (xs.drop offset).take size := by
  simp [Window.cut]

/-! ### One page -/

/-- A number below the bound of the storage fits. -/
theorem fits_natCast {n : Nat} (h : n < twoTo 63) : (Cell.int n).fits = true := by
  rw [Cell.fits, Bool.and_eq_true, decide_eq_true_iff, decide_eq_true_iff]
  omega

theorem Store.hasConversion_readable (db : Database) :
    ∃ converted, (Store.readable db).hasConversion = .ok converted := by
  have hcolumn : ∀ table column, ∃ b, (Store.readable db).hasColumn table column = .ok b := by
    intro table column
    exact ⟨_, rfl⟩
  obtain ⟨low, hlow⟩ := hcolumn postingTable "min_salary_mdl"
  obtain ⟨high, hhigh⟩ := hcolumn postingTable "max_salary_mdl"
  cases low with
  | true => exact ⟨high, by simp only [hasConversion, hlow, bind, Except.bind, if_true, hhigh]⟩
  | false => exact ⟨false, by simp only [hasConversion, hlow, bind, Except.bind]; rfl⟩

namespace Database

variable {db : Database} {c : Criteria} {search : String} {policy : Policy}

/-- A slice whose bounds fit the storage shows a part of the listing. -/
theorem Conforms.run_slice (hdb : db.Conforms) (hc : c.Normal) (hn : c.Countable)
    (search : String) (policy : Policy) (s : SortChoice) (converted : Bool) {size offset : Nat} (hsize : size < twoTo 63)
    (hoffset : offset < twoTo 63) :
    ∃ r : Result Cell,
      (Store.readable db).run
          (Statement.slice (c.predicate search policy) s converted size offset) = .ok r ∧
      r.documents = (((db.listed c search policy s).drop offset).take size).map fun j =>
        document (shownColumns converted) [db.joined
          (displayFields ++ (c.predicate search policy).referenced ++ s.field?.toList) j] := by
  have hparams : (Statement.slice (c.predicate search policy) s converted size
      offset).params.all Cell.fits = true :=
    Statement.all_fits rfl (hn.fits_predicate search policy)
      (Or.inr ⟨size, offset, rfl, fits_natCast hsize, fits_natCast hoffset⟩)
  have hrun := Store.run_readable
    (hdb.kept_slice hc search policy s converted size offset) hparams
  refine ⟨_, hrun, ?_⟩
  rw [lines_slice fun f hf => by simp [Option.mem_def.mp hf]]
  rw [show (Statement.slice (c.predicate search policy) s converted size offset).window =
    .slice size offset from rfl, cut_slice, ← List.map_drop, ← List.map_take]
  rw [documents_eq, List.map_map]
  rfl

/-- A page shows its part of the listing, with the number of all postings that match. -/
theorem Readable.page_eq_ok (hdb : db.Readable) (hc : c.Normal) (hfields : c.Filterable)
    (hn : c.Countable) (atOnce : Bool) (sortKey : Option String) {size k : Nat} (hsize : 0 < size)
    (hfit : size < twoTo 63) (hoffset : k * size < twoTo 63) {pages : Int}
    (hpages : totalPages (db.matching c search policy).length size = .ok pages) :
    ∃ ps : List Posting,
      (Store.readable db).page atOnce ⟨k + 1, size, c, search, sortKey, policy⟩ =
        .ok ⟨ps, (db.matching c search policy).length, pages, k + 1, size⟩ ∧
      ps.map (·.id) =
        (((db.listed c search policy (SortChoice.ofKey sortKey)).drop (k * size)).take size).map
          idOf := by
  obtain ⟨converted, hconverted⟩ := Store.hasConversion_readable db
  obtain ⟨r, hr, hdocuments⟩ := hdb.run_slice hc hn search policy
    (SortChoice.ofKey sortKey) converted hfit hoffset
  have hstatement : Statement.page (c.predicate search policy) sortKey ((k : Int) + 1) size
      converted = .ok (Statement.slice (c.predicate search policy) (SortChoice.ofKey sortKey)
        converted size ((k * size : Nat) : Int)) := by
    rw [Statement.page_eq_ok_iff]
    refine ⟨by omega, by omega, ?_⟩
    rw [Int.add_sub_cancel, Nat.cast_mul]
  have hshown : ∀ j ∈ ((db.listed c search policy (SortChoice.ofKey sortKey)).drop
      (k * size)).take size, j ∈ db.postings := fun j hj =>
    mem_postings_of_mem_listed (List.mem_of_mem_drop (List.mem_of_mem_take hj))
  have htyped : ∀ j ∈ db.postings, Posting.Typed (.object (document (shownColumns converted)
      [db.joined (displayFields ++ (c.predicate search policy).referenced ++
        (SortChoice.ofKey sortKey).field?.toList) j])) (idOf j) := fun j hj =>
    hdb.typed_document converted hj (Shows.joined db _ j) fun f hf => by
      rw [List.append_assoc]
      exact List.mem_append_left _ hf
  have hids : r.documents.mapM rowId = .ok
      ((((db.listed c search policy (SortChoice.ofKey sortKey)).drop (k * size)).take size).map
        idOf) := by
    rw [hdocuments]
    refine mapM_eq_ok (List.forall₂_map_left_iff.mpr (List.forall₂_same.mpr fun j hj => ?_))
    exact (htyped j (hshown j hj)).readId
  have hrows : ∀ row ∈ r.documents,
      ∃ id, Posting.Typed (.object row) id ∧ (Cell.int id).fits = true := by
    intro row hrow
    rw [hdocuments] at hrow
    obtain ⟨j, hj, rfl⟩ := List.mem_map.mp hrow
    exact ⟨idOf j, htyped j (hshown j hj), hdb.postings.fits_id (hshown j hj)⟩
  obtain ⟨ps, hps, hread⟩ := hdb.attachTo_eq_ok atOnce hrows
  refine ⟨ps, ?_, ?_⟩
  · simp only [Store.page, Predicate.compile_eq_ok hfields, Except.mapError, hdb.count_eq_ok hc hn,
      hconverted, hstatement, hr, hps, hpages, bind, Except.bind, pure, Except.pure]
  · exact Except.ok.inj ((mapM_eq_ok hread).symm.trans hids)

/-! ### All pages -/

/-- Every page whose offset fits the storage shows its part of the listing and tells the same
numbers of postings and of pages. -/
theorem Readable.exists_postings (hdb : db.Readable) (hmax : db.postings.length ≤ twoTo 53)
    (hc : c.Normal) (hfields : c.Filterable) (hn : c.Countable) (search : String)
    (policy : Policy) (sortKey : Option String) (atOnce : Bool) {size : Nat} (hsize : 0 < size)
    (hfit : size < twoTo 63) :
    ∃ postings : Nat → List Posting, ∀ k, k * size < twoTo 63 →
      (Store.readable db).page atOnce ⟨k + 1, size, c, search, sortKey, policy⟩ =
        .ok ⟨postings k, (db.matching c search policy).length,
          pageCount (db.matching c search policy).length size, k + 1, size⟩ ∧
      (postings k).map (·.id) =
        (((db.listed c search policy (SortChoice.ofKey sortKey)).drop (k * size)).take size).map
          idOf := by
  have htotal : (db.matching c search policy).length ≤ twoTo 53 :=
    (List.length_filter_le _ _).trans hmax
  have hchoice : ∀ k, ∃ ps : List Posting, k * size < twoTo 63 →
      (Store.readable db).page atOnce ⟨k + 1, size, c, search, sortKey, policy⟩ =
        .ok ⟨ps, (db.matching c search policy).length,
          pageCount (db.matching c search policy).length size, k + 1, size⟩ ∧
      ps.map (·.id) =
        (((db.listed c search policy (SortChoice.ofKey sortKey)).drop (k * size)).take size).map
          idOf := by
    intro k
    by_cases hk : k * size < twoTo 63
    · obtain ⟨ps, h⟩ := hdb.page_eq_ok hc hfields hn atOnce sortKey hsize hfit hk
        (totalPages_eq hsize hfit htotal)
      exact ⟨ps, fun _ => h⟩
    · exact ⟨[], fun h => absurd h hk⟩
  choose postings hpostings using hchoice
  exact ⟨postings, hpostings⟩

/-- The pages together list every posting that matches once, in order. All but the last one are
full, the last one is not empty, and further pages are; each of them tells the number of postings
and of pages. -/
theorem pages_partition_matching (hdb : db.Readable) (hmax : db.postings.length ≤ twoTo 53)
    (hc : c.Normal) (hfields : c.Filterable) (hn : c.Countable) (search : String)
    (policy : Policy) (sortKey : Option String) (atOnce : Bool) {size : Nat} (hsize : 0 < size)
    (hfit : size < twoTo 63) :
    ∃ (listed : List Row) (pages : List Page),
      listed.Perm (db.matching c search policy) ∧
      listed.Pairwise (db.Precedes (SortChoice.ofKey sortKey)) ∧
      (pages.flatMap fun p => p.postings.map (·.id)) = listed.map idOf ∧
      (∀ k (hk : k < pages.length),
        (Store.readable db).page atOnce ⟨k + 1, size, c, search, sortKey, policy⟩ =
          .ok pages[k] ∧
        pages[k].total = listed.length ∧ pages[k].pages = pages.length ∧
        pages[k].postings ≠ [] ∧ (k + 1 < pages.length → pages[k].postings.length = size)) ∧
      ∀ k, pages.length ≤ k → k * size < twoTo 63 → ∃ p,
        (Store.readable db).page atOnce ⟨k + 1, size, c, search, sortKey, policy⟩ = .ok p ∧
        p.total = listed.length ∧ p.pages = pages.length ∧ p.postings = [] := by
  obtain ⟨postings, hpage⟩ := hdb.exists_postings hmax hc hfields hn search policy sortKey atOnce
    hsize hfit
  have hperm := db.listed_perm c search policy (SortChoice.ofKey sortKey)
  have hpairs := hdb.listed_pairwise c search policy (SortChoice.ofKey sortKey)
  rw [← hperm.length_eq] at hpage
  generalize db.listed c search policy (SortChoice.ofKey sortKey) = listed at hperm hpairs hpage
  have hcount : listed.length ≤ twoTo 53 :=
    hperm.length_eq.le.trans ((List.length_filter_le _ _).trans hmax)
  have hbound : ∀ k, k < pageCount listed.length size → k * size < twoTo 63 :=
    fun k hk => offset_lt hsize hk hcount
  have hlength : ∀ k, k * size < twoTo 63 →
      (postings k).length = min size (listed.length - k * size) := by
    intro k hk
    simpa using congrArg List.length (hpage k hk).2
  refine ⟨listed, (List.range (pageCount listed.length size)).map fun k =>
    ⟨postings k, listed.length, pageCount listed.length size, k + 1, size⟩, hperm, hpairs, ?_,
    fun k hk => ?_, fun k hk hoffset => ?_⟩
  · rw [List.flatMap_map]
    calc ((List.range (pageCount listed.length size)).flatMap fun k => (postings k).map (·.id))
        = (List.range (pageCount listed.length size)).flatMap fun k =>
            ((listed.map idOf).drop (k * size)).take size := by
          refine List.flatMap_congr fun k hk => ?_
          rw [(hpage k (hbound k (List.mem_range.mp hk))).2, List.map_take, List.map_drop]
      _ = listed.map idOf := by
          have hpages := flatMap_pages (listed.map idOf) hsize
          rwa [List.length_map] at hpages
  · simp only [List.length_map, List.length_range] at hk ⊢
    have hlt := (lt_pageCount_iff hsize).mp hk
    have hlen := hlength k (hbound k hk)
    simp only [List.getElem_map, List.getElem_range]
    refine ⟨(hpage k (hbound k hk)).1, trivial, trivial, ?_, fun hnext => ?_⟩
    · rw [← List.length_pos_iff, hlen]
      omega
    · have hlt := (lt_pageCount_iff hsize).mp hnext
      rw [Nat.succ_mul] at hlt
      rw [hlen]
      omega
  · simp only [List.length_map, List.length_range] at hk ⊢
    refine ⟨_, (hpage k hoffset).1, rfl, rfl, ?_⟩
    have hge : listed.length ≤ k * size :=
      Nat.not_lt.mp fun h => absurd ((lt_pageCount_iff hsize).mpr h) (by omega)
    rw [← List.length_eq_zero_iff, hlength k hoffset]
    omega

/-- The pages of the small dataset, two jobs a page. -/
theorem pages_of_sample : ∃ pages : List Page,
    (pages.flatMap fun p => p.postings.map (·.id)).Perm [7, 3, 5] ∧
    ∀ k (hk : k < pages.length), (Store.readable Dataset.sample.database).page true
      ⟨k + 1, 2, .sample, "", some "city", .all⟩ = .ok pages[k] := by
  have hids : (Dataset.sample.database.matching .sample "" .all).map idOf = [7, 3, 5] := by
    decide +kernel
  have hmax : Dataset.sample.database.postings.length ≤ twoTo 53 := by decide +kernel
  obtain ⟨listed, pages, hperm, -, hflat, hpages, -⟩ := pages_partition_matching
    (Dataset.storable_sample.readable Dataset.typed_sample) hmax Criteria.normal_sample Criteria.filterable_sample
    Criteria.countable_sample "" .all (some "city") true (show 0 < 2 by decide) (by decide)
  refine ⟨pages, ?_, fun k hk => (hpages k hk).1⟩
  rw [hflat, ← hids]
  exact hperm.map idOf

end Database

end JobSearch
