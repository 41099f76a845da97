import JobSearch.Proofs.Grouping
import JobSearch.Proofs.Query.Joins
import JobSearch.Proofs.Query.Truth

/-!
# Who carries several labels

The inner statement of a field with several labels groups the rows with a wanted label by their
owner and keeps the groups with as many distinct labels as were wanted. Because the wanted labels
are distinct and the labels of a group are counted without repetitions, the owners that it finds
are those with a row for every wanted label (`Carriers.find_eq_ok`), however often rows and
labels repeat. For the statement of a field these are the postings that carry all of the labels
(`Database.Conforms.find_carriers`).
-/

namespace JobSearch

open Query

/-- Cells that hold labels are counted by the labels that occur among them. -/
theorem countDistinct_eq_iff {cells : List Cell} {labels : List String} (hn : labels.Nodup)
    (hsub : ∀ c ∈ cells, ∃ l ∈ labels, c = .text l) :
    Carriers.countDistinct cells = labels.length ↔ ∀ l ∈ labels, .text l ∈ cells := by
  have hkeys : (labels.map fun l => Cell.Key.text l).Nodup :=
    hn.map fun _ _ h => by injection h
  have hmem : ∀ k, k ∈ (cells.map Cell.key).filter (· ≠ .nothing) ↔
      ∃ l ∈ labels, Cell.text l ∈ cells ∧ k = .text l := by
    intro k
    simp only [List.mem_filter, List.mem_map, decide_not, Bool.not_eq_true',
      decide_eq_false_iff_not]
    constructor
    · rintro ⟨⟨c, hc, rfl⟩, -⟩
      obtain ⟨l, hl, rfl⟩ := hsub c hc
      exact ⟨l, hl, hc, rfl⟩
    · rintro ⟨l, hl, hc, rfl⟩
      exact ⟨⟨_, hc, rfl⟩, by simp⟩
  have hwanted : ∀ k ∈ (cells.map Cell.key).filter (· ≠ .nothing), k ∈ labels.map Cell.Key.text := by
    intro k hk
    obtain ⟨l, hl, -, rfl⟩ := (hmem k).mp hk
    exact List.mem_map_of_mem hl
  have hiff := length_distinct_eq_iff hkeys hwanted
  rw [List.length_map] at hiff
  rw [Carriers.countDistinct, hiff]
  constructor
  · intro h l hl
    obtain ⟨l', -, hc, he⟩ := (hmem _).mp (h _ (List.mem_map_of_mem hl))
    injection he with he
    exact he ▸ hc
  · intro h k hk
    obtain ⟨l, hl, rfl⟩ := List.mem_map.mp hk
    exact (hmem _).mpr ⟨l, hl, h l hl, rfl⟩

/-- An integer is one of several cells if one of them has its key. -/
theorem Cell.holds_int_oneOf (n : Int) (cells : List Cell) :
    ((Cell.int n).oneOf cells).holds = true ↔ ∃ c ∈ cells, c.key = (Cell.int n).key := by
  simp only [Cell.holds_oneOf, Cell.holds_int_equals]

namespace Query.Carriers

variable {db : Database} {c : Carriers} {labels : List String}

/-- A group of rows with wanted labels is full if every wanted label occurs in it. -/
theorem full_iff (hwanted : c.wanted = labels.map .text) (hn : labels.Nodup) {g : List Joined}
    (hg : ∀ r ∈ g, ∃ l ∈ labels, r.cell c.label = .text l) :
    ((Cell.int (countDistinct (g.map (·.cell c.label)))).equals (.int c.wanted.length)).holds =
        true ↔
      ∀ l ∈ labels, ∃ r ∈ g, r.cell c.label = .text l := by
  have hcells : ∀ x ∈ g.map (·.cell c.label), ∃ l ∈ labels, x = .text l := by
    intro x hx
    obtain ⟨r, hr, rfl⟩ := List.mem_map.mp hx
    exact hg r hr
  have hcount := countDistinct_eq_iff hn hcells
  simp only [List.mem_map] at hcount
  rw [Cell.holds_equals_int, hwanted, List.length_map, ← hcount]
  exact ⟨fun h => Int.ofNat.inj (Cell.key_int_inj h), fun h => by rw [h]⟩

/-- The inner statement finds the owners that have a row for every wanted label. -/
theorem find_eq_ok {rows : List Joined} (hrows : c.source.rows db = .ok rows)
    (hlabel : ∀ r ∈ rows, (r.cell c.label).IsLabel) (hwanted : c.wanted = labels.map .text)
    (hn : labels.Nodup) (hne : labels ≠ []) :
    ∃ owners, c.find db = .ok owners ∧ ∀ n, ((Cell.int n).oneOf owners).holds = true ↔
      ∀ l ∈ labels, ∃ r ∈ rows,
        (r.cell c.owner).key = (Cell.int n).key ∧ r.cell c.label = .text l := by
  have hmem : ∀ r, r ∈ rows.filter (fun r => ((r.cell c.label).oneOf c.wanted).holds) ↔
      r ∈ rows ∧ ∃ l ∈ labels, r.cell c.label = .text l := by
    intro r
    rw [List.mem_filter, hwanted]
    exact and_congr_right fun hr => (hlabel r hr).holds_oneOf labels
  refine ⟨_, by rw [Carriers.find, hrows], fun n => ?_⟩
  rw [Cell.holds_int_oneOf]
  generalize rows.filter (fun r => ((r.cell c.label).oneOf c.wanted).holds) = kept at hmem
  constructor
  · rintro ⟨x, hx, hxn⟩ l hl
    obtain ⟨g, hg, hgx⟩ := List.mem_filterMap.mp hx
    obtain ⟨hg, hcount⟩ := List.mem_filter.mp hg
    obtain ⟨r, -, hhead, rfl⟩ := head?_of_mem_groupsBy hg
    obtain rfl : r.cell c.owner = x := by simpa [hhead] using hgx
    have hgroup := full_iff hwanted hn (g := kept.filter fun y =>
      (y.cell c.owner).key = (r.cell c.owner).key)
      fun s hs => ((hmem s).mp (List.mem_filter.mp hs).1).2
    obtain ⟨s, hs, hsl⟩ := hgroup.mp hcount l hl
    obtain ⟨hs, hkey⟩ := List.mem_filter.mp hs
    exact ⟨s, ((hmem s).mp hs).1, (of_decide_eq_true hkey).trans hxn, hsl⟩
  · intro h
    -- The group of the owner has a row for every wanted label, of which there is one.
    obtain ⟨l₀, hl₀⟩ := List.exists_mem_of_ne_nil labels hne
    obtain ⟨r₀, hr₀, hown₀, hlab₀⟩ := h l₀ hl₀
    have hg : kept.filter (fun y => (y.cell c.owner).key = (r₀.cell c.owner).key) ∈
        groupsBy (fun r => (r.cell c.owner).key) kept :=
      mem_groupsBy.mpr ⟨r₀, (hmem r₀).mpr ⟨hr₀, l₀, hl₀, hlab₀⟩, rfl⟩
    obtain ⟨r, -, hhead, -⟩ := head?_of_mem_groupsBy hg
    have hr := List.mem_filter.mp (List.mem_of_mem_head? hhead)
    have hfull := (full_iff hwanted hn (g := kept.filter fun y =>
      (y.cell c.owner).key = (r₀.cell c.owner).key)
      fun s hs => ((hmem s).mp (List.mem_filter.mp hs).1).2).mpr fun l hl => by
        obtain ⟨s, hs, hown, hlab⟩ := h l hl
        exact ⟨s, List.mem_filter.mpr ⟨(hmem s).mpr ⟨hs, l, hl, hlab⟩, by simp [hown, hown₀]⟩,
          hlab⟩
    exact ⟨r.cell c.owner,
      List.mem_filterMap.mpr ⟨_, List.mem_filter.mpr ⟨hg, hfull⟩, by simp [hhead]⟩,
      (of_decide_eq_true hr.2).trans hown₀⟩

end Query.Carriers

namespace Database

variable {db : Database}

/-- The rows in which the label table of a field with children is read by itself. -/
theorem Conforms.childRows (hdb : db.Conforms) (f : Field) (q : String) :
    Source.rows db ⟨f.entry.table, q, []⟩ =
      .ok ((db.stored f.entry.table).map fun row => [(q, row)]) := by
  rw [Source.rows, hdb.rowsOf_labels]
  rfl

/-- The rows of the pairs of a field joined with its labels. -/
theorem Conforms.pairRows (hdb : db.Conforms) {f : Field} {pairs owner : String}
    (hf : f.entry.shape = .junction pairs owner) {pair label : String} (h : label ≠ pair) :
    Source.rows db ⟨pairs, pair,
        [⟨.inner, f.entry.table, label, ⟨pair, f.entry.foreignKey⟩, ⟨label, "id"⟩⟩]⟩ =
      .ok ((db.stored pairs).flatMap fun p =>
        (db.referred f (p.cell f.entry.foreignKey)).map fun row => [(label, row), (pair, p)]) := by
  simp only [Source.rows, hdb.rowsOf_pairs hf, joinAll, hdb.rowsOf_labels, List.flatMap_map]
  refine congrArg (fun g => Except.ok ((db.stored pairs).flatMap g)) (funext fun p => ?_)
  rw [extend_referred f h, Joined.cell_cons_self]

/-- A posting carries a label of a field with children if it owns a row with the label. -/
theorem Conforms.carries_children (hdb : db.Conforms) {f : Field} (hf : f.entry.shape = .children)
    {j : Row} (hj : j ∈ db.postings) (l : String) :
    db.Carries f j l ↔ ∃ row ∈ db.stored f.entry.table,
      (row.cell f.entry.foreignKey).key = (Cell.int (idOf j)).key ∧
        row.cell f.entry.labelColumn = .text l := by
  simp only [Carries, Database.labels, hf, hdb.cell_id hj, List.mem_map, List.mem_filter,
    Cell.holds_int_equals, and_assoc]

/-- A posting carries a label of a field with pairs if one of its pairs refers to the label. -/
theorem Conforms.carries_junction (hdb : db.Conforms) {f : Field} {pairs owner : String}
    (hf : f.entry.shape = .junction pairs owner) {j : Row} (hj : j ∈ db.postings) (l : String) :
    db.Carries f j l ↔ ∃ p ∈ db.stored pairs, (p.cell owner).key = (Cell.int (idOf j)).key ∧
      ∃ row ∈ db.referred f (p.cell f.entry.foreignKey), row.cell f.entry.labelColumn = .text l := by
  simp only [Carries, Database.labels, hf, hdb.cell_id hj, List.mem_map, List.mem_flatMap, List.mem_filter,
    Cell.holds_int_equals, and_assoc]

theorem Conforms.find_children (hdb : db.Conforms) {f : Field} (hf : f.entry.shape = .children)
    {wanted : List String} (hn : wanted.Nodup) (hne : wanted ≠ []) :
    ∃ owners, (f.carriers wanted).find db = .ok owners ∧ ∀ j ∈ db.postings,
      (((j.cell "id").oneOf owners).holds = true ↔ ∀ l ∈ wanted, db.Carries f j l) := by
  have hcarriers : f.carriers wanted =
      ⟨⟨f.entry.qualifier ++ "_f", f.entry.foreignKey⟩, ⟨f.entry.table, f.entry.qualifier ++ "_f", []⟩,
        ⟨f.entry.qualifier ++ "_f", f.entry.labelColumn⟩, wanted.map .text⟩ := by
    simp only [Field.carriers, hf]
  have hrows := hdb.childRows f (f.entry.qualifier ++ "_f")
  have hlabel : ∀ r ∈ (db.stored f.entry.table).map fun row => [(f.entry.qualifier ++ "_f", row)],
      (Joined.cell r ⟨f.entry.qualifier ++ "_f", f.entry.labelColumn⟩).IsLabel := by
    intro r hr
    obtain ⟨row, hrow, rfl⟩ := List.mem_map.mp hr
    rw [Joined.cell_cons_self]
    exact hdb.labels f row hrow
  rw [hcarriers]
  obtain ⟨owners, hfind, hown⟩ := Carriers.find_eq_ok (c := ⟨_, _, _, _⟩) hrows hlabel rfl hn hne
  refine ⟨owners, hfind, fun j hj => ?_⟩
  rw [hdb.cell_id hj, hown]
  refine forall₂_congr fun l _ => ?_
  rw [hdb.carries_children hf hj]
  simp only [List.mem_map, exists_exists_and_eq_and, Joined.cell_cons_self]

theorem Conforms.find_junction (hdb : db.Conforms) {f : Field} {pairs owner : String}
    (hf : f.entry.shape = .junction pairs owner) {wanted : List String} (hn : wanted.Nodup)
    (hne : wanted ≠ []) :
    ∃ owners, (f.carriers wanted).find db = .ok owners ∧ ∀ j ∈ db.postings,
      (((j.cell "id").oneOf owners).holds = true ↔ ∀ l ∈ wanted, db.Carries f j l) := by
  obtain ⟨pair, hpair⟩ : ∃ pair, pair = f.entry.qualifier ++ "_fj" := ⟨_, rfl⟩
  obtain ⟨label, hlab⟩ : ∃ label, label = f.entry.qualifier ++ "_fl" := ⟨_, rfl⟩
  have hne' : label ≠ pair := by simp [hpair, hlab]
  have hcarriers : f.carriers wanted =
      ⟨⟨pair, owner⟩, ⟨pairs, pair,
          [⟨.inner, f.entry.table, label, ⟨pair, f.entry.foreignKey⟩, ⟨label, "id"⟩⟩]⟩,
        ⟨label, f.entry.labelColumn⟩, wanted.map .text⟩ := by
    simp only [Field.carriers, hf, hpair, hlab]
  have hrows := hdb.pairRows hf hne'
  have hlabel : ∀ r ∈ (db.stored pairs).flatMap (fun p =>
      (db.referred f (p.cell f.entry.foreignKey)).map fun row => [(label, row), (pair, p)]),
      (Joined.cell r ⟨label, f.entry.labelColumn⟩).IsLabel := by
    intro r hr
    obtain ⟨p, -, hr⟩ := List.mem_flatMap.mp hr
    obtain ⟨row, hrow, rfl⟩ := List.mem_map.mp hr
    rw [Joined.cell_cons_self]
    exact hdb.labels f row (mem_stored_of_mem_referred hrow)
  rw [hcarriers]
  obtain ⟨owners, hfind, hown⟩ := Carriers.find_eq_ok (c := ⟨_, _, _, _⟩) hrows hlabel rfl hn hne
  refine ⟨owners, hfind, fun j hj => ?_⟩
  rw [hdb.cell_id hj, hown]
  refine forall₂_congr fun l _ => ?_
  rw [hdb.carries_junction hf hj]
  simp only [List.mem_flatMap, List.mem_map]
  constructor
  · rintro ⟨_, ⟨p, hp, row, hrow, rfl⟩, hkey, hl⟩
    rw [Joined.cell_cons_of_ne hne', Joined.cell_cons_self] at hkey
    rw [Joined.cell_cons_self] at hl
    exact ⟨p, hp, hkey, row, hrow, hl⟩
  · rintro ⟨p, hp, hkey, row, hrow, hl⟩
    refine ⟨_, ⟨p, hp, row, hrow, rfl⟩, ?_, ?_⟩
    · rw [Joined.cell_cons_of_ne hne', Joined.cell_cons_self, hkey]
    · rw [Joined.cell_cons_self, hl]

/-- The inner statement of a field finds the postings that carry all wanted labels. -/
theorem Conforms.find_carriers (hdb : db.Conforms) {f : Field} (hf : f.entry.shape ≠ .lookup)
    {wanted : List String} (hn : wanted.Nodup) (hne : wanted ≠ []) :
    ∃ owners, (f.carriers wanted).find db = .ok owners ∧ ∀ j ∈ db.postings,
      (((j.cell "id").oneOf owners).holds = true ↔ ∀ l ∈ wanted, db.Carries f j l) := by
  cases h : f.entry.shape with
  | lookup => exact absurd h hf
  | children => exact hdb.find_children h hn hne
  | junction pairs owner => exact hdb.find_junction h hn hne

end Database

end JobSearch
