import JobSearch.Proofs.Query.Joins
import JobSearch.Proofs.Query.Scope
import JobSearch.Proofs.Report.Filled
import JobSearch.Proofs.Statement.Accepted
import JobSearch.Proofs.Statement.Conditions

/-!
# Every qualifier stands for one table

The tables of a statement are that of postings, those of the fields it looks at, which are needed
for what is shown, sorted by, filtered by and searched, and those that lead to the labels of a
field with several. The tables of a standing report come besides. They are put together from
several lists of fields that overlap in any way, but every statement is scoped
(`aliases_scoped`): the qualifiers of fields are distinct, each field is joined once, and whatever
the condition looks at is joined.

## Main definitions

* `Field.innerQualifiers` — the qualifiers of the inner statement of a field.
-/

namespace JobSearch

open Query

variable {c : Criteria} {search : String} {policy : Policy}

/-! ### The qualifiers of fields -/

namespace Field

variable {f g : Field} {q : String}

/-- The qualifiers of the inner statement of a field. -/
def innerQualifiers (f : Field) : List String := (f.carriers []).source.qualifiers

theorem qualifiers_carriers (f : Field) (labels : List String) :
    (f.carriers labels).source.qualifiers = f.innerQualifiers := by
  rw [carriers_eq]
  rfl

theorem nodup_own (f : Field) : f.qualifiers.Nodup :=
  (List.nodup_flatMap.mp (List.nodup_cons.mp nodup_qualifiers).2).1 f f.mem_all

/-- The tables that lead to the labels of a field with several and those of its inner statement have
the qualifiers of the field. -/
theorem perm_qualifiers (hf : f.isMultiValued = true) :
    (f.labelJoins.map Join.qualifier ++ f.innerQualifiers).Perm f.qualifiers := by
  rw [innerQualifiers, labelJoins, carriers, qualifiers]
  cases hshape : f.entry.shape with
  | lookup => simp [isMultiValued, hshape] at hf
  | children => exact .refl _
  | junction pairs owner => exact .swap _ _ _

theorem mem_qualifiers_of_inner (hf : f.isMultiValued = true) (hq : q ∈ f.innerQualifiers) :
    q ∈ f.qualifiers :=
  (perm_qualifiers hf).subset (List.mem_append_right _ hq)

/-- An inner statement uses its own tables only. -/
theorem scoped_carriers (f : Field) (labels : List String) : (f.carriers labels).Scoped := by
  rw [carriers]
  split
  · next pairs owner _ =>
    exact ⟨by simp [Source.qualifiers], by simp [Chained]⟩
  · exact ⟨by simp [Source.qualifiers], trivial⟩

/-- The tables of inner statements go by distinct qualifiers. -/
theorem nodup_inner {fs : List Field} (hfs : fs.Nodup) (hmulti : ∀ f ∈ fs, f.isMultiValued = true) :
    (fs.flatMap innerQualifiers).Nodup := by
  refine List.nodup_flatMap.mpr ⟨fun f hf => ?_, ?_⟩
  · exact List.Nodup.of_append_right ((perm_qualifiers (hmulti f hf)).nodup_iff.mpr f.nodup_own)
  · refine hfs.imp_of_mem fun {f g} hf hg hne => ?_
    intro q hqf hqg
    exact hne (eq_of_mem_qualifiers (mem_qualifiers_of_inner (hmulti f hf) hqf)
      (mem_qualifiers_of_inner (hmulti g hg) hqg))

end Field

/-- Distinct qualifiers by which no table of postings, of a joined field or of an inner statement
goes. -/
structure Apart (qs : List String) : Prop where
  nodup : qs.Nodup
  posting : postingQualifier ∉ qs
  joined : ∀ q ∈ qs, ∀ f : Field, f.entry.shape = .lookup → q ≠ f.entry.qualifier
  inner : ∀ q ∈ qs, ∀ f : Field, f.isMultiValued = true → q ∉ f.innerQualifiers

theorem apart_nil : Apart [] := by constructor <;> simp

theorem Field.ne_of_shape {f g : Field} (hf : f.entry.shape = .lookup)
    (hg : g.isMultiValued = true) : f ≠ g := by
  rintro rfl
  exact isMultiValued_iff.mp hg hf

/-- The tables that lead to the labels of a field have qualifiers of their own. -/
theorem apart_labelJoins (f : Field) : Apart (f.labelJoins.map Join.qualifier) := by
  cases hf : f.isMultiValued with
  | false =>
    have hnil : f.labelJoins = [] := by
      rw [Field.labelJoins, Field.isMultiValued_eq_false_iff.mp hf]
    rw [hnil]
    exact apart_nil
  | true =>
    have hnodup := (Field.perm_qualifiers hf).nodup_iff.mpr f.nodup_own
    have hmem : ∀ q ∈ f.labelJoins.map Join.qualifier, q ∈ f.qualifiers := fun q hq =>
      (Field.perm_qualifiers hf).subset (List.mem_append_left _ hq)
    refine ⟨hnodup.of_append_left, fun hq => Field.ne_postingQualifier (hmem _ hq) rfl, ?_, ?_⟩
    · rintro q hq g hg rfl
      exact Field.ne_of_shape hg hf (Field.eq_of_mem_qualifiers g.mem_qualifiers_self (hmem _ hq))
    · intro q hq g hg hqg
      obtain rfl := Field.eq_of_mem_qualifiers (hmem q hq) (Field.mem_qualifiers_of_inner hg hqg)
      exact List.disjoint_of_nodup_append hnodup hq hqg

/-- The tables of postings, of joined fields and some others go by distinct qualifiers, and so do
those of inner statements. -/
theorem nodup_scope {joined inner : List Field} {others : List String} (hj : joined.Nodup)
    (hlookup : ∀ f ∈ joined, f.entry.shape = .lookup) (hi : inner.Nodup)
    (hmulti : ∀ f ∈ inner, f.isMultiValued = true) (ho : Apart others) :
    (postingQualifier :: (joined.map (·.entry.qualifier) ++ others) ++
      inner.flatMap Field.innerQualifiers).Nodup := by
  have hjoined : (joined.map (·.entry.qualifier)).Nodup :=
    hj.map_on fun f _ g _ h => Field.qualifier_inj h
  rw [List.cons_append, List.nodup_cons, List.nodup_append', List.nodup_append']
  refine ⟨?_, ⟨hjoined, ho.nodup, ?_⟩, Field.nodup_inner hi hmulti, ?_⟩
  · simp only [List.mem_append, not_or, List.mem_map, List.mem_flatMap, not_exists, not_and]
    exact ⟨⟨fun f _ => f.qualifier_ne_posting, ho.posting⟩, fun f hf hq =>
      Field.ne_postingQualifier (Field.mem_qualifiers_of_inner (hmulti f hf) hq) rfl⟩
  · intro q hq hqo
    obtain ⟨f, hf, rfl⟩ := List.mem_map.mp hq
    exact ho.joined _ hqo f (hlookup f hf) rfl
  · intro q hq hqi
    obtain ⟨g, hg, hqg⟩ := List.mem_flatMap.mp hqi
    rcases List.mem_append.mp hq with hq | hq
    · obtain ⟨f, hf, rfl⟩ := List.mem_map.mp hq
      exact Field.ne_of_shape (hlookup f hf) (hmulti g hg) (Field.eq_of_mem_qualifiers
        f.mem_qualifiers_self (Field.mem_qualifiers_of_inner (hmulti g hg) hqg))
    · exact ho.inner q hq g (hmulti g hg) hqg

/-! ### The tables of statements -/

theorem qualifiers_postingSource (fields : List Field) :
    (postingSource fields).qualifiers =
      postingQualifier :: (Field.joinedOf fields).map (·.entry.qualifier) := by
  rw [Source.qualifiers, postingSource, lookupJoins, List.map_map]
  rfl

theorem Field.qualifiers_labelSource (f : Field) (others : List Field) :
    (f.labelSource others).qualifiers = postingQualifier ::
      ((joinedOf (others ++ if f.isMultiValued then [] else [f])).map (·.entry.qualifier) ++
        f.labelJoins.map Join.qualifier) := by
  have hbase := qualifiers_postingSource (others ++ if f.isMultiValued then [] else [f])
  rw [Source.qualifiers] at hbase
  rw [Source.qualifiers, labelSource, List.map_append, ← List.cons_append, hbase]
  rfl

/-- The table of a field that is looked at is joined. -/
theorem mem_qualifiers_postingSource {fields : List Field} {f : Field} (hf : f ∈ fields)
    (hlookup : f.entry.shape = .lookup) :
    f.entry.qualifier ∈ (postingSource fields).qualifiers := by
  rw [qualifiers_postingSource]
  exact List.mem_cons_of_mem _
    (List.mem_map.mpr ⟨f, Field.mem_joinedOf.mpr ⟨hf, hlookup⟩, rfl⟩)

theorem nodup_joinedOf (fields : List Field) : (Field.joinedOf fields).Nodup :=
  Field.nodup_all.filter _

/-- Lookup tables are joined with postings. -/
theorem chained_lookupJoins (fields : List Field) :
    Chained [postingQualifier] (fields.map Field.lookupJoin) := by
  refine Chained.of_forall fun j hj => ?_
  obtain ⟨f, -, rfl⟩ := List.mem_map.mp hj
  simp [Field.lookupJoin]

theorem chained_labelJoins (f : Field) : Chained [postingQualifier] f.labelJoins := by
  rw [Field.labelJoins]
  split <;> simp [Chained, postingId]

/-- A statement with inner statements of distinct fields is scoped if its tables are those of
postings, of joined fields and some others with qualifiers of their own, and it uses their
qualifiers only. -/
theorem scoped_of_source {s : Statement} {joined inner : List Field} {others : List String}
    {labels : Field → List String}
    (hsource : s.source.qualifiers.Perm
      (postingQualifier :: (joined.map (·.entry.qualifier) ++ others)))
    (hj : joined.Nodup) (hlookup : ∀ f ∈ joined, f.entry.shape = .lookup) (ho : Apart others)
    (hi : inner.Nodup) (hmulti : ∀ f ∈ inner, f.isMultiValued = true)
    (hs : s.inner = inner.map fun f => f.carriers (labels f))
    (hjoined : Chained [s.source.qualifier] s.source.joins)
    (hused : ∀ q ∈ s.used, q ∈ s.source.qualifiers) : s.Scoped := by
  refine .of_nodup hused ?_ hjoined fun d hd => ?_
  · rw [hs, List.flatMap_map]
    simp only [Field.qualifiers_carriers]
    rw [(hsource.append_right _).nodup_iff]
    exact nodup_scope hj hlookup hi hmulti ho
  · rw [hs] at hd
    obtain ⟨f, -, rfl⟩ := List.mem_map.mp hd
    exact f.scoped_carriers _

/-- The selected fields with several labels, which have inner statements. -/
def Criteria.asked (c : Criteria) : List Field := c.chosen.filter Field.isMultiValued

theorem nodup_asked (c : Criteria) : c.asked.Nodup := (Field.nodup_all.filter _).filter _

theorem isMultiValued_of_asked {f : Field} (hf : f ∈ c.asked) : f.isMultiValued = true :=
  (List.mem_filter.mp hf).2

/-- A statement about criteria whose only tables are those of postings and joined fields is scoped
if it uses their qualifiers only. -/
theorem scoped_of_postingSource {s : Statement} {fields : List Field}
    (hsource : s.source = postingSource fields)
    (hs : s.inner = (c.predicate search policy).condition.toList.flatMap Condition.carriers)
    (hused : ∀ q ∈ s.used, q ∈ s.source.qualifiers) : s.Scoped := by
  refine scoped_of_source ?_ (nodup_joinedOf fields) (fun f hf => (Field.mem_joinedOf.mp hf).2)
    apart_nil (nodup_asked c) (fun f hf => isMultiValued_of_asked hf)
    (hs.trans (c.carriers_predicate search policy)) ?_ hused
  · rw [hsource, qualifiers_postingSource, List.append_nil]
  · rw [hsource]
    exact chained_lookupJoins (Field.joinedOf fields)

/-- What the condition of criteria uses is joined wherever the fields that it looks at are. -/
theorem mem_qualifiers_of_predicate {fields : List Field} {q : String}
    (hsub : ∀ f ∈ (c.predicate search policy).referenced, f ∈ fields)
    (hq : q ∈ (c.predicate search policy).condition.toList.flatMap Condition.qualifiers) :
    q ∈ (postingSource fields).qualifiers := by
  rcases Criteria.qualifiers_predicate hq with rfl | ⟨f, hf, hlookup, rfl⟩
  · exact List.mem_cons_self
  · exact mem_qualifiers_postingSource (hsub f hf) hlookup

namespace Query.Statement

theorem scoped_count (c : Criteria) (search : String) (policy : Policy) :
    (count (c.predicate search policy)).Scoped := by
  refine scoped_of_postingSource rfl rfl fun q hq => ?_
  simp only [used, count, Expression.columns, Grouping.columns, List.flatMap_cons, List.flatMap_nil,
    List.map_nil, List.append_nil, List.nil_append] at hq
  exact mem_qualifiers_of_predicate (fun _ hf => hf) hq

/-- The fields that are shown are joined. -/
theorem mem_qualifiers_shownColumns {fields : List Field} (hsub : ∀ f ∈ displayFields, f ∈ fields)
    (converted : Bool) : ∀ o ∈ shownColumns converted, ∀ col ∈ o.expression.columns,
      col.qualifier ∈ (postingSource fields).qualifiers := by
  have hlookup : ∀ f ∈ displayFields, f.entry.shape = .lookup := by decide
  have hposting : postingQualifier ∈ (postingSource fields).qualifiers := List.mem_cons_self
  have hshown {col : Column} {name : String}
      (h : col.qualifier ∈ (postingSource fields).qualifiers) :
      ∀ d ∈ (Output.mk (.column col) name).expression.columns,
        d.qualifier ∈ (postingSource fields).qualifiers := by
    intro d hd
    obtain rfl := List.mem_singleton.mp hd
    exact h
  exact forall_mem_shownColumns (hshown hposting)
    (fun f hf => hshown (mem_qualifiers_postingSource (hsub f hf) (hlookup f hf)))
    (fun _ _ => hshown hposting) (fun _ _ => hshown hposting) converted

/-- What is sorted by is joined. -/
theorem mem_qualifiers_sortColumn {fields : List Field} (sort : SortChoice)
    (hsub : ∀ f ∈ sort.field?, f ∈ fields) :
    sort.column.qualifier ∈ (postingSource fields).qualifiers := by
  have hlookup : ∀ f ∈ sort.field?, f.entry.shape = .lookup := by
    cases sort <;> simp [SortChoice.field?, Field.entry, Entry.lookup]
  rw [SortChoice.column]
  cases hf : sort.field? with
  | none => exact List.mem_cons_self
  | some f => exact mem_qualifiers_postingSource (hsub f hf) (hlookup f hf)

theorem scoped_slice (c : Criteria) (search : String) (policy : Policy) (sort : SortChoice)
    (converted : Bool) (limit offset : Int) :
    (slice (c.predicate search policy) sort converted limit offset).Scoped := by
  refine scoped_of_postingSource rfl rfl fun q hq => ?_
  have hposting : postingQualifier ∈
      (postingSource (displayFields ++ (c.predicate search policy).referenced ++
        sort.field?.toList)).qualifiers := List.mem_cons_self
  simp only [used, List.mem_append] at hq
  rcases hq with ((hq | hq) | hq) | hq
  · obtain ⟨col, hcol, rfl⟩ := List.mem_map.mp hq
    obtain ⟨o, ho, hcol⟩ := List.mem_flatMap.mp hcol
    exact mem_qualifiers_shownColumns (fun f hf => by simp [hf]) converted o ho col hcol
  · exact mem_qualifiers_of_predicate (fun f hf => by simp [hf]) hq
  · cases hq
  · obtain ⟨col, hcol, rfl⟩ := List.mem_map.mp hq
    have hcol : col ∈ [sort.column, postingId] := hcol
    rcases List.mem_pair.mp hcol with rfl | rfl
    · exact mem_qualifiers_sortColumn sort fun f hf => by simp [Option.mem_def.mp hf]
    · exact hposting

/-! ### Labels -/

/-- The labels of a field and what is joined besides are among the tables of its labels. -/
theorem mem_qualifiers_labelSource {f : Field} {others : List Field} {q : String}
    (hq : q ∈ f.entry.qualifier :: (postingSource others).qualifiers) :
    q ∈ (f.labelSource others).qualifiers := by
  rw [Field.qualifiers_labelSource]
  rcases List.mem_cons.mp hq with rfl | hq
  · refine List.mem_cons_of_mem _ ?_
    rw [Field.labelJoins]
    cases hshape : f.entry.shape with
    | lookup =>
      have hmulti : f.isMultiValued = false := Field.isMultiValued_eq_false_iff.mpr hshape
      exact List.mem_append_left _ (List.mem_map.mpr
        ⟨f, Field.mem_joinedOf.mpr ⟨by simp [hmulti], hshape⟩, rfl⟩)
    | children => simp
    | junction pairs owner => simp
  · rw [qualifiers_postingSource] at hq
    rcases List.mem_cons.mp hq with rfl | hq
    · exact List.mem_cons_self
    · obtain ⟨g, hg, rfl⟩ := List.mem_map.mp hq
      obtain ⟨hg, hlookup⟩ := Field.mem_joinedOf.mp hg
      exact List.mem_cons_of_mem _ (List.mem_append_left _ (List.mem_map.mpr
        ⟨g, Field.mem_joinedOf.mpr ⟨List.mem_append_left _ hg, hlookup⟩, rfl⟩))

/-- A statement about the labels of a field is scoped if its inner statements are those of distinct
fields and its condition uses nothing but the labels and what is joined. -/
theorem scoped_labels (f : Field) (name : String) {others : List Field} {t : Term}
    (window : Window) {inner : List Field} {labelsOf : Field → List String} (hi : inner.Nodup)
    (hmulti : ∀ g ∈ inner, g.isMultiValued = true)
    (hs : t.carriers = inner.map fun g => g.carriers (labelsOf g))
    (hused : ∀ q ∈ t.qualifiers, q ∈ f.entry.qualifier :: (postingSource others).qualifiers) :
    (labels f name others t window).Scoped := by
  have hinner : (labels f name others t window).inner =
      inner.map fun g => g.carriers (labelsOf g) := by
    rw [← hs]
    exact List.append_nil _
  refine scoped_of_source (List.Perm.of_eq (f.qualifiers_labelSource others)) (nodup_joinedOf _)
    (fun g hg => (Field.mem_joinedOf.mp hg).2) (apart_labelJoins f) hi hmulti hinner ?_
    fun q hq => ?_
  · exact (chained_lookupJoins _).append (chained_labelJoins f)
  · refine mem_qualifiers_labelSource ?_
    have hself : f.labelColumn.qualifier ∈ f.entry.qualifier :: (postingSource others).qualifiers :=
      List.mem_cons_self
    have hposting : postingId.qualifier ∈ f.entry.qualifier :: (postingSource others).qualifiers :=
      List.mem_cons_of_mem _ List.mem_cons_self
    simp only [used, List.mem_append] at hq
    rcases hq with ((hq | hq) | hq) | hq
    · have hq : q ∈ [f.labelColumn.qualifier, postingId.qualifier] := hq
      rcases List.mem_pair.mp hq with rfl | rfl
      · exact hself
      · exact hposting
    · exact hused q (by simpa [labels] using hq)
    · have hq : q ∈ [f.labelColumn.qualifier] := hq
      exact List.mem_singleton.mp hq ▸ hself
    · have hq : q ∈ [f.labelColumn.qualifier] := hq
      exact List.mem_singleton.mp hq ▸ hself

theorem scoped_facetsUnder (f : Field) (c : Criteria) (search : String) (policy : Policy) :
    (facetsUnder f (c.predicate search policy)).Scoped := by
  have hcarriers := c.carriers_predicate search policy
  have hqualifiers {q : String} (hq : q ∈ (c.predicate search policy).condition.toList.flatMap
      Condition.qualifiers) :
      q ∈ (postingSource (c.predicate search policy).referenced).qualifiers :=
    mem_qualifiers_of_predicate (fun _ hf => hf) hq
  rw [facetsUnder]
  generalize (c.predicate search policy).condition = condition at hcarriers hqualifiers
  refine scoped_labels f "label" .all (nodup_asked c) (fun g hg => isMultiValued_of_asked hg)
    (Eq.trans ?_ hcarriers) ?_
  · cases condition <;> simp [Condition.carriers]
  · cases condition with
    | none => exact fun q hq => List.mem_singleton.mp hq ▸ List.mem_cons_self
    | some t =>
      intro q hq
      rcases List.mem_cons.mp hq with rfl | hq
      · exact List.mem_cons_self
      · exact List.mem_cons_of_mem _ (hqualifiers (List.mem_flatMap.mpr ⟨t, by simp, hq⟩))

theorem scoped_suggestionsOf (f : Field) (term : String) (limit : Int) :
    (suggestionsOf f term limit).Scoped := by
  have hinner : (Condition.likeLowered f.labelColumn
      (Text.containing (Text.lower term)) : Term).carriers =
        ([] : List Field).map fun g => g.carriers [] := rfl
  exact scoped_labels f "value" (.first limit) List.nodup_nil (by simp) hinner
    fun q hq => List.mem_singleton.mp hq ▸ List.mem_cons_self

end Query.Statement

/-! ### Reports -/

namespace StandingReport

/-- The tables that standing reports join by themselves have qualifiers that no field has. -/
theorem joins_qualifiers : ∀ r ∈ all, (r.joins.map Join.qualifier).Nodup ∧
    ∀ q ∈ r.joins.map Join.qualifier,
      q ∉ postingQualifier :: Field.all.flatMap Field.qualifiers := by
  decide +kernel

/-- Standing reports look at postings, at the tables they join and at the labels of their fields. -/
theorem columns_qualifiers : ∀ r ∈ all, ∀ col ∈ r.columns, col.qualifier ∈
    postingQualifier :: (r.joins.map Join.qualifier ++
      (Field.joinedOf r.fields).map (·.entry.qualifier)) := by
  decide +kernel

theorem chained_joins {r : StandingReport} (hr : r ∈ all) : Chained [postingQualifier] r.joins := by
  simp only [all, List.mem_cons, List.not_mem_nil, or_false] at hr
  rcases hr with rfl | rfl | rfl | rfl | rfl | rfl | rfl | rfl
  all_goals simp [Chained, experience, flexibility, locations, industries, employment, companies,
    salaries, skills, postingId]

theorem apart_joins {r : StandingReport} (hr : r ∈ all) : Apart (r.joins.map Join.qualifier) := by
  obtain ⟨hnodup, hout⟩ := joins_qualifiers r hr
  have hfield {q : String} (hq : q ∈ r.joins.map Join.qualifier) (f : Field) : q ∉ f.qualifiers :=
    fun h => hout q hq (List.mem_cons_of_mem _ (List.mem_flatMap.mpr ⟨f, f.mem_all, h⟩))
  refine ⟨hnodup, fun h => hout _ h List.mem_cons_self, ?_, ?_⟩
  · rintro q hq f - rfl
    exact hfield hq f f.mem_qualifiers_self
  · exact fun q hq f hf h => hfield hq f (Field.mem_qualifiers_of_inner hf h)

/-- The fields whose tables are joined to a report under a predicate. -/
def joinedFields (r : StandingReport) (p : Predicate) : List Field :=
  Field.joinedOf r.fields ++
    (Field.joinedOf p.referenced).filter fun f => f ∉ Field.joinedOf r.fields

/-- A report's own tables are not joined again. -/
theorem addedJoins_eq (r : StandingReport) (p : Predicate) :
    r.addedJoins p = (r.joinedFields p).map Field.lookupJoin := by
  have hown (f : Field) : f.lookupJoin.qualifier ∈ (lookupJoins r.fields).map Join.qualifier ↔
      f ∈ Field.joinedOf r.fields := by
    constructor
    · intro h
      obtain ⟨j, hj, hq⟩ := List.mem_map.mp h
      obtain ⟨g, hg, rfl⟩ := List.mem_map.mp hj
      obtain rfl := Field.qualifier_inj hq
      exact hg
    · intro h
      exact List.mem_map.mpr ⟨f.lookupJoin, List.mem_map.mpr ⟨f, h, rfl⟩, rfl⟩
  have hlookups (fields : List Field) :
      lookupJoins fields = (Field.joinedOf fields).map Field.lookupJoin := rfl
  rw [addedJoins, Report.joinsWith, joinedFields, List.map_append, hlookups p.referenced,
    List.filter_map]
  refine congrArg (lookupJoins r.fields ++ List.map _ ·) (List.filter_congr fun f _ => ?_)
  simp only [Function.comp, hown]

theorem nodup_joinedFields (r : StandingReport) (p : Predicate) : (r.joinedFields p).Nodup := by
  refine List.nodup_append'.mpr ⟨nodup_joinedOf _, (nodup_joinedOf _).filter _, ?_⟩
  intro f hf hf'
  exact absurd hf (by simpa using (List.mem_filter.mp hf').2)

/-- A report under a predicate joins the fields that the predicate looks at. -/
theorem mem_joinedFields {r : StandingReport} {p : Predicate} {f : Field}
    (hf : f ∈ Field.joinedOf r.fields ∨ f ∈ Field.joinedOf p.referenced) :
    f ∈ r.joinedFields p := by
  rw [joinedFields, List.mem_append, List.mem_filter]
  by_cases h : f ∈ Field.joinedOf r.fields
  · exact Or.inl h
  · exact Or.inr ⟨hf.resolve_left h, by simpa using h⟩

theorem qualifiers_statement (r : StandingReport) (p : Predicate) :
    (r.statement p).source.qualifiers = postingQualifier :: (r.joins.map Join.qualifier ++
      (r.joinedFields p).map (·.entry.qualifier)) := by
  have hadded : (r.statement p).source.joins = r.joins ++ r.addedJoins p := rfl
  rw [Source.qualifiers, hadded, addedJoins_eq, List.map_append, List.map_map]
  rfl

/-- What is collected from the condition of a report is collected from its own conditions and from
those of the predicate. -/
theorem collect_statement {β : Type} {g : Term → List β} (hand : ∀ a b, g (.and a b) = g a ++ g b)
    (hgrouped : ∀ a, g (.grouped a) = g a) (r : StandingReport) (p : Predicate) :
    (r.statement p).condition.toList.flatMap g =
      r.required.flatMap g ++ p.condition.toList.flatMap g := by
  rw [statement, Predicate.collect_all hand, List.flatMap_append,
    Predicate.collect_grouped hgrouped]

/-- A report uses the columns that it looks at by itself, and what the predicate uses. -/
theorem mem_used {r : StandingReport} {p : Predicate} {q : String}
    (hq : q ∈ (r.statement p).used) : (∃ col ∈ r.columns, q = col.qualifier) ∨
      q ∈ p.condition.toList.flatMap Condition.qualifiers := by
  have hcolumns {o : Output} (ho : o ∈ r.outputs) {col : Column}
      (hcol : col ∈ o.expression.columns) : col ∈ r.columns :=
    List.mem_append_left _ (List.mem_append_left _ (List.mem_flatMap.mpr ⟨o, ho, hcol⟩))
  rw [Statement.used, collect_statement (fun _ _ => rfl) fun _ => rfl] at hq
  simp only [List.mem_append] at hq
  rcases hq with ((hq | hq | hq) | hq) | hq
  · obtain ⟨col, hcol, rfl⟩ := List.mem_map.mp hq
    obtain ⟨o, ho, hcol⟩ := List.mem_flatMap.mp hcol
    exact Or.inl ⟨col, hcolumns ho hcol, rfl⟩
  · obtain ⟨t, ht, hq⟩ := List.mem_flatMap.mp hq
    obtain ⟨col, hcol, rfl⟩ := List.mem_map.mp ht
    exact Or.inl ⟨col, List.mem_append_left _ (List.mem_append_right _ hcol),
      List.mem_singleton.mp hq⟩
  · exact Or.inr hq
  · obtain ⟨col, hcol, rfl⟩ := List.mem_map.mp hq
    exact Or.inl ⟨col, hcolumns List.mem_cons_self hcol, rfl⟩
  · obtain ⟨col, hcol, rfl⟩ := List.mem_map.mp hq
    exact Or.inl ⟨col, List.mem_append_right _ hcol, rfl⟩

theorem scoped_statement {r : StandingReport} (hr : r ∈ all) (c : Criteria) (search : String)
    (policy : Policy) : (r.statement (c.predicate search policy)).Scoped := by
  have hsource := qualifiers_statement r (c.predicate search policy)
  have hinner : (r.statement (c.predicate search policy)).inner =
      c.asked.map fun f => f.carriers (c.labelsFor f.key) := by
    have hrequired : r.required.flatMap Condition.carriers = [] := by
      simp [required, Condition.carriers]
    rw [Statement.inner, collect_statement (fun _ _ => rfl) (fun _ => rfl), hrequired,
      List.nil_append, c.carriers_predicate, Criteria.asked]
  refine scoped_of_source (hsource ▸ List.perm_append_comm.cons _) (nodup_joinedFields r _) ?_
    (apart_joins hr) (nodup_asked c) (fun f hf => isMultiValued_of_asked hf) hinner ?_ ?_
  · intro f hf
    rcases List.mem_append.mp hf with hf | hf
    · exact (Field.mem_joinedOf.mp hf).2
    · exact (Field.mem_joinedOf.mp (List.mem_filter.mp hf).1).2
  · have hjoins : (r.statement (c.predicate search policy)).source.joins =
        r.joins ++ r.addedJoins (c.predicate search policy) := rfl
    rw [hjoins, addedJoins_eq]
    exact (chained_joins hr).append (chained_lookupJoins _)
  · intro q hq
    have hjoined {f : Field} (hf : f ∈ r.joinedFields (c.predicate search policy)) :
        f.entry.qualifier ∈ (r.statement (c.predicate search policy)).source.qualifiers := by
      rw [hsource]
      exact List.mem_cons_of_mem _ (List.mem_append_right _ (List.mem_map.mpr ⟨f, hf, rfl⟩))
    have hposting : postingQualifier ∈
        (r.statement (c.predicate search policy)).source.qualifiers := List.mem_cons_self
    rcases mem_used hq with ⟨col, hcol, rfl⟩ | hq
    · rcases List.mem_cons.mp (columns_qualifiers r hr col hcol) with he | hq
      · exact he ▸ hposting
      · rcases List.mem_append.mp hq with hq | hq
        · rw [hsource]
          exact List.mem_cons_of_mem _ (List.mem_append_left _ hq)
        · obtain ⟨f, hf, he⟩ := List.mem_map.mp hq
          exact he ▸ hjoined (mem_joinedFields (Or.inl hf))
    · rcases Criteria.qualifiers_predicate hq with rfl | ⟨f, hf, hlookup, rfl⟩
      · exact hposting
      · exact hjoined (mem_joinedFields (Or.inr (Field.mem_joinedOf.mpr ⟨hf, hlookup⟩)))

end StandingReport

/-! ### All statements -/

/-- For criteria on fields that postings can be filtered by, every statement is scoped: pages in any
order and their number, the facets of every field that postings can be filtered by, the suggestions
of every field, and the standing reports, whose text is made of their lines with the joins and the
condition in the gaps. -/
theorem aliases_scoped (hc : c.Filterable) (search : String) (policy : Policy) :
    (∃ p, Predicate.compile c search policy none = .ok p ∧ (Statement.count p).Scoped ∧
      ∀ sortKey number size converted s,
        Statement.page p sortKey number size converted = .ok s → s.Scoped) ∧
    (∀ f : Field, f.entry.filterable = true →
      ∃ s, Statement.facets f.key c search policy = .ok s ∧ s.Scoped) ∧
    (∀ (f : Field) term limit,
      ∃ s, Statement.suggestions f.key term limit = .ok s ∧ s.Scoped) ∧
    ∀ r ∈ StandingReport.all, ∃ p, Report.predicate c = .ok p ∧
      r.report.render c = .ok (String.join ((r.linesWith (joinsText (r.addedJoins p))
        (Report.inserted "WHERE" p) (Report.inserted "AND" p)).map (· ++ "\n")), p.params) ∧
      (r.statement p).source.joins = r.joins ++ r.addedJoins p ∧ (r.statement p).Scoped := by
  refine ⟨⟨_, Predicate.compile_eq_ok hc search policy, ?_, ?_⟩, ?_, ?_, ?_⟩
  · exact Statement.scoped_count c search policy
  · intro sortKey number size converted s hs
    obtain ⟨-, -, rfl⟩ := Statement.page_eq_ok_iff.mp hs
    exact Statement.scoped_slice c search policy _ converted size _
  · intro f hf
    exact ⟨_, Statement.facets_eq_ok_iff.mpr ⟨hc, f, Field.resolveFilterable_key hf, rfl⟩,
      Statement.scoped_facetsUnder f _ search policy⟩
  · intro f term limit
    exact ⟨_, Statement.suggestions_eq_ok_iff.mpr ⟨f, f.resolve_key, rfl⟩,
      Statement.scoped_suggestionsOf f term limit⟩
  · intro r hr
    have hp : Report.predicate c = .ok (c.predicate "" .any) := Predicate.compile_eq_ok hc "" .any
    refine ⟨_, hp, ?_, rfl, StandingReport.scoped_statement hr c "" .any⟩
    rw [Report.render, hp]
    simp only [StandingReport.textUnder_report hr c "" .any]
    rfl

/-- The second page sorted by company under the sample, with search text, and the report on
skills, which joins the table that the sample filters by. -/
theorem aliases_scoped_sample :
    (∃ p s, Predicate.compile .sample "clerk" .any none = .ok p ∧
      Statement.page p (some "company_asc") 2 20 true = .ok s ∧ (Statement.count p).Scoped ∧
      s.Scoped) ∧
    (∃ s, Statement.facets "hard_skills" .sample "clerk" .any = .ok s ∧ s.Scoped) ∧
    (∃ s, Statement.suggestions "company" "a" 5 = .ok s ∧ s.Scoped) ∧
    ∃ p, Report.predicate .sample = .ok p ∧ (StandingReport.skills.statement p).Scoped := by
  obtain ⟨⟨p, hp, hcount, hpage⟩, hfacets, hsuggestions, hreports⟩ :=
    aliases_scoped Criteria.filterable_sample "clerk" .any
  obtain ⟨s, hs⟩ : ∃ s, Statement.page p (some "company_asc") 2 20 true = .ok s :=
    ⟨_, Statement.page_eq_ok_iff.mpr ⟨by decide, by decide, rfl⟩⟩
  obtain ⟨p', hp', -, -, hskills⟩ := hreports .skills (by simp [StandingReport.all])
  exact ⟨⟨p, s, hp, hs, hcount, hpage _ _ _ _ _ hs⟩, hfacets .hardSkills rfl,
    hsuggestions .company "a" 5, p', hp', hskills⟩

end JobSearch
