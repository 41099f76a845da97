import JobSearch.Proofs.Statement.Placement
import JobSearch.Report.Render

/-!
# Text without values

The text of a statement does not depend on the values it is bound to. Criteria are of one shape if
they are active in the same fields, with as many labels in each, and have the same bounds set
(`Criteria.SameShape`). The conditions of such criteria read alike, that is, equally but for their
values, and a statement whose condition and window read alike with those of another has the text
of the other (`Statement.ReadsAs.text_eq`). So no label, bound, search text, limit or offset ever
gets into a text (`texts_eq_of_sameShape`).

## Main definitions

* `Alike` — read texts that are equal but for their values.
* `Criteria.SameShape` — criteria that are equal but for their labels and the numbers they are
  bounded by.
-/

namespace JobSearch

open Query

/-! ### Alike texts -/

/-- Read texts that are equal but for their values. -/
def Alike (w x : List Token) : Prop := rubbed w = rubbed x

namespace Alike

variable {w x y z : List Token} {ws xs : List (List Token)}

theorem refl (w : List Token) : Alike w w := rfl

theorem value (v u : Cell) : Alike [.value v] [.value u] := rfl

theorem append (h : Alike w x) (h' : Alike y z) : Alike (w ++ y) (x ++ z) := by
  rw [Alike, rubbed_append, rubbed_append, h, h']

theorem listed (separator : String) (h : List.Forall₂ Alike ws xs) :
    Alike (listed separator ws) (Query.listed separator xs) := by
  have hmap : ws.map rubbed = xs.map rubbed := by
    induction h with
    | nil => rfl
    | cons hw _ ih => rw [List.map_cons, List.map_cons, hw, ih]
  rw [Alike, rubbed_listed, rubbed_listed, hmap]

theorem parenthesized (h : Alike w x) : Alike (parenthesized w) (JobSearch.parenthesized x) :=
  ((refl _).append h).append (refl _)

theorem enclosed (separator : String) (h : List.Forall₂ Alike ws xs) :
    Alike (enclosed separator ws) (JobSearch.enclosed separator xs) := by
  rcases h with _ | ⟨hw, _ | ⟨hw', hrest⟩⟩
  · exact .refl _
  · exact hw
  · exact (Alike.listed separator (.cons hw (.cons hw' hrest))).parenthesized

theorem compared (c : Column) (sign : String) (v u : Cell) :
    Alike (compared c sign v) (JobSearch.compared c sign u) :=
  (refl _).append (value v u)

theorem liked (subject : String) (v u : Cell) :
    Alike (liked subject v) (JobSearch.liked subject u) :=
  ((refl _).append (value v u)).append (refl _)

/-- What is made of related things is alike if it is alike for two of them. -/
theorem map {α β : Type} {R : α → β → Prop} {as : List α} {bs : List β}
    (h : List.Forall₂ R as bs) {f : α → List Token} {g : β → List Token}
    (hfg : ∀ a b, R a b → Alike (f a) (g b)) : List.Forall₂ Alike (as.map f) (bs.map g) := by
  rw [List.forall₂_map_left_iff, List.forall₂_map_right_iff]
  exact h.imp hfg

/-- What is made of as many values is alike. -/
theorem map_of_length {α β : Type} {as : List α} {bs : List β} (h : as.length = bs.length)
    {f : α → List Token} {g : β → List Token} (hfg : ∀ a b, Alike (f a) (g b)) :
    List.Forall₂ Alike (as.map f) (bs.map g) :=
  map (R := fun _ _ => True) (List.forall₂_iff_get.mpr ⟨h, fun _ _ _ => trivial⟩)
    fun a b _ => hfg a b

theorem refl_all (ws : List (List Token)) : List.Forall₂ Alike ws ws :=
  List.forall₂_same.mpr fun w _ => .refl w

end Alike

/-- A statement with the same names whose condition and window read alike has the same text. -/
theorem Query.Statement.ReadsAs.text_eq {s t : Statement} {w x : Option (List Token)}
    {u v : Window} (hs : s.ReadsAs w u) (ht : t.ReadsAs x v) (hfront : s.front = t.front)
    (hback : s.back = t.back) (hw : Option.Rel Alike w x)
    (hu : List.Forall₂ Alike u.written v.written) : s.text = t.text := by
  have hcondition : List.Forall₂ Alike (w.map (words "WHERE " ++ ·)).toList
      (x.map (words "WHERE " ++ ·)).toList := by
    cases hw with
    | none => exact .nil
    | some h => exact .cons ((Alike.refl _).append h) .nil
  rw [hs.reads.text_eq, ht.reads.text_eq, hfront, hback]
  exact Alike.listed "\n" (List.rel_append (List.rel_append (List.rel_append (Alike.refl_all _)
    hcondition) (Alike.refl_all _)) hu)

/-! ### Criteria of one shape -/

/-- Criteria that are equal but for their labels and the numbers they are bounded by. -/
structure Criteria.SameShape (c d : Criteria) : Prop where
  /-- The same fields are active. -/
  fields : ∀ key, key ∈ c.activeFields ↔ key ∈ d.activeFields
  /-- As many labels are selected in each field. -/
  labels : ∀ key, (c.labelsFor key).length = (d.labelsFor key).length
  /-- The same bounds are set. -/
  bounds : ∀ b, (c.bounds b).isSome = (d.bounds b).isSome

namespace Criteria

variable {c d : Criteria}

theorem map_setBounds (c : Criteria) :
    c.setBounds.map (·.1) = Bound.all.filter fun b => (c.bounds b).isSome := by
  rw [setBounds]
  induction Bound.all with
  | nil => rfl
  | cons b rest ih =>
    cases h : c.bounds b with
    | none => simp [h, ih]
    | some x => simp [h, ih]

namespace SameShape

theorem filterable (h : c.SameShape d) : c.Filterable ↔ d.Filterable := by
  simp only [Filterable, h.fields]

theorem withoutField (h : c.SameShape d) (key : String) :
    (c.withoutField key).SameShape (d.withoutField key) where
  fields k := by
    have herase (e : Criteria) :
        k ∈ (e.withoutField key).activeFields ↔ k ≠ key ∧ k ∈ e.activeFields := by
      simp only [activeFields, Criteria.withoutField, List.mem_map, Ordered.mem_erase]
      grind
    rw [herase, herase, h.fields]
  labels k := by
    have herase (e : Criteria) :
        (e.withoutField key).labelsFor k = if k = key then [] else e.labelsFor k := by
      rw [labelsFor, Criteria.withoutField, Ordered.find?_erase]
      split <;> rfl
    rw [herase, herase]
    split
    · rfl
    · exact h.labels k
  bounds := h.bounds

theorem without (h : c.SameShape d) (exclude : Option String) :
    (c.without exclude).SameShape (d.without exclude) := by
  cases exclude with
  | none => exact h
  | some key => exact h.withoutField key

theorem labelsFor_eq_nil (h : c.SameShape d) (key : String) :
    c.labelsFor key = [] ↔ d.labelsFor key = [] := by
  rw [← List.length_eq_zero_iff, h.labels, List.length_eq_zero_iff]

theorem chosen (h : c.SameShape d) : c.chosen = d.chosen := by
  simp only [Criteria.chosen, ne_eq, h.labelsFor_eq_nil]

theorem setBounds (h : c.SameShape d) : c.setBounds.map (·.1) = d.setBounds.map (·.1) := by
  simp only [map_setBounds, h.bounds]

theorem ranges (h : c.SameShape d) : c.ranges = d.ranges := by
  have hany (e : Criteria) (q : Quantity) : (e.setBounds.any fun p => p.1.quantity = q) =
      (e.setBounds.map (·.1)).any fun b => b.quantity = q := by
    rw [List.any_map]
    rfl
  simp only [Criteria.ranges, hany, h.setBounds]

end SameShape

end Criteria

/-! ### Their conditions -/

theorem Query.Carriers.alike_writtenFor (c : Carriers) {vs us : List Cell}
    (h : vs.length = us.length) : Alike (c.writtenFor vs) (c.writtenFor us) := by
  have hvalues := Alike.listed ", " (Alike.map_of_length h Alike.value)
  exact (((Alike.refl _).append hvalues).append (Alike.refl _)).append (.value _ _)

/-- The condition on a field is alike for as many labels. -/
theorem Field.alike_written (f : Field) {labels labels' : List String}
    (h : labels.length = labels'.length) : Alike (f.written labels) (f.written labels') := by
  rw [written, written]
  split
  · have hinner : Alike ((f.carriers []).writtenFor (labels.map .text))
        ((f.carriers []).writtenFor (labels'.map .text)) :=
      Carriers.alike_writtenFor _ (by simpa using h)
    exact ((Alike.refl _).append hinner).append (.refl _)
  · exact (Alike.listed " OR " (Alike.map_of_length h fun l l' =>
      .compared _ _ (.text l) (.text l'))).parenthesized

theorem alike_searchWritten (text text' : String) :
    Alike (searchWritten text) (searchWritten text') := by
  have hcolumns : List.Forall₂ Eq Predicate.searchedColumns Predicate.searchedColumns :=
    List.forall₂_same.mpr fun _ _ => rfl
  refine (Alike.listed " OR " (Alike.map hcolumns ?_)).parenthesized
  rintro c _ rfl
  exact .liked _ _ _

theorem Policy.alike_written (policy : Policy) {ws xs : List (List Token)}
    (h : List.Forall₂ Alike ws xs) : Alike (policy.written ws) (policy.written xs) := by
  cases policy with
  | all => exact .listed _ h
  | any => exact .enclosed _ h

theorem alike_conjoined {ws xs : List (List Token)} (h : List.Forall₂ Alike ws xs) :
    Option.Rel Alike (conjoined ws) (conjoined xs) := by
  cases h with
  | nil => exact .none
  | cons hw hrest => exact .some (.listed " AND " (.cons hw hrest))

namespace Criteria.SameShape

variable {c d : Criteria}

theorem alike_rangeWritten (h : c.SameShape d) (q : Quantity) :
    Alike (c.rangeWritten q) (d.rangeWritten q) := by
  have hset : List.Forall₂ (fun p p' => p.1 = p'.1) c.setBounds d.setBounds := by
    have heq := h.setBounds
    rwa [← List.forall₂_eq_eq_eq, List.forall₂_map_left_iff, List.forall₂_map_right_iff] at heq
  have hbounds := Alike.map (f := fun p => boundWritten p.1 p.2)
    (g := fun p => boundWritten p.1 p.2) (List.rel_filter (p := fun p => p.1.quantity = q)
      (q := fun p => p.1.quantity = q) (fun p p' hp => by simp [hp]) hset) fun p p' hp => by
        rw [boundWritten, boundWritten, hp]
        exact .compared _ _ _ _
  exact .enclosed " AND " hbounds

theorem alike_termsWritten (h : c.SameShape d) :
    List.Forall₂ Alike c.termsWritten d.termsWritten := by
  rw [termsWritten, termsWritten, ← h.chosen, ← h.ranges]
  refine List.rel_append ?_ ?_
  · refine Alike.map (List.forall₂_same.mpr fun f _ => rfl) ?_
    rintro f _ rfl
    exact f.alike_written (h.labels f.key)
  · refine Alike.map (List.forall₂_same.mpr fun q _ => rfl) ?_
    rintro q _ rfl
    exact h.alike_rangeWritten q

/-- The conditions of criteria of one shape read alike, whatever is searched for. -/
theorem alike_written (h : c.SameShape d) {search search' : String}
    (hblank : Text.trim search = "" ↔ Text.trim search' = "") (policy : Policy) :
    Option.Rel Alike (c.written search policy) (d.written search' policy) := by
  have hterms := h.alike_termsWritten
  have hnil : c.termsWritten = [] ↔ d.termsWritten = [] := by
    rw [← List.length_eq_zero_iff, hterms.length_eq, List.length_eq_zero_iff]
  refine alike_conjoined (List.rel_append ?_ ?_)
  · simp only [hnil]
    split
    · exact .nil
    · exact .cons (policy.alike_written hterms) .nil
  · simp only [hblank]
    split
    · exact .nil
    · exact .cons (alike_searchWritten _ _) .nil

/-- The predicates of criteria of one shape look at the labels of the same fields. -/
theorem referenced (h : c.SameShape d) {search search' : String}
    (hblank : Text.trim search = "" ↔ Text.trim search' = "") (policy : Policy) :
    (c.predicate search policy).referenced = (d.predicate search' policy).referenced := by
  simp only [Criteria.predicate, Predicate.assemble, filtered_inCatalogOrder, h.chosen,
    String.isEmpty_iff, hblank]

/-- The predicates of criteria of one shape have the same text. -/
theorem text_condition (h : c.SameShape d) {search search' : String}
    (hblank : Text.trim search = "" ↔ Text.trim search' = "") (policy : Policy) :
    (c.predicate search policy).condition.map Condition.text =
      (d.predicate search' policy).condition.map Condition.text := by
  have hread : ∀ {t : Option Term} {w : Option (List Token)}, Option.Rel Condition.ReadsAs t w →
      t.map Condition.text = w.map rubbed := by
    intro t w hw
    cases hw with
    | none => rfl
    | some hw => exact congrArg some (Reads.text_eq hw)
  rw [hread (Predicate.reads_predicate c search policy),
    hread (Predicate.reads_predicate d search' policy)]
  have halike := h.alike_written hblank policy
  generalize c.written search policy = w at halike
  generalize d.written search' policy = x at halike
  cases halike with
  | none => rfl
  | some hw => exact congrArg some hw

/-- What is the same for the predicates of criteria of one shape is the same for what is compiled
from them; they are compiled both or neither. -/
theorem map_compile {α : Type} (h : c.SameShape d) {search search' : String} (policy : Policy)
    (exclude : Option String) {g : Predicate → α}
    (hg : ∀ {c' d' : Criteria}, c'.SameShape d' →
      g (c'.predicate search policy) = g (d'.predicate search' policy)) :
    (Predicate.compile c search policy exclude).toOption.map g =
      (Predicate.compile d search' policy exclude).toOption.map g := by
  by_cases hok : c.Filterable ∧ ∀ key ∈ exclude, ∃ f, Field.resolveFilterable key = .ok f
  · have hc : Predicate.compile c search policy exclude =
        .ok ((c.without exclude).predicate search policy) :=
      Predicate.compile_eq_ok_iff.mpr ⟨hok.1, hok.2, rfl⟩
    have hd : Predicate.compile d search' policy exclude =
        .ok ((d.without exclude).predicate search' policy) :=
      Predicate.compile_eq_ok_iff.mpr ⟨h.filterable.mp hok.1, hok.2, rfl⟩
    rw [hc, hd]
    exact congrArg some (hg (h.without exclude))
  · cases hc : Predicate.compile c search policy exclude with
    | ok p =>
      obtain ⟨hf, hkey, -⟩ := Predicate.compile_eq_ok_iff.mp hc
      exact absurd ⟨hf, hkey⟩ hok
    | error u =>
      cases hd : Predicate.compile d search' policy exclude with
      | ok p =>
        obtain ⟨hf, hkey, -⟩ := Predicate.compile_eq_ok_iff.mp hd
        exact absurd ⟨h.filterable.mpr hf, hkey⟩ hok
      | error u => rfl

end Criteria.SameShape

/-! ### Their statements -/

theorem Query.Window.alike_first (limit limit' : Int) :
    List.Forall₂ Alike (first limit).written (first limit').written :=
  .cons ((Alike.refl _).append (.value (.int limit) (.int limit'))) .nil

theorem Query.Window.alike_slice (limit offset limit' offset' : Int) :
    List.Forall₂ Alike (slice limit offset).written (slice limit' offset').written := by
  have hlimit := (Alike.refl (words "LIMIT ")).append (.value (.int limit) (.int limit'))
  exact .cons ((hlimit.append (.refl (words " OFFSET "))).append
    (.value (.int offset) (.int offset'))) .nil

/-- The condition that a column holds one of some numbers is alike for as many numbers. -/
theorem alike_ownedWritten (column : Column) {ids ids' : List Int}
    (h : ids.length = ids'.length) :
    Alike (ownedWritten column ids) (ownedWritten column ids') := by
  by_cases hone : ids.length = 1
  · obtain ⟨id, rfl⟩ := List.length_eq_one_iff.mp hone
    obtain ⟨id', rfl⟩ := List.length_eq_one_iff.mp (h.symm.trans hone)
    exact .compared _ _ _ _
  · have hseveral (is : List Int) (his : is.length ≠ 1) : ownedWritten column is =
        words (column.text ++ " IN (") ++ listed ", " (is.map fun id => [.value (.int id)]) ++
          words ")" := by
      rcases is with _ | ⟨i, _ | ⟨j, rest⟩⟩
      · rfl
      · exact absurd rfl his
      · rfl
    rw [hseveral ids hone, hseveral ids' (h ▸ hone)]
    have hvalues := Alike.listed ", " (Alike.map_of_length h fun id id' =>
      .value (.int id) (.int id'))
    exact ((Alike.refl _).append hvalues).append (.refl _)

namespace Query.Statement

open Criteria.SameShape

section text_eq

variable {c d : Criteria} {search search' : String}

theorem text_count (h : c.SameShape d) (hblank : Text.trim search = "" ↔ Text.trim search' = "")
    (policy : Policy) : (count (c.predicate search policy)).text =
      (count (d.predicate search' policy)).text := by
  refine (readsAs_count c search policy).text_eq (readsAs_count d search' policy) ?_ rfl
    (h.alike_written hblank policy) .nil
  rw [front, count, h.referenced hblank]
  rfl

/-- Pages in one order that look at the same fields differ only in their condition and their
window. -/
theorem names_slice {p q : Predicate} (h : p.referenced = q.referenced) (sort : SortChoice)
    (converted : Bool) (limit offset limit' offset' : Int) :
    (slice p sort converted limit offset).front = (slice q sort converted limit' offset').front ∧
      (slice p sort converted limit offset).back =
        (slice q sort converted limit' offset').back := by
  rw [front, front, slice, slice, h]
  exact ⟨rfl, rfl⟩

theorem text_slice (h : c.SameShape d) (hblank : Text.trim search = "" ↔ Text.trim search' = "")
    (policy : Policy) (sort : SortChoice) (converted : Bool) (limit offset limit' offset' : Int) :
    (slice (c.predicate search policy) sort converted limit offset).text =
      (slice (d.predicate search' policy) sort converted limit' offset').text := by
  obtain ⟨hfront, hback⟩ := names_slice (h.referenced hblank policy) sort converted limit offset
    limit' offset'
  exact (readsAs_slice c search policy sort converted limit offset).text_eq
    (readsAs_slice d search' policy sort converted limit' offset') hfront hback
    (h.alike_written hblank policy) (Window.alike_slice limit offset limit' offset')

theorem text_facetsUnder (h : c.SameShape d)
    (hblank : Text.trim search = "" ↔ Text.trim search' = "") (policy : Policy) (f : Field) :
    (facetsUnder f (c.predicate search policy)).text =
      (facetsUnder f (d.predicate search' policy)).text := by
  have hcondition : Alike (facetsWritten f (c.written search policy))
      (facetsWritten f (d.written search' policy)) := by
    have hw := h.alike_written hblank policy
    generalize c.written search policy = w at hw
    generalize d.written search' policy = x at hw
    cases hw with
    | none => exact .refl _
    | some hw => exact (Alike.refl _).append ((Alike.refl _).append hw.parenthesized)
  refine (readsAs_facetsUnder c search policy f).text_eq (readsAs_facetsUnder d search' policy f) ?_
    rfl (.some hcondition) .nil
  rw [front, facetsUnder, labels, h.referenced hblank]
  rfl

/-- Statements about the labels of a field differ only in their condition and their window. -/
theorem names_labels (f : Field) (name : String) (others : List Field) (t t' : Term)
    (u u' : Window) : (labels f name others t u).front = (labels f name others t' u').front ∧
      (labels f name others t u).back = (labels f name others t' u').back := ⟨rfl, rfl⟩

theorem text_suggestionsOf (f : Field) (term term' : String) (limit limit' : Int) :
    (suggestionsOf f term limit).text = (suggestionsOf f term' limit').text := by
  obtain ⟨hfront, hback⟩ := names_labels f "value" []
    (.likeLowered f.labelColumn (Text.containing (Text.lower term)))
    (.likeLowered f.labelColumn (Text.containing (Text.lower term'))) (.first limit) (.first limit')
  exact (readsAs_suggestionsOf f term limit).text_eq (readsAs_suggestionsOf f term' limit') hfront
    hback (.some (.liked _ _ _)) (Window.alike_first limit limit')

theorem text_attributesOf (f : Field) {ids ids' : List Int} (h : ids.length = ids'.length) :
    (attributesOf f ids).text = (attributesOf f ids').text :=
  (readsAs_attributesOf f ids).text_eq (readsAs_attributesOf f ids') rfl rfl
    (.some (alike_ownedWritten f.ownerSource.1 h)) .nil

end text_eq

end Query.Statement

/-- The text of a report depends on a predicate through its text and the fields it looks at. -/
theorem Report.textUnder_congr (r : Report) {p q : Predicate}
    (hfields : p.referenced = q.referenced)
    (htext : p.condition.map Condition.text = q.condition.map Condition.text) :
    r.textUnder p = r.textUnder q := by
  have hinserted (word : String) : inserted word p = inserted word q := by
    rw [inserted, inserted]
    cases hp : p.condition <;> cases hq : q.condition <;> simp_all
  have hjoins : r.joinsUnder p = r.joinsUnder q := by
    simp only [joinsUnder, joinsWith, hfields]
  simp only [textUnder, hjoins, fill, hinserted]

/-! ### All texts -/

theorem Report.toOption_render (r : Report) (c : Criteria) : (r.render c).toOption.map (·.1) =
    ((Predicate.compile c "" .any none).toOption.map r.textUnder).bind Except.toOption := by
  rw [render, predicate]
  cases Predicate.compile c "" .any none with
  | error u => rfl
  | ok p => cases h : r.textUnder p <;> simp [h, Except.map, Except.toOption]

theorem Query.Statement.toOption_facets (key : String) (c : Criteria) (search : String)
    (policy : Policy) : (facets key c search policy).toOption.map text =
    ((Predicate.compile c search policy (some key)).toOption.map fun p =>
      (Field.resolve key).map fun f => (facetsUnder f p).text).bind Except.toOption := by
  rw [facets]
  cases Predicate.compile c search policy (some key) with
  | error u => rfl
  | ok p => cases Field.resolve key <;> simp [Except.map, Except.toOption]

/-- Criteria of one shape give the same texts, whatever their labels and bounds are, whatever is
searched for, and whichever part of a result is asked for: the text of the condition and the fields
it looks at, and those of pages, numbers, facets and reports. The text of suggestions depends on
their field alone, and that of labels of postings on the field and the number of postings. -/
theorem texts_eq_of_sameShape {c d : Criteria} (h : c.SameShape d) {search search' : String}
    (hblank : Text.trim search = "" ↔ Text.trim search' = "") (policy : Policy) :
    (∀ exclude,
      (Predicate.compile c search policy exclude).toOption.map (fun p => (p.text, p.referenced)) =
        (Predicate.compile d search' policy exclude).toOption.map
          fun p => (p.text, p.referenced)) ∧
    (∀ exclude p q, Predicate.compile c search policy exclude = .ok p →
      Predicate.compile d search' policy exclude = .ok q →
      (Statement.count p).text = (Statement.count q).text ∧
      ∀ sortKey converted number size number' size' s t,
        Statement.page p sortKey number size converted = .ok s →
        Statement.page q sortKey number' size' converted = .ok t → s.text = t.text) ∧
    (∀ key, (Statement.facets key c search policy).toOption.map Statement.text =
      (Statement.facets key d search' policy).toOption.map Statement.text) ∧
    (∀ r : Report, (r.render c).toOption.map (·.1) = (r.render d).toOption.map (·.1)) ∧
    (∀ key term limit term' limit', (Statement.suggestions key term limit).map Statement.text =
      (Statement.suggestions key term' limit').map Statement.text) ∧
    ∀ key ids ids', ids.length = ids'.length →
      (Statement.attributes key ids).map Statement.text =
        (Statement.attributes key ids').map Statement.text := by
  refine ⟨fun exclude => ?_, ?_, fun key => ?_, fun r => ?_, ?_, ?_⟩
  · refine h.map_compile policy exclude fun hshape => ?_
    rw [Predicate.text, Predicate.text, hshape.text_condition hblank, hshape.referenced hblank]
  · intro exclude p q hp hq
    obtain ⟨-, -, rfl⟩ := Predicate.compile_eq_ok_iff.mp hp
    obtain ⟨-, -, rfl⟩ := Predicate.compile_eq_ok_iff.mp hq
    have hshape := h.without exclude
    refine ⟨Statement.text_count hshape hblank policy, ?_⟩
    intro sortKey converted number size number' size' s t hs ht
    obtain ⟨-, -, rfl⟩ := Statement.page_eq_ok_iff.mp hs
    obtain ⟨-, -, rfl⟩ := Statement.page_eq_ok_iff.mp ht
    exact Statement.text_slice hshape hblank policy _ converted _ _ _ _
  · rw [Statement.toOption_facets, Statement.toOption_facets]
    refine congrArg (Option.bind · Except.toOption) (h.map_compile policy (some key) ?_)
    intro c' d' hshape
    simp only [Statement.text_facetsUnder hshape hblank policy]
  · rw [Report.toOption_render, Report.toOption_render]
    refine congrArg (Option.bind · Except.toOption) (h.map_compile .any none ?_)
    intro c' d' hshape
    exact r.textUnder_congr (hshape.referenced .rfl .any) (hshape.text_condition .rfl .any)
  · intro key term limit term' limit'
    rw [Statement.suggestions, Statement.suggestions]
    cases Field.resolve key with
    | error u => simp only [Except.map]
    | ok f => simp only [Except.map, Statement.text_suggestionsOf f term term' limit limit']
  · intro key ids ids' hids
    have hempty : ids.isEmpty = ids'.isEmpty := by
      rw [Bool.eq_iff_iff, List.isEmpty_iff_length_eq_zero, List.isEmpty_iff_length_eq_zero, hids]
    rw [Statement.attributes, Statement.attributes, hempty]
    cases Field.resolve key with
    | error u => rfl
    | ok f =>
      simp only
      split
      · rfl
      · split
        · rfl
        · simp only [Except.map, Statement.text_attributesOf f hids]

/-- Criteria of the shape of the sample whose labels look like parts of a statement. -/
def Criteria.awkward : Criteria :=
  ⟨[("hard_skills", ["'; DROP TABLE job_details; --"]), ("city", ["?", "Oslo' OR '1' = '1"])],
    fun _ => none⟩

theorem Criteria.sameShape_awkward : sample.SameShape awkward where
  fields key := by
    simp only [activeFields, sample, awkward, List.map_cons, List.map_nil, List.mem_cons,
      List.not_mem_nil, or_false]
    exact or_comm
  labels key := by
    simp only [labelsFor, sample, awkward, Ordered.find?]
    by_cases hcity : "city" = key
    · subst hcity
      rfl
    · by_cases hskills : "hard_skills" = key
      · subst hskills
        rfl
      · simp [hcity, hskills]
  bounds _ := rfl

/-- Labels and search text that look like parts of a statement change no text. -/
theorem texts_eq_awkward :
    (∃ p q, Predicate.compile .sample "clerk" .all none = .ok p ∧
      Predicate.compile .awkward "' OR ?" .all none = .ok q ∧
      p.text = q.text ∧ p.referenced = q.referenced ∧
      (Statement.count p).text = (Statement.count q).text ∧
      ∃ s t, Statement.page p none 1 20 false = .ok s ∧ Statement.page q none 3 50 false = .ok t ∧
        s.text = t.text) ∧
    (Statement.facets "city" .sample "clerk" .all).toOption.map Statement.text =
      (Statement.facets "city" .awkward "' OR ?" .all).toOption.map Statement.text ∧
    (Statement.attributes "benefits" [1, 2]).map Statement.text =
      (Statement.attributes "benefits" [30, 4]).map Statement.text := by
  have hshape := Criteria.sameShape_awkward
  have hblank : Text.trim "clerk" = "" ↔ Text.trim "' OR ?" = "" := by decide +kernel
  obtain ⟨hcompile, hstatements, hfacets, -, -, hattributes⟩ :=
    texts_eq_of_sameShape hshape hblank .all
  refine ⟨?_, hfacets "city", hattributes "benefits" _ _ rfl⟩
  have hp := Predicate.compile_eq_ok Criteria.filterable_sample "clerk" .all
  have hq := Predicate.compile_eq_ok (hshape.filterable.mp Criteria.filterable_sample) "' OR ?" .all
  have heq := hcompile none
  rw [hp, hq] at heq
  obtain ⟨htext, hreferenced⟩ := Prod.mk.inj (Option.some.inj heq)
  obtain ⟨hcount, hpage⟩ := hstatements none _ _ hp hq
  have hpages (p : Predicate) (number size : Int) (hn : 1 ≤ number) (hsize : 1 ≤ size) :
      ∃ s, Statement.page p none number size false = .ok s :=
    ⟨_, Statement.page_eq_ok_iff.mpr ⟨hn, hsize, rfl⟩⟩
  obtain ⟨s, hs⟩ := hpages (Criteria.sample.predicate "clerk" .all) 1 20 (by decide) (by decide)
  obtain ⟨t, ht⟩ := hpages (Criteria.awkward.predicate "' OR ?" .all) 3 50 (by decide) (by decide)
  exact ⟨_, _, hp, hq, htext, hreferenced, hcount, s, t, hs, ht,
    hpage none false 1 20 3 50 s t hs ht⟩

end JobSearch
