import JobSearch.Filter.Argument
import JobSearch.Proofs.Filter.Laws
import JobSearch.Proofs.Filter.Mapping
import Mathlib.Data.List.TakeWhile

/-!
# Criteria from arguments

An argument gives a field a value: the first equals sign stands between them, and all others belong
to the value. Arguments are read unless one of them is refused, and the first one that is decides
(`readArguments_eq_error_iff`). What was read are, field by field, the values that were given, in
their order, and for a bound the number that was given last (`Arguments.Holds`); one more argument
keeps this so (`Arguments.Holds.concat`), and thus all of them do (`exists_foldlM_add`).

The criteria select the values that are not empty, each once, and have these bounds
(`arguments_reach_criteria`). They look at the values of each field alone, so arguments of different
fields may change places. A bound must not be spelled with a capital here: such an argument is read
as one of a field, whose list of values is then no number for the criteria.

## Main definitions

* `IsArgument` — an argument, its field and its value.
* `Refuses` — an argument that is refused, and why.
* `valuesOf`, `lastNumber` — what some arguments give a field or a bound.
* `Arguments.Holds` — what some arguments were read as.
* `Criteria.Selects` — criteria that select what some arguments give.
-/

namespace JobSearch

/-! ### One argument -/

/-- An argument gives a value to a field, whose name is not empty and ends at the first equals
sign. -/
structure IsArgument (item : String) (p : String × String) : Prop where
  eq : item = p.1 ++ "=" ++ p.2
  field_ne : p.1 ≠ ""
  notMem : '=' ∉ p.1.toList

/-- Arguments that are refused: those without an equals sign, those without a field, and those that
give a bound text that is no number. -/
inductive Refuses (item : String) : Fault → Prop where
  | unsplit (h : '=' ∉ item.toList) : Refuses item (.malformedFilter item)
  | unnamed (h : item.toList.head? = some '=') : Refuses item (.malformedFilter item)
  | unread (b : Bound) (value : String) (hitem : item = b.key ++ "=" ++ value)
      (hvalue : Number.readReal? value = none) : Refuses item (.notReal value)

theorem toList_argument (field value : String) :
    (field ++ "=" ++ value).toList = field.toList ++ '=' :: value.toList := by
  simp

theorem splitArgument_append {field : String} (hfield : '=' ∉ field.toList) (value : String) :
    splitArgument (field ++ "=" ++ value) = some (field, value) := by
  have hall : ∀ c ∈ field.toList, decide (c ≠ '=') = true := fun c hc =>
    decide_eq_true fun he => hfield (he ▸ hc)
  rw [splitArgument, toList_argument, List.dropWhile_append_of_pos hall,
    List.takeWhile_append_of_pos hall]
  simp

/-- The first equals sign is where an argument is split, if it has one. -/
theorem splitArgument_cases (item : String) :
    '=' ∉ item.toList ∧ splitArgument item = none ∨
      ∃ p, (item = p.1 ++ "=" ++ p.2 ∧ '=' ∉ p.1.toList) ∧ splitArgument item = some p := by
  by_cases h : '=' ∈ item.toList
  · obtain ⟨field, value, hitem, hfield⟩ := List.eq_append_cons_of_mem h
    have hsplit : item = String.ofList field ++ "=" ++ String.ofList value := by
      rw [← String.toList_inj, toList_argument, String.toList_ofList, String.toList_ofList, hitem]
    have hno : '=' ∉ (String.ofList field).toList := by rwa [String.toList_ofList]
    exact Or.inr ⟨_, ⟨hsplit, hno⟩, hsplit ▸ splitArgument_append hno _⟩
  · have hall : ∀ c ∈ item.toList, decide (c ≠ '=') = true := fun c hc =>
      decide_eq_true fun he => h (he ▸ hc)
    refine Or.inl ⟨h, ?_⟩
    rw [splitArgument, List.dropWhile_eq_nil_iff.mpr hall]

/-- The keys of the bounds. -/
def boundKeys : List String := Bound.all.map Bound.key

theorem mem_boundKeys {key : String} : key ∈ boundKeys ↔ ∃ b : Bound, b.key = key := by
  rw [boundKeys, List.mem_map]
  exact ⟨fun ⟨b, _, hb⟩ => ⟨b, hb⟩, fun ⟨b, hb⟩ => ⟨b, by cases b <;> decide, hb⟩⟩

theorem any_key_eq (key : String) :
    (Bound.all.any fun b => b.key == key) = decide (key ∈ boundKeys) := by
  rw [Bool.eq_iff_iff, decide_eq_true_iff, boundKeys, List.any_eq_true, List.mem_map]
  simp

theorem IsArgument.splitArgument_eq {item : String} {p : String × String} (h : IsArgument item p) :
    splitArgument item = some p := h.eq ▸ splitArgument_append h.notMem p.2

/-- What an argument gives is determined. -/
theorem rightUnique_isArgument : Relator.RightUnique IsArgument := fun _ _ _ hp hq =>
  Option.some.inj (hp.splitArgument_eq.symm.trans hq.splitArgument_eq)

/-- A value for a field goes behind the values that the field has, and a number takes the place of
the one that a bound has. -/
theorem IsArgument.add_eq {item : String} {p : String × String} (h : IsArgument item p)
    (a : Arguments) : a.add item =
      if p.1 ∈ boundKeys then
        match Number.readReal? p.2 with
        | some x => .ok ⟨a.labels, Ordered.insert p.1 x a.bounds⟩
        | none => .error (.notReal p.2)
      else
        let before := (Ordered.find? p.1 a.labels).getD []
        .ok ⟨Ordered.insert p.1 (before ++ [p.2]) a.labels, a.bounds⟩ := by
  have hempty : p.1.isEmpty = false := by simpa using h.field_ne
  rw [Arguments.add, h.splitArgument_eq]
  by_cases hbound : p.1 ∈ boundKeys
  · cases hx : Number.readReal? p.2 <;> simp [hempty, any_key_eq, hbound, hx]
  · simp [hempty, any_key_eq, hbound]

/-- An argument is refused, or it is one of a field or of a bound and is read. -/
theorem Arguments.add_cases (a : Arguments) (item : String) :
    (∃ f, Refuses item f ∧ a.add item = .error f) ∨
      ∃ p a', IsArgument item p ∧ (p.1 ∈ boundKeys → ∃ x, Number.readReal? p.2 = some x) ∧
        a.add item = .ok a' := by
  rcases splitArgument_cases item with ⟨hno, hsplit⟩ | ⟨⟨field, value⟩, ⟨hitem, hno⟩, hsplit⟩
  · exact Or.inl ⟨_, .unsplit hno, by rw [Arguments.add, hsplit]⟩
  · by_cases hfield : field = ""
    · subst hfield
      have hhead : item.toList.head? = some '=' := by
        rw [hitem, toList_argument]
        rfl
      exact Or.inl ⟨_, .unnamed hhead, by rw [Arguments.add, hsplit]; rfl⟩
    · have harg : IsArgument item (field, value) := ⟨hitem, hfield, hno⟩
      have hadd := harg.add_eq a
      by_cases hkey : field ∈ boundKeys
      · rw [if_pos hkey] at hadd
        cases hvalue : Number.readReal? value with
        | some x =>
          rw [hvalue] at hadd
          exact Or.inr ⟨_, _, harg, fun _ => ⟨x, hvalue⟩, hadd⟩
        | none =>
          rw [hvalue] at hadd
          obtain ⟨b, rfl⟩ := mem_boundKeys.mp hkey
          exact Or.inl ⟨_, .unread b value hitem hvalue, hadd⟩
      · rw [if_neg hkey] at hadd
        exact Or.inr ⟨_, _, harg, fun h => absurd h hkey, hadd⟩

theorem Refuses.add_eq {item : String} {f : Fault} (h : Refuses item f) (a : Arguments) :
    a.add item = .error f := by
  rcases splitArgument_cases item with ⟨hno, hsplit⟩ | ⟨⟨field, value⟩, ⟨hitem, hno⟩, hsplit⟩
  · cases h with
    | unsplit _ => rw [Arguments.add, hsplit]
    | unnamed hhead => exact absurd (List.mem_of_mem_head? hhead) hno
    | unread b value hitem _ => exact absurd (by rw [hitem, toList_argument]; simp) hno
  · cases h with
    | unsplit h => exact absurd (by rw [hitem, toList_argument]; simp) h
    | unnamed hhead =>
      have hfield : field = "" := by
        rw [hitem, toList_argument] at hhead
        rw [← String.toList_inj]
        cases hchars : field.toList with
        | nil => rfl
        | cons c rest =>
          rw [hchars] at hhead hno
          simp at hhead hno
          exact absurd hhead.symm hno.1
      rw [Arguments.add, hsplit, hfield]
      rfl
    | unread b value' hitem' hvalue =>
      have hkey : b.key ≠ "" ∧ '=' ∉ b.key.toList := by cases b <;> decide
      have harg : IsArgument item (b.key, value') := ⟨hitem', hkey.1, hkey.2⟩
      rw [harg.add_eq, if_pos (mem_boundKeys.mpr ⟨b, rfl⟩), hvalue]

/-! ### All arguments -/

/-- The first argument that is refused decides. -/
theorem foldlM_add_eq_error_iff {items : List String} {f : Fault} (a : Arguments) :
    items.foldlM Arguments.add a = .error f ↔ ∃ before item after,
      items = before ++ item :: after ∧ (∀ i ∈ before, ∀ g, ¬Refuses i g) ∧ Refuses item f := by
  induction items generalizing a with
  | nil => simp [pure, Except.pure]
  | cons i items ih =>
    rw [List.foldlM_cons]
    rcases a.add_cases i with ⟨g, hg, hadd⟩ | ⟨p, a', -, -, hadd⟩
    · have herror : (a.add i >>= fun a => items.foldlM Arguments.add a) = .error g := by
        rw [hadd]
        rfl
      rw [herror]
      constructor
      · intro h
        exact ⟨[], i, items, rfl, by simp, Except.error.inj h ▸ hg⟩
      · rintro ⟨before, item, after, hitems, hbefore, hitem⟩
        cases before with
        | nil =>
          obtain ⟨rfl, rfl⟩ := List.cons.inj hitems
          exact hadd.symm.trans (hitem.add_eq a)
        | cons j before =>
          obtain ⟨rfl, -⟩ := List.cons.inj hitems
          exact absurd hg (hbefore i (by simp) g)
    · have hread (g : Fault) : ¬Refuses i g := by
        intro hg
        rw [hg.add_eq a] at hadd
        cases hadd
      have hok : (a.add i >>= fun a => items.foldlM Arguments.add a) =
          items.foldlM Arguments.add a' := by
        rw [hadd]
        rfl
      rw [hok, ih]
      constructor
      · rintro ⟨before, item, after, rfl, hbefore, hitem⟩
        exact ⟨i :: before, item, after, rfl, List.forall_mem_cons.mpr ⟨hread, hbefore⟩, hitem⟩
      · rintro ⟨before, item, after, hitems, hbefore, hitem⟩
        cases before with
        | nil =>
          obtain ⟨rfl, -⟩ := List.cons.inj hitems
          exact absurd hitem (hread f)
        | cons j before =>
          obtain ⟨rfl, rfl⟩ := List.cons.inj hitems
          exact ⟨before, item, after, rfl, fun k hk => hbefore k (by simp [hk]), hitem⟩

/-- What arguments give as a flat mapping, labels before bounds. -/
def Arguments.entries (a : Arguments) : List (String × Json) :=
  a.labels.map (fun p => (p.1, .texts p.2)) ++ a.bounds.map fun p => (p.1, .real p.2)

theorem readArguments_eq (items : List String) :
    readArguments items = (items.foldlM Arguments.add ⟨[], []⟩).map Arguments.entries := rfl

/-- Arguments are read unless one of them is refused, and the first one that is decides. -/
theorem readArguments_eq_error_iff {items : List String} {f : Fault} :
    readArguments items = .error f ↔ ∃ before item after,
      items = before ++ item :: after ∧ (∀ i ∈ before, ∀ g, ¬Refuses i g) ∧ Refuses item f := by
  rw [readArguments_eq, ← foldlM_add_eq_error_iff ⟨[], []⟩]
  cases items.foldlM Arguments.add ⟨[], []⟩ <;> simp [Except.map]

/-- Of arguments some of which are refused there is a first one that is. -/
theorem exists_first_refused {items : List String} (h : ∃ item ∈ items, ∃ f, Refuses item f) :
    ∃ before item after, items = before ++ item :: after ∧ (∃ f, Refuses item f) ∧
      ∀ i ∈ before, ∀ g, ¬Refuses i g := by
  classical
  obtain ⟨item, hitem⟩ := Option.isSome_iff_exists.mp
    (List.find?_isSome (p := fun item => decide (∃ f, Refuses item f)).mpr (by simpa using h))
  obtain ⟨hrefused, before, after, hitems, hbefore⟩ := List.find?_eq_some_iff_append.mp hitem
  exact ⟨before, item, after, hitems, by simpa using hrefused, by simpa using hbefore⟩

/-! ### What arguments give -/

/-- The values that some arguments give a field, in their order. -/
def valuesOf (field : String) (ps : List (String × String)) : List String :=
  (ps.filter fun p => p.1 = field).map (·.2)

/-- The labels that some values select: those that are not empty, each once. -/
def labelsAmong (values : List String) : List String := distinct (values.filter (· ≠ ""))

/-- The number that some arguments give a bound last. -/
def lastNumber (key : String) (ps : List (String × String)) : Option Float :=
  (valuesOf key ps).getLast?.bind Number.readReal?

theorem mem_valuesOf {field value : String} {ps : List (String × String)} :
    value ∈ valuesOf field ps ↔ (field, value) ∈ ps := by
  simp only [valuesOf, List.mem_map, List.mem_filter, decide_eq_true_eq]
  constructor
  · rintro ⟨p, ⟨hp, rfl⟩, rfl⟩
    exact hp
  · intro h
    exact ⟨_, ⟨h, rfl⟩, rfl⟩

theorem valuesOf_concat (field : String) (ps : List (String × String)) (p : String × String) :
    valuesOf field (ps ++ [p]) =
      if p.1 = field then valuesOf field ps ++ [p.2] else valuesOf field ps := by
  by_cases h : p.1 = field <;> simp [valuesOf, h]

theorem lastNumber_concat (key : String) (ps : List (String × String)) (p : String × String) :
    lastNumber key (ps ++ [p]) =
      if p.1 = key then Number.readReal? p.2 else lastNumber key ps := by
  by_cases h : p.1 = key <;> simp [lastNumber, valuesOf_concat, h]

/-- What some arguments were read as: their values by field, and their last numbers by bound. -/
structure Arguments.Holds (a : Arguments) (ps : List (String × String)) : Prop where
  labels_nodup : (a.labels.map (·.1)).Nodup
  bounds_nodup : (a.bounds.map (·.1)).Nodup
  labels : ∀ field, Ordered.find? field a.labels =
    if field ∈ boundKeys ∨ valuesOf field ps = [] then none else some (valuesOf field ps)
  bounds : ∀ key, Ordered.find? key a.bounds = if key ∈ boundKeys then lastNumber key ps else none

theorem Arguments.holds_nil : Arguments.Holds ⟨[], []⟩ [] := by
  constructor <;> simp [valuesOf, lastNumber]

/-- One more argument is read. -/
theorem Arguments.Holds.concat {a a' : Arguments} {ps : List (String × String)} (h : a.Holds ps)
    {item : String} {p : String × String} (hitem : IsArgument item p) (hadd : a.add item = .ok a') :
    a'.Holds (ps ++ [p]) := by
  rw [hitem.add_eq] at hadd
  by_cases hkey : p.1 ∈ boundKeys
  · rw [if_pos hkey] at hadd
    cases hvalue : Number.readReal? p.2 with
    | none =>
      rw [hvalue] at hadd
      cases hadd
    | some x =>
      rw [hvalue] at hadd
      obtain rfl := Except.ok.inj hadd
      refine ⟨h.labels_nodup, Ordered.nodup_insert h.bounds_nodup p.1 x, fun field => ?_,
        fun key => ?_⟩
      · rw [h.labels, valuesOf_concat]
        by_cases hfield : p.1 = field
        · simp [← hfield, hkey]
        · simp [hfield]
      · rw [lastNumber_concat]
        by_cases hp : p.1 = key
        · subst hp
          simp [Ordered.find?_insert_self, hkey, hvalue]
        · rw [Ordered.find?_insert_of_ne (Ne.symm hp), h.bounds, if_neg hp]
  · rw [if_neg hkey] at hadd
    obtain rfl := Except.ok.inj hadd
    have hbefore : (Ordered.find? p.1 a.labels).getD [] = valuesOf p.1 ps := by
      rw [h.labels]
      by_cases hnil : valuesOf p.1 ps = [] <;> simp [hkey, hnil]
    refine ⟨Ordered.nodup_insert h.labels_nodup p.1 _, h.bounds_nodup, fun field => ?_,
      fun key => ?_⟩
    · rw [valuesOf_concat, hbefore]
      by_cases hfield : p.1 = field
      · subst hfield
        simp [Ordered.find?_insert_self, hkey]
      · rw [Ordered.find?_insert_of_ne (Ne.symm hfield), h.labels, if_neg hfield]
    · rw [h.bounds, lastNumber_concat]
      by_cases hp : p.1 = key
      · simp [← hp, hkey]
      · rw [if_neg hp]

/-- Arguments none of which is refused are arguments with values that can be read. -/
theorem exists_forall₂_isArgument {items : List String}
    (h : ∀ item ∈ items, ∀ f, ¬Refuses item f) :
    ∃ ps, List.Forall₂ IsArgument items ps ∧
      ∀ p ∈ ps, p.1 ∈ boundKeys → ∃ x, Number.readReal? p.2 = some x := by
  induction items with
  | nil => exact ⟨[], .nil, by simp⟩
  | cons item items ih =>
    obtain ⟨hitem, hitems⟩ := List.forall_mem_cons.mp h
    obtain ⟨ps, hps, hread⟩ := ih hitems
    rcases Arguments.add_cases ⟨[], []⟩ item with ⟨f, hf, -⟩ | ⟨p, -, hp, hvalue, -⟩
    · exact absurd hf (hitem f)
    · exact ⟨p :: ps, .cons hp hps, List.forall_mem_cons.mpr ⟨hvalue, hread⟩⟩

/-- Arguments with values that can be read are read, and then hold what they give. -/
theorem exists_foldlM_add {items : List String} {ps : List (String × String)}
    (h : List.Forall₂ IsArgument items ps)
    (hread : ∀ p ∈ ps, p.1 ∈ boundKeys → ∃ x, Number.readReal? p.2 = some x) {a : Arguments}
    {before : List (String × String)} (ha : a.Holds before) :
    ∃ a', items.foldlM Arguments.add a = .ok a' ∧ a'.Holds (before ++ ps) := by
  induction h generalizing a before with
  | nil => exact ⟨a, rfl, by simpa using ha⟩
  | @cons item p items ps hitem _ ih =>
    obtain ⟨hp, hps⟩ := List.forall_mem_cons.mp hread
    have hadd : ∃ a', a.add item = .ok a' := by
      rw [hitem.add_eq]
      by_cases hkey : p.1 ∈ boundKeys
      · obtain ⟨x, hx⟩ := hp hkey
        rw [if_pos hkey, hx]
        exact ⟨_, rfl⟩
      · rw [if_neg hkey]
        exact ⟨_, rfl⟩
    obtain ⟨a', ha'⟩ := hadd
    obtain ⟨b, hb, hholds⟩ := ih hps (ha.concat hitem ha')
    refine ⟨b, ?_, by simpa using hholds⟩
    rw [List.foldlM_cons, ha']
    exact hb

/-! ### The criteria -/

namespace Criteria

variable {c d : Criteria} {ps : List (String × String)}

/-- Criteria that select what some arguments give: in each field the values that are not empty, each
once, and for each bound the last number. -/
structure Selects (c : Criteria) (ps : List (String × String)) : Prop where
  normal : c.Normal
  labels : ∀ field, c.labelsFor field =
    if field ∈ boundKeys then [] else labelsAmong (valuesOf field ps)
  bounds : ∀ b : Bound, c.bounds b = lastNumber b.key ps

/-- Criteria in normal form with the same labels in each field list the same selections. -/
theorem Normal.perm_of_labelsFor (hc : c.Normal) (hd : d.Normal)
    (h : ∀ field, c.labelsFor field = d.labelsFor field) : c.selections.Perm d.selections := by
  have hmem {e : Criteria} (he : e.Normal) (p : String × List String) :
      p ∈ e.selections ↔ p.2 = e.labelsFor p.1 ∧ p.2 ≠ [] := by
    constructor
    · intro hp
      rw [labelsFor, (Ordered.find?_eq_some_iff he.fields_nodup).mpr hp]
      exact ⟨rfl, he.labels_ne_nil p hp⟩
    · rintro ⟨hlabels, hne⟩
      rcases e.labelsFor_eq_nil_or_mem p.1 with hnil | hp
      · exact absurd (hlabels.trans hnil) hne
      · rwa [← hlabels] at hp
  refine (List.perm_ext_iff_of_nodup hc.fields_nodup.of_map hd.fields_nodup.of_map).mpr fun p => ?_
  rw [hmem hc, hmem hd, h]

/-- Arguments that give each field the same values in the same order select equal criteria. -/
theorem Selects.equal (hc : c.Selects ps) {qs : List (String × String)} (hd : d.Selects qs)
    (h : ∀ field, valuesOf field qs = valuesOf field ps) : d.Equal c := by
  refine Same.equal ⟨hd.normal.perm_of_labelsFor hc.normal fun field => ?_, funext fun b => ?_⟩
    hd.normal.fields_nodup
  · rw [hd.labels, hc.labels, h]
  · rw [hd.bounds, hc.bounds, lastNumber, lastNumber, h]

/-- Values name themselves, but for those that are empty. -/
theorem labelsOf_values (values : List String) :
    labelsOf (.texts values) = .ok (labelsAmong values) := by
  have hkeep : (fun v : Json => !v.isNoLabel) ∘ Json.text = fun s => decide (s ≠ "") := by
    funext s
    rw [Bool.eq_iff_iff]
    simp [Json.isNoLabel]
  have hlabel : Json.label ∘ Json.text = id := rfl
  rw [Json.texts, labelsOf, labelsOfItems, List.filter_map, List.map_map, hkeep, hlabel,
    List.map_id, labelsAmong]

/-- Fields that are listed with their values select those that are not empty, each once. -/
theorem labelled_texts (m : List (String × List String)) :
    labelled (m.map fun p => (p.1, .texts p.2)) =
      .ok ((m.map fun p => (p.1, labelsAmong p.2)).filter fun p => p.2 ≠ []) := by
  have hall : List.Forall₂ (fun (e : String × Json) (p : String × List String) =>
      (labelsOf e.2).map (Prod.mk e.1) = .ok (p.1, labelsAmong p.2))
      (m.map fun p => (p.1, .texts p.2)) m := by
    rw [List.forall₂_map_left_iff, List.forall₂_same]
    intro p _
    rw [labelsOf_values]
    rfl
  rw [labelled, mapM_eq_ok hall]
  rfl

theorem given_eq_null {m : List (String × Json)} (hm : ∀ e ∈ m, Bound.ofKey? e.1 = none)
    (b : Bound) : given m b = .null := by
  have hnone : (m.filterMap fun e => (Bound.ofKey? e.1).map fun b => (b, e.2)) = [] :=
    List.filterMap_eq_nil_iff.mpr fun e he => by rw [hm e he]; rfl
  rw [given, hnone]
  rfl

/-- Bounds that are listed behind the fields, each once, are given as they stand. -/
theorem given_append {m : List (String × Json)} (hm : ∀ e ∈ m, Bound.ofKey? e.1 = none)
    {bounds : List (String × Float)} (hn : (bounds.map (·.1)).Nodup)
    (hkeys : ∀ p ∈ bounds, p.1 ∈ boundKeys) (b : Bound) :
    given (m ++ bounds.map fun p => (p.1, .real p.2)) b =
      .ofReal? (Ordered.find? b.key bounds) := by
  induction bounds using List.reverseRecOn with
  | nil =>
    rw [List.map_nil, List.append_nil, given_eq_null hm]
    rfl
  | append_singleton bounds p ih =>
    rw [List.map_append, List.nodup_append'] at hn
    obtain ⟨hbounds, -, hdisjoint⟩ := hn
    have hnew : Ordered.find? p.1 bounds = none := by
      by_contra hfound
      simpa using hdisjoint (Ordered.mem_keys_iff.mpr hfound)
    obtain ⟨b', hb'⟩ := mem_boundKeys.mp (hkeys p (by simp))
    have hkey : Bound.ofKey? p.1 = some b' := Bound.ofKey?_eq_some_iff.mpr (Or.inl hb'.symm)
    rw [List.map_append, ← List.append_assoc, List.map_singleton, given_concat, hkey,
      ih hbounds fun q hq => hkeys q (by simp [hq]), ← Ordered.insert_eq_concat hnew]
    by_cases hb : b' = b
    · rw [if_pos (congrArg some hb), ← hb, hb', Ordered.find?_insert_self]
      rfl
    · have hne : b.key ≠ p.1 := fun he =>
        hb (Option.some.inj (hkey.symm.trans (Bound.ofKey?_eq_some_iff.mpr (Or.inl he.symm))))
      rw [if_neg fun he => hb (Option.some.inj he), Ordered.find?_insert_of_ne hne]

end Criteria

/-- The keys of what was read are fields or bounds, as they are listed, and each occurs once. -/
theorem Arguments.Holds.nodup_entries {a : Arguments} {ps : List (String × String)}
    (h : a.Holds ps) : (a.entries.map (·.1)).Nodup := by
  have hkeys : a.entries.map (·.1) = a.labels.map (·.1) ++ a.bounds.map (·.1) := by
    rw [Arguments.entries, List.map_append, Ordered.keys_map_snd, Ordered.keys_map_snd]
  rw [hkeys, List.nodup_append']
  refine ⟨h.labels_nodup, h.bounds_nodup, fun key hlabel hbound => ?_⟩
  rw [Ordered.mem_keys_iff, h.labels] at hlabel
  rw [Ordered.mem_keys_iff, h.bounds] at hbound
  by_cases hkey : key ∈ boundKeys <;> simp [hkey] at hlabel hbound

/-- What was read are criteria that select what the arguments give, unless they spell a bound in the
other way. -/
theorem Arguments.Holds.exists_ofMapping {a : Arguments} {ps : List (String × String)}
    (h : a.Holds ps) (hspelled : ∀ b : Bound, valuesOf b.capitalKey ps = []) :
    ∃ c, Criteria.ofMapping a.entries = .ok c ∧ c.Selects ps := by
  have hfield : ∀ p ∈ a.labels, Bound.ofKey? p.1 = none := by
    intro p hp
    have hfound : p.1 ∈ a.labels.map (·.1) := List.mem_map_of_mem hp
    rw [Ordered.mem_keys_iff, h.labels] at hfound
    rw [Option.eq_none_iff_forall_ne_some]
    intro b hb
    rcases Bound.ofKey?_eq_some_iff.mp hb with hkey | hkey
    · have hbound : p.1 ∈ boundKeys := mem_boundKeys.mpr ⟨b, hkey.symm⟩
      simp [hbound] at hfound
    · simp [hkey, hspelled b] at hfound
  have hbound : ∀ p ∈ a.bounds, p.1 ∈ boundKeys := by
    intro p hp
    have hfound : p.1 ∈ a.bounds.map (·.1) := List.mem_map_of_mem hp
    rw [Ordered.mem_keys_iff, h.bounds] at hfound
    by_contra hkey
    simp [hkey] at hfound
  have hfield' : ∀ e ∈ a.labels.map fun p => (p.1, Json.texts p.2), Bound.ofKey? e.1 = none :=
    List.forall_mem_map.mpr hfield
  have hfields : Criteria.fieldEntries a.entries = a.labels.map fun p => (p.1, .texts p.2) := by
    rw [Criteria.fieldEntries, Arguments.entries, List.filter_append, List.filter_eq_self.mpr,
      List.filter_eq_nil_iff.mpr, List.append_nil]
    · refine List.forall_mem_map.mpr fun p hp => ?_
      obtain ⟨b, hb⟩ := mem_boundKeys.mp (hbound p hp)
      simp [Bound.ofKey?_eq_some_iff.mpr (Or.inl hb.symm)]
    · intro e he
      rw [hfield' e he]
      rfl
  let chosen := a.labels.map fun p => (p.1, labelsAmong p.2)
  let c : Criteria :=
    ⟨chosen.filter fun p => p.2 ≠ [], fun b => Ordered.find? b.key a.bounds⟩
  have hc : Criteria.ofMapping a.entries = .ok c := by
    rw [Criteria.ofMapping_eq_ok_iff, Ordered.ofList_eq_self h.nodup_entries]
    refine ⟨?_, fun b => ?_⟩
    · rw [hfields, Criteria.labelled_texts]
    · have hgiven : Criteria.given a.entries b = .ofReal? (c.bounds b) :=
        Criteria.given_append hfield' h.bounds_nodup hbound b
      rw [hgiven]
      cases c.bounds b <;> rfl
  refine ⟨c, hc, Criteria.normal_of_ofMapping hc, fun field => ?_, fun b => ?_⟩
  · have hn : (chosen.map (·.1)).Nodup := by
      rw [Ordered.keys_map_snd]
      exact h.labels_nodup
    rw [Criteria.labelsFor, Ordered.find?_filter hn fun labels => decide (labels ≠ []),
      Ordered.find?_map_snd, h.labels]
    by_cases hkey : field ∈ boundKeys
    · simp [hkey]
    · by_cases hnil : valuesOf field ps = []
      · simp [hkey, hnil, labelsAmong, distinct]
      · by_cases hempty : labelsAmong (valuesOf field ps) = [] <;>
          simp [Option.filter, hkey, hnil, hempty]
  · show Ordered.find? b.key a.bounds = lastNumber b.key ps
    rw [h.bounds, if_pos (mem_boundKeys.mpr ⟨b, rfl⟩)]

/-- Arguments with values that can be read, none of which spells a bound in the other way, reach
the criteria. -/
theorem exists_selects {items : List String} {ps : List (String × String)}
    (h : List.Forall₂ IsArgument items ps)
    (hread : ∀ p ∈ ps, p.1 ∈ boundKeys → ∃ x, Number.readReal? p.2 = some x)
    (hspelled : ∀ b : Bound, valuesOf b.capitalKey ps = []) :
    ∃ m c, readArguments items = .ok m ∧ Criteria.ofMapping m = .ok c ∧ c.Selects ps := by
  obtain ⟨a, ha, hholds⟩ := exists_foldlM_add h hread Arguments.holds_nil
  obtain ⟨c, hc, hselects⟩ := hholds.exists_ofMapping hspelled
  exact ⟨a.entries, c, by rw [readArguments_eq, ha]; rfl, hc, hselects⟩

/-- Arguments, none of which spells a bound with a capital, are refused if and only if one of them
has no equals sign, has no field or gives a bound text that is no number. Otherwise the criteria
select what the arguments give, and equal ones if arguments of different fields change places. -/
theorem arguments_reach_criteria (items : List String)
    (hspelled : ∀ item ∈ items, ∀ b : Bound, ¬(b.capitalKey ++ "=").toList <+: item.toList) :
    ((∃ f, readArguments items = .error f) ↔ ∃ item ∈ items, ∃ f, Refuses item f) ∧
    (∀ f, readArguments items = .error f → ∃ item ∈ items, Refuses item f) ∧
    ((¬∃ item ∈ items, ∃ f, Refuses item f) →
      ∃ ps m c, List.Forall₂ IsArgument items ps ∧ readArguments items = .ok m ∧
        Criteria.ofMapping m = .ok c ∧ c.Selects ps ∧
        ∀ items' ps', List.Forall₂ IsArgument items' ps' →
          (∀ field, valuesOf field ps' = valuesOf field ps) →
          ∃ m' c', readArguments items' = .ok m' ∧ Criteria.ofMapping m' = .ok c' ∧
            c'.Equal c) := by
  have hkinds (f : Fault) (hf : readArguments items = .error f) :
      ∃ item ∈ items, Refuses item f := by
    obtain ⟨before, item, after, rfl, -, hitem⟩ := readArguments_eq_error_iff.mp hf
    exact ⟨item, by simp, hitem⟩
  have hread (hitems : ¬∃ item ∈ items, ∃ f, Refuses item f) :
      ∃ ps, List.Forall₂ IsArgument items ps ∧
        ∀ p ∈ ps, p.1 ∈ boundKeys → ∃ x, Number.readReal? p.2 = some x :=
    exists_forall₂_isArgument fun item hitem f hf => hitems ⟨item, hitem, f, hf⟩
  refine ⟨⟨?refused, ?read⟩, hkinds, fun hitems => ?selects⟩
  case refused =>
    rintro ⟨f, hf⟩
    obtain ⟨item, hitem, hrefused⟩ := hkinds f hf
    exact ⟨item, hitem, f, hrefused⟩
  case read =>
    intro hrefused
    obtain ⟨before, item, after, hitems, ⟨f, hf⟩, hbefore⟩ := exists_first_refused hrefused
    exact ⟨f, readArguments_eq_error_iff.mpr ⟨before, item, after, hitems, hbefore, hf⟩⟩
  case selects =>
    obtain ⟨ps, hps, hvalues⟩ := hread hitems
    have hcapital {qs : List (String × String)}
        (h : ∀ field, valuesOf field qs = valuesOf field ps) (b : Bound) :
        valuesOf b.capitalKey qs = [] := by
      rw [h, List.eq_nil_iff_forall_not_mem]
      intro value hvalue
      obtain ⟨item, hitem, hp⟩ := forall₂_left hps _ (mem_valuesOf.mp hvalue)
      refine hspelled item hitem b ⟨value.toList, ?_⟩
      rw [hp.eq]
      simp
    obtain ⟨m, c, hm, hc, hselects⟩ := exists_selects hps hvalues (hcapital fun _ => rfl)
    refine ⟨ps, m, c, hps, hm, hc, hselects, fun items' ps' hps' hsame => ?_⟩
    have hvalues' : ∀ p ∈ ps', p.1 ∈ boundKeys → ∃ x, Number.readReal? p.2 = some x := by
      intro p hp hkey
      have hmem : p.2 ∈ valuesOf p.1 ps := hsame p.1 ▸ mem_valuesOf.mpr hp
      exact hvalues _ (mem_valuesOf.mp hmem) hkey
    obtain ⟨m', c', hm', hc', hselects'⟩ := exists_selects hps' hvalues' (hcapital hsame)
    exact ⟨m', c', hm', hc', hselects.equal hselects' hsame⟩

/-- A city that holds an equals sign, skills that are given twice or are empty, and a bound that is
given again; then the city behind the skills. -/
theorem arguments_reach_criteria_bergen :
    ∃ m c, readArguments ["city=Bergen=Bryggen", "hard_skills=SQL", "salary_min=1", "hard_skills=",
        "hard_skills=welding", "hard_skills=SQL", "salary_min=15000"] = .ok m ∧
      Criteria.ofMapping m = .ok c ∧ c.labelsFor "city" = ["Bergen=Bryggen"] ∧
      c.labelsFor "hard_skills" = ["SQL", "welding"] ∧
      c.bounds .salaryMin = Number.readReal? "15000" ∧
      ∃ m' c', readArguments ["salary_min=1", "hard_skills=SQL", "hard_skills=",
          "hard_skills=welding", "hard_skills=SQL", "city=Bergen=Bryggen", "salary_min=15000"] =
          .ok m' ∧
        Criteria.ofMapping m' = .ok c' ∧ c'.Equal c := by
  let items : List String := ["city=Bergen=Bryggen", "hard_skills=SQL", "salary_min=1",
    "hard_skills=", "hard_skills=welding", "hard_skills=SQL", "salary_min=15000"]
  let given : List (String × String) := [("city", "Bergen=Bryggen"), ("hard_skills", "SQL"),
    ("salary_min", "1"), ("hard_skills", ""), ("hard_skills", "welding"), ("hard_skills", "SQL"),
    ("salary_min", "15000")]
  let moved : List (String × String) := [("salary_min", "1"), ("hard_skills", "SQL"),
    ("hard_skills", ""), ("hard_skills", "welding"), ("hard_skills", "SQL"),
    ("city", "Bergen=Bryggen"), ("salary_min", "15000")]
  have hspelled : ∀ item ∈ items, ∀ b : Bound, ¬(b.capitalKey ++ "=").toList <+: item.toList := by
    intro item hitem b
    cases b <;> revert item <;> decide
  have harguments (ps : List (String × String)) (hps : ∀ p ∈ ps, p.1 ≠ "" ∧ '=' ∉ p.1.toList) :
      List.Forall₂ IsArgument (ps.map fun p => p.1 ++ "=" ++ p.2) ps := by
    rw [List.forall₂_map_left_iff, List.forall₂_same]
    exact fun p hp => ⟨rfl, (hps p hp).1, (hps p hp).2⟩
  obtain ⟨hrefused, -, hselects⟩ := arguments_reach_criteria items hspelled
  have hnone : ¬∃ item ∈ items, ∃ f, Refuses item f := by
    intro h
    obtain ⟨f, hf⟩ := hrefused.mpr h
    cases hf
  obtain ⟨ps, m, c, hps, hm, hc, hc', hmoved⟩ := hselects hnone
  obtain rfl : ps = given := rightUnique_isArgument.forall₂ hps (harguments given (by decide))
  have hvalues : ∀ field, valuesOf field moved = valuesOf field given := by
    intro field
    by_cases hcity : "city" = field
    · subst hcity
      decide
    · by_cases hskills : "hard_skills" = field
      · subst hskills
        decide
      · by_cases hsalary : "salary_min" = field <;>
          simp [valuesOf, moved, given, hcity, hskills, hsalary]
  exact ⟨m, c, hm, hc, (hc'.labels "city").trans (by decide),
    (hc'.labels "hard_skills").trans (by decide), (hc'.bounds .salaryMin).trans rfl,
    hmoved _ moved (harguments moved (by decide)) hvalues⟩

end JobSearch
