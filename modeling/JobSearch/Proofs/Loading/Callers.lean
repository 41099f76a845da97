import JobSearch.Proofs.Loading.Pending

/-!
# The callers of a loader

A load that has ended has one outcome for good (`ended_play`). Every caller that joined it and was
not cancelled has been told this outcome or is told it at its next turn (`Informed.tell`), and what
a caller was told it keeps (`told_play`). What a caller does changes no one else: without its
cancellation the same moves leave the same load, the same fetches and the same other callers
(`play_cancel`).

## Main definitions

* `Caller.load?` — the load that a caller joined.
* `Informed` — what callers were told agrees with their loads.
-/

namespace JobSearch

/-- The load that a caller joined, unless it was cancelled. -/
def Caller.load? {α : Type} : Caller α → Option Nat
  | waiting n | served n _ | failed n _ => some n
  | cancelled => none

@[simp] theorem Caller.load?_told {α : Type} (n : Nat) (outcome : Except LoadFailure α) :
    (Caller.told n outcome).load? = some n := by
  cases outcome <;> rfl

@[simp] theorem Caller.cancel_told {α : Type} (n : Nat) (outcome : Except LoadFailure α) :
    (Caller.told n outcome).cancel = .told n outcome := by
  cases outcome <;> rfl

namespace Loader

variable {α : Type} {l l' : Loader α} {m : Move α} {n : Nat} {outcome : Except LoadFailure α}

/-! ### Loads that have ended -/

theorem getElem?_set_of_ne {β : Type} {xs : List β} {i j : Nat} {x y z : β} (hx : xs[i]? = some x)
    (hy : xs[j]? = some y) (hne : x ≠ y) : (xs.set i z)[j]? = some y := by
  have hij : i ≠ j := by
    rintro rfl
    exact hne (Option.some.inj (hx.symm.trans hy))
  rw [List.getElem?_set_ne hij, hy]

/-- A load that has ended stays so. -/
theorem Turn.ended (h : Turn l m l') (hn : l.loads[n]? = some (.ended outcome)) :
    l'.loads[n]? = some (.ended outcome) := by
  cases h with
  | plan =>
    have hlt := (List.getElem?_eq_some_iff.mp hn).1
    exact (List.getElem?_append_left hlt).trans hn
  | start hload => exact getElem?_set_of_ne hload hn (by simp)
  | arrive a hload => exact getElem?_set_of_ne hload hn (by simp)
  | succeed hload => exact getElem?_set_of_ne hload hn (by simp)
  | fail hload => exact getElem?_set_of_ne hload hn (by simp)
  | drop hload hbefore =>
    exact getElem?_set_of_ne hload hn (by rcases hbefore with rfl | ⟨a, rfl⟩ <;> simp)
  | abort hload => exact getElem?_set_of_ne hload hn (by simp)
  | _ => exact hn

/-- Loads are never forgotten. -/
theorem Turn.length_le (h : Turn l m l') : l.loads.length ≤ l'.loads.length := by
  cases h <;> simp

theorem ended_play (hn : l.loads[n]? = some (.ended outcome)) (ms : List (Move α)) :
    (l.play ms).loads[n]? = some (.ended outcome) :=
  play_induction (Q := fun _ => true) (fun _ _ _ _ h hn => h.ended hn) hn fun _ _ => rfl

/-! ### What callers hear -/

theorem hear_told (l : Loader α) (n : Nat) (outcome : Except LoadFailure α) :
    l.hear (.told n outcome) = .told n outcome := by
  cases outcome <;> rfl

theorem hear_of_ended (hn : l.loads[n]? = some (.ended outcome)) :
    l.hear (.waiting n) = .told n outcome := by
  simp only [hear, hn]

theorem hear_of_underWay {load : Load α} (hn : l.loads[n]? = some load) (hunder : load.UnderWay) :
    l.hear (.waiting n) = .waiting n := by
  simp only [hear, hn]
  cases load with
  | ended => exact hunder.elim
  | aborted => exact hunder.elim
  | _ => rfl

/-- What a caller was told agrees with the load that it joined: it waits, or it was told the
outcome of the load. -/
def Agrees (l : Loader α) (c : Caller α) : Prop :=
  ∀ n, c.load? = some n → (c = .waiting n ∧ n < l.loads.length) ∨
    ∃ outcome, l.loads[n]? = some (.ended outcome) ∧ c = .told n outcome

/-- What all callers were told agrees with their loads. -/
def Informed (l : Loader α) : Prop := ∀ c ∈ l.callers, l.Agrees c

theorem Agrees.turn (h : Turn l m l') {c : Caller α} (hc : l.Agrees c) : l'.Agrees c := by
  intro n hn
  rcases hc n hn with ⟨hwaiting, hlt⟩ | ⟨outcome, hended, htold⟩
  · exact Or.inl ⟨hwaiting, Nat.lt_of_lt_of_le hlt h.length_le⟩
  · exact Or.inr ⟨outcome, h.ended hended, htold⟩

theorem agrees_cancelled (l : Loader α) : l.Agrees .cancelled := by
  intro n hn
  cases hn

theorem agrees_waiting (hn : n < l.loads.length) : l.Agrees (.waiting n) := by
  intro i hi
  obtain rfl := Option.some.inj hi
  exact Or.inl ⟨rfl, hn⟩

theorem agrees_told (hn : l.loads[n]? = some (.ended outcome)) : l.Agrees (.told n outcome) := by
  intro i hi
  rw [Caller.load?_told] at hi
  obtain rfl := Option.some.inj hi
  exact Or.inr ⟨outcome, hn, rfl⟩

theorem Agrees.cancel {c : Caller α} (hc : l.Agrees c) : l.Agrees c.cancel := by
  cases c with
  | waiting => exact l.agrees_cancelled
  | _ => exact hc

theorem Agrees.hear {c : Caller α} (hc : l.Agrees c) : l.Agrees (l.hear c) := by
  cases c with
  | waiting n =>
    have hlt : n < l.loads.length := by
      rcases hc n rfl with ⟨-, hlt⟩ | ⟨outcome, hended, -⟩
      · exact hlt
      · exact (List.getElem?_eq_some_iff.mp hended).1
    rw [Loader.hear]
    split
    · next hended => exact agrees_told hended
    · exact l.agrees_cancelled
    · exact agrees_waiting hlt
  | _ => exact hc

theorem mem_modify {β : Type} {xs : List β} {i : Nat} {f : β → β} {x : β} (h : x ∈ xs.modify i f) :
    x ∈ xs ∨ ∃ y ∈ xs, x = f y := by
  obtain ⟨j, hj⟩ := List.mem_iff_getElem?.mp h
  rw [List.getElem?_modify] at hj
  obtain ⟨y, hy, rfl⟩ := Option.map_eq_some_iff.mp hj
  have hmem := List.mem_of_getElem? hy
  split
  · exact Or.inr ⟨y, hmem, rfl⟩
  · exact Or.inl hmem

/-- In every turn callers are told the outcomes of their loads, if anything. -/
theorem Informed.turn (hl : l.Sound) (hi : l.Informed) (h : Turn l m l') : l'.Informed := by
  have hkept : ∀ c ∈ l.callers, l'.Agrees c := fun c hc => (hi c hc).turn h
  have hone : ∀ c, l'.Agrees c → ∀ d ∈ l.callers ++ [c], l'.Agrees d := by
    intro c hc d hd
    rcases List.mem_append.mp hd with hd | hd
    · exact hkept d hd
    · rwa [List.mem_singleton.mp hd]
  cases h with
  | @serve n store hopened =>
    have htold : l.Agrees (.told n (.ok store)) := agrees_told (hl.opened n store hopened).2
    exact hone _ htold
  | join hopened hpending =>
    obtain ⟨load, hload, hunder⟩ := hl.underWay _ hpending
    refine hone _ ?_
    rw [hear_of_underWay hload hunder]
    exact agrees_waiting (List.getElem?_eq_some_iff.mp hload).1
  | plan => exact hone _ (agrees_waiting (by simp))
  | tell =>
    intro c hc
    rcases mem_modify hc with hc | ⟨d, hd, rfl⟩
    · exact hi c hc
    · exact (hi d hd).hear
  | cancel =>
    intro c hc
    rcases mem_modify hc with hc | ⟨d, hd, rfl⟩
    · exact hi c hc
    · exact (hi d hd).cancel
  | _ => exact hkept

theorem informed_initial : Informed (initial : Loader α) := fun _ hc => by cases hc

/-- Callers are informed after every run in which no load is aborted. -/
theorem informed_play {ms : List (Move α)} (hl : l.Sound) (hi : l.Informed)
    (hms : ∀ m ∈ ms, m.aborts = false) : (l.play ms).Informed := by
  have hboth : (l.play ms).Sound ∧ (l.play ms).Informed :=
    play_induction (P := fun l => l.Sound ∧ l.Informed) (Q := fun m => !m.aborts)
      (fun l m l' hm h ⟨hl, hi⟩ => ⟨hl.turn (by simpa using hm) h, hi.turn hl h⟩) ⟨hl, hi⟩
      fun m hm => by simpa using hms m hm
  exact hboth.2

/-- Once a load has ended, each of its callers is told its outcome at its next turn. -/
theorem Informed.tell (hi : l.Informed) {i : Nat} {c : Caller α} (hc : l.callers[i]? = some c)
    (hjoined : c.load? = some n) (hn : l.loads[n]? = some (.ended outcome)) :
    (l.tell i).callers[i]? = some (.told n outcome) := by
  have hheard : l.hear c = .told n outcome := by
    rcases hi c (List.mem_of_getElem? hc) n hjoined with ⟨rfl, -⟩ | ⟨other, hother, rfl⟩
    · exact hear_of_ended hn
    · obtain rfl : other = outcome := by simpa using hother.symm.trans hn
      exact l.hear_told n other
  rw [Loader.tell, List.getElem?_modify_eq, hc]
  exact congrArg some hheard

/-- A caller that was told an outcome keeps it. -/
theorem Turn.told (h : Turn l m l') {i : Nat} (hi : l.callers[i]? = some (.told n outcome)) :
    l'.callers[i]? = some (.told n outcome) := by
  have hlt := (List.getElem?_eq_some_iff.mp hi).1
  cases h with
  | serve => exact (List.getElem?_append_left hlt).trans hi
  | join => exact (List.getElem?_append_left hlt).trans hi
  | plan => exact (List.getElem?_append_left hlt).trans hi
  | tell caller =>
    show (l.callers.modify caller l.hear)[i]? = _
    rw [List.getElem?_modify, hi]
    split
    · exact congrArg some (l.hear_told n outcome)
    · rfl
  | cancel caller =>
    show (l.callers.modify caller Caller.cancel)[i]? = _
    rw [List.getElem?_modify, hi]
    split
    · exact congrArg some (Caller.cancel_told n outcome)
    · rfl
  | _ => exact hi

theorem told_play {i : Nat} (hi : l.callers[i]? = some (.told n outcome)) (ms : List (Move α)) :
    (l.play ms).callers[i]? = some (.told n outcome) :=
  play_induction (Q := fun _ => true) (fun _ _ _ _ h hi => h.told hi) hi fun _ _ => rfl

/-! ### Cancelling a caller -/

/-- What becomes of some callers in a move. -/
def callersAfter (l : Loader α) (m : Move α) (callers : List (Caller α)) : List (Caller α) :=
  match m with
  | .ask =>
    callers ++ [match l.opened, l.pending with
      | some (load, store), _ => .served load store
      | none, some load => l.hear (.waiting load)
      | none, none => .waiting l.loads.length]
  | .tell caller => callers.modify caller l.hear
  | .cancel caller => callers.modify caller Caller.cancel
  | _ => callers

/-- A move does the same to loads and fetches whoever the callers are. -/
theorem move_withCallers (l : Loader α) (m : Move α) (callers : List (Caller α)) :
    move { l with callers } m = { l.move m with callers := l.callersAfter m callers } := by
  cases m with
  | ask =>
    cases hopened : l.opened with
    | some opened => simp only [move, ask, callersAfter, hopened]
    | none =>
      cases hpending : l.pending with
      | some load =>
        simp only [move, ask, callersAfter, hopened, hpending]
        rfl
      | none => simp only [move, ask, callersAfter, hopened, hpending]
  | start load =>
    simp only [move, start, callersAfter]
    split <;> rfl
  | arrive load a =>
    simp only [move, arrive, callersAfter]
    split <;> rfl
  | finish load =>
    simp only [move, finish, callersAfter]
    split <;> rfl
  | abort load =>
    simp only [move, abort, callersAfter]
    split <;> rfl
  | _ => rfl

/-- Callers are the same but for one of them. -/
def SameBut (caller : Nat) (cs ds : List (Caller α)) : Prop :=
  cs.length = ds.length ∧ ∀ i, i ≠ caller → cs[i]? = ds[i]?

theorem SameBut.modify {caller : Nat} {cs ds : List (Caller α)} (h : SameBut caller cs ds)
    (i : Nat) (f : Caller α → Caller α) : SameBut caller (cs.modify i f) (ds.modify i f) := by
  refine ⟨by simp [h.1], fun j hj => ?_⟩
  rw [List.getElem?_modify, List.getElem?_modify, h.2 j hj]

/-- Callers that are the same but for one stay so. -/
theorem SameBut.callersAfter {caller : Nat} {cs ds : List (Caller α)} (h : SameBut caller cs ds)
    (l : Loader α) (m : Move α) : SameBut caller (l.callersAfter m cs) (l.callersAfter m ds) := by
  cases m with
  | ask =>
    refine ⟨by simp [Loader.callersAfter, h.1], fun j hj => ?_⟩
    rw [Loader.callersAfter, Loader.callersAfter, List.getElem?_append, List.getElem?_append, h.1,
      h.2 j hj]
  | tell i => exact h.modify i _
  | cancel i => exact h.modify i _
  | _ => exact h

theorem play_sameBut {caller : Nat} {cs : List (Caller α)} (h : SameBut caller cs l.callers)
    (ms : List (Move α)) :
    ∃ ds, play { l with callers := cs } ms = { l.play ms with callers := ds } ∧
      SameBut caller ds (l.play ms).callers := by
  induction ms generalizing l cs with
  | nil => exact ⟨cs, rfl, h⟩
  | cons m ms ih =>
    have hmove : (l.move m).callers = l.callersAfter m l.callers :=
      congrArg Loader.callers (l.move_withCallers m l.callers)
    have hnext := h.callersAfter l m
    rw [← hmove] at hnext
    obtain ⟨ds, hds, hsame⟩ := ih hnext
    refine ⟨ds, ?_, hsame⟩
    rw [play_cons, move_withCallers]
    exact hds

/-- Cancelling a caller changes neither the loads and the fetches nor any other caller, whatever
happens afterwards. -/
theorem play_cancel (l : Loader α) (caller : Nat) (ms : List (Move α)) :
    ∃ callers, (l.cancel caller).play ms = { l.play ms with callers } ∧
      ∀ i, i ≠ caller → callers[i]? = (l.play ms).callers[i]? := by
  have h : SameBut caller (l.callers.modify caller Caller.cancel) l.callers := by
    exact ⟨by simp, fun i hi => by simp [hi.symm]⟩
  obtain ⟨ds, hds, hsame⟩ := play_sameBut h ms
  exact ⟨ds, hds, hsame.2⟩

end Loader

end JobSearch
