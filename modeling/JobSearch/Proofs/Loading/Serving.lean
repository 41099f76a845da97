import JobSearch.Proofs.Loading.Callers
import JobSearch.Service

/-!
# Requests of a service whose dataset can be opened

When all that a caller brings about happens at once, it gets what is open, or it plans a load and
hears how the load ends (`Loader.loadNow_of_opened`, `Loader.loadNow_of_free`). So a service whose
fetches bring one dataset answers every request from this dataset, whatever it was asked before
(`Service.AnswersFrom.ask`).

## Main definitions

* `Service.AnswersFrom` — whatever the service opens is one dataset.
* `Service.serving` — a service of a dataset.
-/

namespace JobSearch

theorem foldl_modify_succ {β : Type} (f : β → β) (y : β) (is : List Nat) (ys : List β) :
    (is.map Nat.succ).foldl (fun zs i => zs.modify i f) (y :: ys) =
      y :: is.foldl (fun zs i => zs.modify i f) ys := by
  induction is generalizing ys with
  | nil => rfl
  | cons i is ih => exact ih (ys.modify i f)

/-- What is done to each place of a list in turn is done to all of it. -/
theorem foldl_modify_range {β : Type} (f : β → β) (xs : List β) :
    (List.range xs.length).foldl (fun ys i => ys.modify i f) xs = xs.map f := by
  induction xs with
  | nil => rfl
  | cons x xs ih =>
    rw [List.length_cons, List.range_succ_eq_map, List.foldl_cons, List.map_cons]
    exact (foldl_modify_succ f (f x) _ xs).trans (congrArg _ ih)

namespace Loader

variable {α : Type} {l : Loader α}

/-- Callers who have their turns hear what they can hear, and nothing else changes. -/
theorem play_tells (l : Loader α) (callers : List Nat) :
    l.play (callers.map .tell) =
      { l with callers := callers.foldl (fun cs i => cs.modify i l.hear) l.callers } := by
  induction callers generalizing l with
  | nil => rfl
  | cons i callers ih => exact ih (l.tell i)

/-- When every caller has its turn, all hear what they can hear. -/
theorem play_tellAll (l : Loader α) :
    l.play l.tellAll = { l with callers := l.callers.map l.hear } := by
  rw [tellAll, play_tells, foldl_modify_range]

/-- A caller gets what is open. -/
theorem loadNow_of_opened {n : Nat} {store : α} (hopened : l.opened = some (n, store))
    (hpending : l.pending = none) (a : Arrival α) :
    l.loadNow a =
      ({ l with callers := l.callers ++ [.served n store] }, .served n store) := by
  have hask : l.ask = { l with callers := l.callers ++ [.served n store] } := by
    rw [ask, hopened]
  have hstart : l.ask.start l.loads.length = l.ask := by
    rw [hask, start]
    simp only [List.getElem?_eq_none (Nat.le_refl _)]
  have hload : l.step .load = l.ask := hstart
  have harrive : l.ask.step (.arrive a) = l.ask := by
    rw [hask, step, moves]
    simp only [hpending]
    rfl
  simp only [loadNow, hload, harrive]
  rw [hask]
  simp only [List.getLast?_concat, Option.getD_some]

/-- The fetch of the pending load ends, and at once so does the load, and all callers hear. -/
theorem step_arrive {n fetch : Nat} (hpending : l.pending = some n)
    (hload : l.loads[n]? = some (.fetching fetch)) (a : Arrival α) :
    let ended : Loader α :=
      { l with
        opened := match a.outcome with
          | .ok store => some (n, store)
          | .error _ => l.opened
        pending := none
        loads := l.loads.set n (.ended a.outcome)
        fetches := l.fetches.set fetch .ended }
    l.step (.arrive a) = { ended with callers := l.callers.map ended.hear } := by
  intro ended
  have hlt := (List.getElem?_eq_some_iff.mp hload).1
  have harrive : l.arrive n a =
      { l with loads := l.loads.set n (.fetched a), fetches := l.fetches.set fetch .ended } := by
    rw [arrive, hload]
  have hfinish : (l.arrive n a).finish n = ended := by
    have hset : (l.loads.set n (.fetched a))[n]? = some (.fetched a) := List.getElem?_set_self hlt
    rw [harrive, finish]
    cases houtcome : a.outcome <;> simp [hset, houtcome, ended]
  have hmoves : l.moves (.arrive a) = [.arrive n a, .finish n] ++ ended.tellAll := by
    rw [moves]
    simp only [hpending]
    rfl
  calc l.step (.arrive a) = ((l.arrive n a).finish n).play ended.tellAll := by
        rw [step, hmoves, play_append]
        rfl
    _ = { ended with callers := l.callers.map ended.hear } := by
        rw [hfinish, play_tellAll]

/-- A caller for whom nothing is open plans a load and hears how it ends. -/
theorem loadNow_of_free (hopened : l.opened = none) (hpending : l.pending = none)
    (a : Arrival α) :
    (l.loadNow a).2 = .told l.loads.length a.outcome ∧ (l.loadNow a).1.pending = none ∧
      (l.loadNow a).1.opened =
        match a.outcome with
        | .ok store => some (l.loads.length, store)
        | .error _ => none := by
  have hload : l.step .load =
      { l with
        pending := some l.loads.length
        attempts := l.attempts + 1
        loads := l.loads ++ [.fetching l.fetches.length]
        fetches := l.fetches ++ [.inFlight]
        callers := l.callers ++ [.waiting l.loads.length] } := by
    simp [step, moves, play, move, ask, start, hopened, hpending]
  have hfetching : (l.step .load).loads[l.loads.length]? = some (.fetching l.fetches.length) := by
    rw [hload]
    exact List.getElem?_concat_length
  have harrive := step_arrive (show (l.step .load).pending = _ by rw [hload]) hfetching a
  rw [hload] at harrive
  rw [loadNow, hload, harrive]
  refine ⟨?_, rfl, ?_⟩
  · rw [List.map_append, List.map_singleton, List.getLast?_concat, Option.getD_some]
    exact hear_of_ended (by simp)
  · simp only [hopened]

end Loader

namespace Service

variable {α : Type} {s : Service} {store : Store}

/-- Whatever the service opens is one dataset, and no load is pending between its requests. -/
structure AnswersFrom (s : Service) (store : Store) : Prop where
  source : s.source = .opened store
  pending : s.loader.pending = none
  opened : ∀ n other, s.loader.opened = some (n, other) → other = store

theorem answersFrom_initial (settings : Settings) (store : Store) :
    (initial settings (.opened store)).AnswersFrom store :=
  ⟨rfl, rfl, fun _ _ h => by cases h⟩

/-- A service with the usual settings, whose fetches bring a dataset. -/
def serving (db : Database) : Service :=
  initial ⟨none, "", none, 30, 20, "MDL", true, none⟩ (.opened (.readable db))

theorem answersFrom_serving (db : Database) : (serving db).AnswersFrom (.readable db) :=
  answersFrom_initial _ _

namespace AnswersFrom

/-- The dataset is open, or the service opens it. -/
theorem store_eq (h : s.AnswersFrom store) :
    s.store.1 = .ok store ∧ s.store.2.AnswersFrom store := by
  cases hopened : s.loader.opened with
  | some opened? =>
    obtain ⟨n, other⟩ := opened?
    obtain rfl := h.opened n other hopened
    rw [Service.store, Loader.loadNow_of_opened hopened h.pending]
    exact ⟨rfl, h.source, h.pending, h.opened⟩
  | none =>
    obtain ⟨hcaller, hpending, hopen⟩ := Loader.loadNow_of_free hopened h.pending s.source
    rw [h.source] at hcaller hpending hopen
    simp only [Service.store, h.source, hcaller]
    refine ⟨rfl, rfl, hpending, fun n other hother => ?_⟩
    rw [hopen] at hother
    exact (Prod.mk.inj (Option.some.inj hother)).2.symm

/-- Every request is answered from the dataset, and the next one too. -/
theorem ask (h : s.AnswersFrom store) (request : Store → Except Fault α) :
    (s.ask request).1 = request store ∧ (s.ask request).2.AnswersFrom store := by
  obtain ⟨hstore, hnext⟩ := h.store_eq
  refine ⟨?_, hnext⟩
  rw [Service.ask]
  simp only [hstore]
  rfl

/-- A service that is closed opens the dataset again. -/
theorem close (h : s.AnswersFrom store) : s.close.AnswersFrom store :=
  ⟨h.source, h.pending, fun _ _ hother => by cases hother⟩

end AnswersFrom

end Service

end JobSearch
