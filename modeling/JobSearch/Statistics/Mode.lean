/-!
# Modes

The most frequent value of a list. Of several the one that reached the highest frequency first
is meant.

## Main definitions

* `mode?` — the most frequent value.
-/

namespace JobSearch

/-- How often values with the key of a value were seen. -/
def seenTimes {α κ : Type} [DecidableEq κ] (key : α → κ) (seen : List α) (x : α) : Nat :=
  (seen.filter fun y => key y = key x).length

/-- The most frequent value of a list of which `seen` was read, its count being `count`. -/
def modeAfter {α κ : Type} [DecidableEq κ] (key : α → κ) (seen : List α) (best : Option α)
    (count : Nat) : List α → Option α
  | [] => best
  | x :: rest =>
    let times := seenTimes key seen x + 1
    if count < times then modeAfter key (x :: seen) (some x) times rest
    else modeAfter key (x :: seen) best count rest

/-- The most frequent value; values with equal keys are the same. -/
def mode? {α κ : Type} [DecidableEq κ] (key : α → κ) (xs : List α) : Option α :=
  modeAfter key [] none 0 xs

end JobSearch
