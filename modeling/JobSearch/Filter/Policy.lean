import JobSearch.Fault

/-!
# Policies

How the terms of a filter are combined: all of them must hold, or one of them.

## Main definitions

* `Policy`, `Policy.ofJson`.
-/

namespace JobSearch

/-- How the terms of a filter are combined. -/
inductive Policy where
  /-- Every term must hold. -/
  | all
  /-- One term must hold. -/
  | any
  deriving DecidableEq

namespace Policy

/-- The name of a policy. -/
def key : Policy → String
  | all => "and"
  | any => "or"

/-- The policy that a value names. -/
def ofJson (v : Json) : Except Fault Policy :=
  match v with
  | .text "and" => .ok all
  | .text "or" => .ok any
  | _ => .error (.unknownPolicy v)

end Policy

end JobSearch
