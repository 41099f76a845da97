/-!
# Violations

A record read from a document may violate its rules in several places at once. A violation
names the place and says what is wrong there.

## Main definitions

* `Refusal`, `Refusal.message` — what can be wrong with a value.
* `Violation` — a refusal and its place.
-/

namespace JobSearch

/-- What is wrong with a value. -/
inductive Refusal where
  /-- Text that is no number stands for a number. -/
  | unreadableReal
  /-- A value that cannot be a number stands for one. -/
  | notReal
  /-- Text that is no integer stands for an integer. -/
  | unreadableInt
  /-- A value that cannot be an integer stands for one. -/
  | notInt
  /-- A number with a fraction stands for an integer. -/
  | fractional
  /-- An infinity or no number stands for an integer. -/
  | notFinite
  /-- An integer is longer than can be read. -/
  | tooLong
  /-- A number that must be positive is not. -/
  | belowOne
  /-- Text that is neither true nor false stands for a truth value. -/
  | unreadableBool
  /-- A value that cannot be a truth value stands for one. -/
  | notBool
  | notText
  | notList
  /-- A required member is absent. -/
  | missing
  /-- A part that cannot change was assigned to. -/
  | frozen
  /-- The value breaks a rule of its own. -/
  | broken (rule : String)
  deriving DecidableEq

/-- A refusal in words. -/
def Refusal.message : Refusal → String
  | unreadableReal => "Input should be a valid number, unable to parse string as a number"
  | notReal => "Input should be a valid number"
  | unreadableInt => "Input should be a valid integer, unable to parse string as an integer"
  | notInt => "Input should be a valid integer"
  | fractional => "Input should be a valid integer, got a number with a fractional part"
  | notFinite => "Input should be a finite number"
  | tooLong => "Unable to parse input string as an integer, exceeded maximum size"
  | belowOne => "Input should be greater than or equal to 1"
  | unreadableBool => "Input should be a valid boolean, unable to interpret input"
  | notBool => "Input should be a valid boolean"
  | notText => "Input should be a valid string"
  | notList => "Input should be a valid list"
  | missing => "Field required"
  | frozen => "Instance is frozen"
  | broken rule => "Value error, " ++ rule

/-- Something wrong in one place of a record. -/
structure Violation where
  /-- The keys and positions that lead to the place. -/
  place : List String
  refusal : Refusal
  deriving DecidableEq

end JobSearch
