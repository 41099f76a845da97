import JobSearch.Number.Amount
import JobSearch.Record.Checked

/-!
# Salaries

A salary is a range in the currency of the posting, and possibly a converted range that the
dataset itself holds. No conversion is ever computed: without a converted range the stored one
is shown under its own currency.

## Main definitions

* `Salary`, `Salary.read`, `Salary.toJson`.
* `Salary.display` — a salary in words.
-/

namespace JobSearch

/-- The salary of a posting. -/
structure Salary where
  min : Option Float
  max : Option Float
  currency : Option String
  period : Option String
  convertedMin : Option Float
  convertedMax : Option Float

namespace Salary

/-- A salary from the values given for its parts. -/
def read (part : String → Json) : Checked Salary :=
  let real (name : String) : Checked (Option Float) :=
    .ofExcept [name] ((part name).readOptional Json.readReal)
  let text (name : String) : Checked (Option String) :=
    .ofExcept [name] ((part name).readOptional Json.readText)
  Salary.mk <$> real "min" <*> real "max" <*> text "currency" <*> text "period"
    <*> real "min_mdl" <*> real "max_mdl"

/-- A salary as a document. -/
def toJson (s : Salary) : Json :=
  .object [
    ("min", .ofReal? s.min), ("max", .ofReal? s.max), ("currency", .ofText? s.currency),
    ("period", .ofText? s.period), ("min_mdl", .ofReal? s.convertedMin),
    ("max_mdl", .ofReal? s.convertedMax)]

/-- Whether the dataset holds a converted salary. -/
def hasConversion (s : Salary) : Bool := s.convertedMin.isSome

/-- What is shown where there is no salary. -/
def unspecified : String := "Not specified"

/-- A range in a currency. -/
def rangeText (low : Float) (high : Option Float) (currency : String) : String :=
  match high with
  | none => Number.amountText low ++ " " ++ currency
  | some high => Number.amountText low ++ " - " ++ Number.amountText high ++ " " ++ currency

/-- The currency that a posting names, in upper case. -/
def ownCurrency (s : Salary) : Option String :=
  s.currency.bind fun c => if c.isEmpty then none else some (Text.upper c)

/-- A salary in words: the converted range under the target currency, followed by the stored
range if its currency is another one; or the stored range under its own currency, for which
the default stands in only if the posting names none. -/
def display (s : Salary) (target default : String) : String :=
  let target := Text.upper target
  match s.convertedMin with
  | some low =>
    let converted := rangeText low s.convertedMax target
    match s.ownCurrency, s.min with
    | some own, some storedLow =>
      if own = target then converted
      else converted ++ " (" ++ rangeText storedLow s.max own ++ ")"
    | _, _ => converted
  | none =>
    match s.min with
    | none => unspecified
    | some low => rangeText low s.max (s.ownCurrency.getD (Text.upper default))

/-- The salary of a posting that may have none, in words. -/
def display? (s : Option Salary) (target default : String) : String :=
  match s with
  | none => unspecified
  | some s => s.display target default

end Salary

end JobSearch
