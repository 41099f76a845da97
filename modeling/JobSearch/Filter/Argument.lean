import JobSearch.Filter.Reader

/-!
# Filter arguments

Criteria given as arguments `field=value`. A field may be given several values by several
arguments; of several values for a bound the last one counts.

## Main definitions

* `readArguments` — the flat mapping of some arguments.
-/

namespace JobSearch

/-- Text before and behind the first equals sign, if there is one. -/
def splitArgument (item : String) : Option (String × String) :=
  match item.toList.dropWhile (· ≠ '=') with
  | [] => none
  | _ :: value =>
    some (String.ofList (item.toList.takeWhile (· ≠ '=')), String.ofList value)

/-- What some arguments give: labels by field, and numbers by bound. -/
structure Arguments where
  labels : List (String × List String)
  bounds : List (String × Float)

/-- What is given, with one more argument. -/
def Arguments.add (a : Arguments) (item : String) : Except Fault Arguments :=
  match splitArgument item with
  | none => .error (.malformedFilter item)
  | some (field, value) =>
    if field.isEmpty then .error (.malformedFilter item)
    else if Bound.all.any fun b => b.key == field then
      match Number.readReal? value with
      | some x => .ok { a with bounds := Ordered.insert field x a.bounds }
      | none => .error (.notReal value)
    else
      let before := (Ordered.find? field a.labels).getD []
      .ok { a with labels := Ordered.insert field (before ++ [value]) a.labels }

/-- The flat mapping of some arguments, labels before bounds. -/
def readArguments (items : List String) : Except Fault (List (String × Json)) := do
  let a ← items.foldlM Arguments.add ⟨[], []⟩
  return a.labels.map (fun p => (p.1, .texts p.2)) ++ a.bounds.map fun p => (p.1, .real p.2)

end JobSearch
