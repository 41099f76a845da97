import JobSearch.Query.Statement

/-!
# Limits of the engine

An engine refuses statements beyond some limits: those that are nested too deeply, that have too
many values, or that compare with too long a pattern. The depth is counted as SQLite counts it: a
column counts two, conditions side by side nest to the left, each joined table adds its condition to
those of the statement, and an inner statement is read within the outer one. `AND` and `OR` stand
side by side only in parentheses here.

The first two limits show before a statement is answered. A pattern is looked at when it is compared
with, and in which order an engine tests the conditions on a row is its own affair, so whether it
comes to compare is part of the engine. Limits on the length of a statement, of a value and of the
whole result, which are a thousand million bytes and more, are left out.

## Main definitions

* `Limits`, `Limits.documented` — limits, and those of SQLite as it is documented.
* `Statement.depth` — how deeply a statement is nested.
* `Engine`, `Engine.leftToRight` — what decides whether a statement is refused.
* `Statement.Within` — a statement that no engine with some limits refuses.
-/

namespace JobSearch.Query

/-- Limits on statements. -/
structure Limits where
  /-- How deeply conditions may be nested. -/
  depth : Nat
  /-- How many values a statement may have. -/
  values : Nat
  /-- How many bytes a pattern may have. -/
  patternBytes : Nat
  deriving DecidableEq

/-- The limits of SQLite unless it is built with others. -/
def Limits.documented : Limits := ⟨1000, 32766, 50000⟩

/-- Which limit a statement exceeds. -/
inductive Excess where
  | depth (limit : Nat)
  | values
  | pattern
  deriving DecidableEq

/-- An excess in words. -/
def Excess.message : Excess → String
  | depth limit => "Expression tree is too large (maximum depth " ++ Number.natText limit ++ ")"
  | values => "too many SQL variables"
  | pattern => "LIKE or GLOB pattern too complex"

/-- Whether a pattern is too long. -/
def Limits.isExceededBy (l : Limits) (pattern : String) : Bool :=
  decide (l.patternBytes < pattern.utf8ByteSize)

/-! ### The depth of a statement -/

/-- The depth of a condition behind the one to its left, if there is one. -/
def depthBehind (left : Option Nat) (depth : Nat) : Nat :=
  match left with
  | none => depth
  | some d => max d depth + 1

/-- The depth of a comparison of a column with a value, or with another column. -/
def comparisonDepth : Nat := 3

/-- The depth of conditions with a number of comparisons behind them. -/
def depthBefore : Nat → Option Nat → Option Nat
  | 0, left => left
  | n + 1, left => depthBefore n (some (depthBehind left comparisonDepth))

/-- The depth of an inner statement: its conditions, and that its labels are all there. -/
def Carriers.depth (c : Carriers) : Nat :=
  max (comparisonDepth + 1) ((depthBefore c.source.joins.length (some comparisonDepth)).getD 0)

namespace Condition

variable {σ : Type}

/-- The depth of a condition together with what stands to its left. -/
def depthFrom : Condition Carriers → Option Nat → Nat
  | and a b, left => b.depthFrom (some (a.depthFrom left))
  | or a b, left => b.depthFrom (some (a.depthFrom left))
  | grouped a, left => depthBehind left (a.depthFrom none)
  | likeLowered _ _, left => depthBehind left (comparisonDepth + 1)
  | among _ _, left => depthBehind left (comparisonDepth + 2)
  | _, left => depthBehind left comparisonDepth

/-- The depth of a condition as it is written. -/
def depth (c : Condition Carriers) : Nat := c.depthFrom none

/-- The greatest depth of an inner statement. -/
def innerDepth : Condition Carriers → Nat
  | among _ s => s.depth
  | and a b => max a.innerDepth b.innerDepth
  | or a b => max a.innerDepth b.innerDepth
  | grouped a => a.innerDepth
  | _ => 0

/-- The patterns that a condition compares with. -/
def patterns : Condition σ → List String
  | like _ p => [p]
  | likeLowered _ p => [p]
  | and a b => a.patterns ++ b.patterns
  | or a b => a.patterns ++ b.patterns
  | grouped a => a.patterns
  | _ => []

/-- Whether a pattern beyond the limits is compared with when a condition is tested on a row from
left to right and no further than its outcome is open. -/
def comparesBeyond (l : Limits) (r : Joined) : Condition (List Cell) → Bool
  | like _ p => l.isExceededBy p
  | likeLowered _ p => l.isExceededBy p
  | and a b => a.comparesBeyond l r || ((a.truth r).holds && b.comparesBeyond l r)
  | or a b => a.comparesBeyond l r || (!(a.truth r).holds && b.comparesBeyond l r)
  | grouped a => a.comparesBeyond l r
  | _ => false

end Condition

/-- Whether a window may show a row. -/
def Window.showsRows : Window → Bool
  | all => true
  | first limit => limit ≠ 0
  | slice limit _ => limit ≠ 0

namespace Statement

/-- The depth of a statement as it is written. The other parts of a statement are not deep. -/
def writtenDepth (s : Statement) : Nat := (s.condition.map Condition.depth).getD 0

/-- The depth of a statement with the conditions of its joined tables and its inner statements. -/
def depth (s : Statement) : Nat :=
  (depthBefore s.source.joins.length (s.condition.map Condition.depth)).getD 0 +
    (s.condition.map Condition.innerDepth).getD 0

/-- The patterns that a statement compares with. -/
def patterns (s : Statement) : List String := (s.condition.map Condition.patterns).getD []

/-- A statement that exceeds none of some limits. -/
structure Within (s : Statement) (l : Limits) : Prop where
  depth : s.depth ≤ l.depth
  values : s.params.length ≤ l.values
  patterns : ∀ p ∈ s.patterns, p.utf8ByteSize ≤ l.patternBytes

instance (s : Statement) (l : Limits) : Decidable (s.Within l) :=
  decidable_of_iff (s.depth ≤ l.depth ∧ s.params.length ≤ l.values ∧
      ∀ p ∈ s.patterns, p.utf8ByteSize ≤ l.patternBytes)
    ⟨fun h => ⟨h.1, h.2.1, h.2.2⟩, fun h => ⟨h.depth, h.values, h.patterns⟩⟩

end Statement

/-! ### Engines -/

/-- What decides whether a statement is refused. -/
structure Engine where
  limits : Limits
  /-- Whether the search for the rows of a statement comes to compare with a pattern beyond the
  limits. -/
  compares : Database → Statement → Bool

namespace Engine

/-- An engine with the documented limits that tests the conditions on each row from left to right;
it looks at no row if none is to be shown. -/
def leftToRight : Engine where
  limits := .documented
  compares db s :=
    match s.source.rows db, s.condition with
    | .ok rows, some c =>
      match c.resolve (Carriers.find db) with
      | .ok c => s.window.showsRows && rows.any fun r => c.comparesBeyond .documented r
      | .error _ => false
    | _, _ => false

variable (e : Engine)

/-- Why a statement with a number of values is refused as it is read. -/
def excessWritten? (s : Statement) (values : Nat) : Option Excess :=
  if e.limits.depth < s.writtenDepth then some (.depth e.limits.depth)
  else if e.limits.values < values then some .values
  else none

/-- Why a statement is refused when its tables are joined. -/
def excessJoined? (s : Statement) : Option Excess :=
  if e.limits.depth < s.depth then some (.depth e.limits.depth) else none

/-- Why a statement is refused when its rows are looked for. -/
def excessCompared? (db : Database) (s : Statement) : Option Excess :=
  if s.patterns.any e.limits.isExceededBy && e.compares db s then some .pattern else none

end Engine

end JobSearch.Query
