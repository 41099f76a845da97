import JobSearch.Json.Basic
import JobSearch.Number.Significant
import JobSearch.Text.Blank
import JobSearch.Text.Like

/-!
# Cells

What a table stores and what a statement is given as a parameter: nothing, an integer, a
double, text, or bytes. Numbers compare by their exact value whatever their kind, all numbers
come before all text, and text compares by code points unless its column compares in a way of
its own. A comparison with nothing is neither true nor false.

## Main definitions

* `Collation` — ways of comparing text.
* `Cell` — a stored value.
* `Cell.le` — the order in which results are sorted.
* `Truth` — the three truth values of a condition.
* `Cell.equals`, `Cell.atLeast`, `Cell.atMost` — comparisons.
-/

namespace JobSearch

/-- A way of comparing text other than by its code points. -/
inductive Collation where
  /-- The letters `A` to `Z` count as their lower case. -/
  | caseless
  /-- Blanks at the end do not count. -/
  | unpadded
  /-- Text is compared byte by byte in units of two bytes, of which the low byte is the first or
  the last. -/
  | paired (lowFirst : Bool)
  deriving DecidableEq

/-- A character in units of two bytes: one beyond the first `2 ^ 16` takes two. -/
def unitsOfChar (c : Char) : List Nat :=
  let n := c.toNat
  if n < 0x10000 then [n] else [0xD800 + (n - 0x10000) / 1024, 0xDC00 + (n - 0x10000) % 1024]

/-- Text in units of two bytes, each byte as the character of its value. -/
def pairedText (lowFirst : Bool) (s : String) : String :=
  String.ofList ((s.toList.flatMap unitsOfChar).flatMap fun u =>
    let (low, high) := (Char.ofNat (u % 256), Char.ofNat (u / 256))
    if lowFirst then [low, high] else [high, low])

/-- The text that stands for all text that is the same; its order is that of the text. -/
def Collation.fold : Collation → String → String
  | caseless, s => Text.lowerAscii s
  | unpadded, s => Text.dropRight (· == ' ') s
  | paired lowFirst, s => pairedText lowFirst s

/-- A stored value. -/
inductive Cell where
  | null
  | int (n : Int)
  | real (x : Float)
  | text (s : String)
  /-- Text of a column that compares in its own way. -/
  | folded (c : Collation) (s : String)
  /-- Bytes that are no text, or that were stored as text without being any. -/
  | bytes (b : List UInt8) (asText : Bool)
  deriving DecidableEq, Inhabited

namespace Cell

/-- What a comparison of cells looks at. A double that is no number is stored as nothing. -/
inductive Key where
  | nothing
  | number (p : Number.Point)
  | text (s : String)
  /-- Bytes, each as the character of its value. -/
  | bytes (s : String)
  deriving DecidableEq

/-- Bytes, each as the character of its value. -/
def byteText (b : List UInt8) : String := String.ofList (b.map fun x => Char.ofNat x.toNat)

/-- The key of a cell. -/
def key : Cell → Key
  | null => .nothing
  | int n => .number (.exactly n)
  | real x => match (Number.Reading.ofFloat x).point? with
    | some p => .number p
    | none => .nothing
  | text s => .text s
  | folded c s => .text (c.fold s)
  | bytes b asText => if asText then .text (byteText b) else .bytes (byteText b)

/-- Nothing comes first, then the numbers, then text, then bytes. -/
def Key.le : Key → Key → Bool
  | nothing, _ => true
  | _, nothing => false
  | number p, number q => p.le q
  | number _, _ => true
  | _, number _ => false
  | text s, text t => decide (s ≤ t)
  | text _, bytes _ => true
  | bytes _, text _ => false
  | bytes s, bytes t => decide (s ≤ t)

theorem Key.le_total (a b : Key) : (a.le b || b.le a) = true := by
  cases a <;> cases b <;> simp [Key.le, String.le_total]
  simpa using Number.Point.le_total _ _

theorem Key.le_trans (a b c : Key) (hab : a.le b = true) (hbc : b.le c = true) :
    a.le c = true := by
  cases a <;> cases b <;> cases c <;> simp_all [Key.le]
  · exact Number.Point.le_trans _ _ _ hab hbc
  · exact String.le_trans hab hbc
  · exact String.le_trans hab hbc

/-- The order in which results are sorted. -/
def le (a b : Cell) : Bool := a.key.le b.key

/-- Whether two cells belong to one group: nothing and nothing do. -/
def same (a b : Cell) : Bool := a.key == b.key

/-- Whether a cell holds nothing. -/
def isNull (c : Cell) : Bool := c.key == .nothing

/-- Bytes as text, if they are any; else each as the character of its value. -/
def decoded (b : List UInt8) : String := (String.fromUTF8? ⟨b.toArray⟩).getD (byteText b)

/-- A cell as a value of a document. -/
def toJson : Cell → Json
  | null => .null
  | int n => .int n
  | real x => .real x
  | text s => .text s
  | folded _ s => .text s
  | bytes b _ => .text (decoded b)

/-- A cell as a label. -/
def label : Cell → String
  | bytes b _ => Text.quotedBytes b
  | c => c.toJson.label

/-- A cell as text, if it holds something. -/
def asText? (c : Cell) : Option String :=
  if c.isNull then none
  else match c with
    | real x => some (Number.storedText x)
    | c => some c.toJson.label

/-- Text in a column that compares in a way of its own. -/
def collated (collation : Option Collation) (cell : Cell) : Cell :=
  match collation, cell with
  | some c, text s => folded c s
  | _, cell => cell

/-- The way in which a cell compares, if it has one of its own. -/
def collation? : Cell → Option Collation
  | folded c _ => some c
  | _ => none

/-- Text without a way of its own to compare. -/
def plain : Cell → Cell
  | folded _ s => text s
  | c => c

/-- Whether a cell fits the storage: an integer takes at most 64 bits. -/
def fits : Cell → Bool
  | int n => decide (-(Number.twoTo 63 : Int) ≤ n) && decide (n < (Number.twoTo 63 : Int))
  | _ => true

end Cell

/-- The outcome of a condition on a row. -/
inductive Truth where
  | yes
  | no
  | unknown
  deriving DecidableEq

namespace Truth

/-- A decided outcome. -/
def ofBool (b : Bool) : Truth := if b then yes else no

/-- Both conditions hold. -/
def and : Truth → Truth → Truth
  | no, _ => no
  | _, no => no
  | yes, yes => yes
  | _, _ => unknown

/-- One of two conditions holds. -/
def or : Truth → Truth → Truth
  | yes, _ => yes
  | _, yes => yes
  | no, no => no
  | _, _ => unknown

/-- A row is kept only if the condition is true of it. -/
def holds : Truth → Bool
  | yes => true
  | _ => false

@[simp] theorem holds_ofBool (b : Bool) : (ofBool b).holds = b := by cases b <;> rfl

@[simp] theorem holds_and (a b : Truth) : (a.and b).holds = (a.holds && b.holds) := by
  cases a <;> cases b <;> rfl

@[simp] theorem holds_or (a b : Truth) : (a.or b).holds = (a.holds || b.holds) := by
  cases a <;> cases b <;> rfl

end Truth

namespace Cell

/-- A comparison of two cells, undecided if one of them holds nothing. The first cell that
compares in a way of its own decides how text compares. -/
def compare (decided : Key → Key → Bool) (a b : Cell) : Truth :=
  if a.isNull || b.isNull then .unknown
  else
    match a.collation?.or b.collation? with
    | none => .ofBool (decided a.key b.key)
    | some c =>
      .ofBool (decided (a.plain.collated (some c)).key (b.plain.collated (some c)).key)

/-- Whether two cells are equal. -/
def equals (a b : Cell) : Truth := compare (· == ·) a b

/-- Whether the first cell is at least the second. -/
def atLeast (a b : Cell) : Truth := compare (fun k l => l.le k) a b

/-- Whether the first cell is at most the second. -/
def atMost (a b : Cell) : Truth := compare (fun k l => k.le l) a b

/-- Whether a cell is one of several. -/
def oneOf (a : Cell) (bs : List Cell) : Truth :=
  bs.foldr (fun b t => (a.equals b).or t) .no

/-- Whether the text of a cell matches a pattern. -/
def like (a : Cell) (pattern : String) : Truth :=
  match a.asText? with
  | some s => .ofBool (Text.likeMatches (Text.searched pattern) (Text.searched s))
  | none => .unknown

/-- Text with the letters `A` to `Z` in lower case; nothing stays nothing. -/
def lowerAscii (a : Cell) : Cell :=
  match a.asText? with
  | some s => text (Text.lowerAscii s)
  | none => null

end Cell

end JobSearch
