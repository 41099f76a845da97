import JobSearch.Text.CaseTable
import JobSearch.Text.CasedTable

/-!
# Letter case

Lower and upper case of text in any script. Lower-casing looks at the surroundings of one
letter: a capital sigma at the end of a word becomes the final form. A dataset itself folds
only the letters `A` to `Z`; `lowerAscii` is that smaller map.

## Main definitions

* `lower`, `upper` — the case maps of the character standard.
* `isUpper` — the upper-case characters.
* `lowerAscii` — the case map of the letters `A` to `Z`.
-/

namespace JobSearch.Text

/-- Whether one of the ranges holds the character. -/
def inRanges (ranges : List (Nat × Nat)) (c : Char) : Bool :=
  ranges.any fun r => decide (r.1 ≤ c.toNat) && decide (c.toNat ≤ r.2)

/-- Whether a character belongs to the upper case. -/
def isUpper (c : Char) : Bool := uppercaseRuns.any (·.has c.toNat)

/-- The lower case of a letter `A` to `Z`; other characters stay. -/
def lowerAsciiChar (c : Char) : Char :=
  if 'A' ≤ c ∧ c ≤ 'Z' then Char.ofNat (c.toNat + 32) else c

/-- Text with the letters `A` to `Z` in lower case. -/
def lowerAscii (s : String) : String := String.ofList (s.toList.map lowerAsciiChar)

/-- The lower case of a character by itself: a capital dotted I keeps its dot as a mark. -/
def lowerChar (c : Char) : List Char :=
  if c.toNat = 0x130 then ['i', Char.ofNat 0x307]
  else if c.toNat < 0x80 then [lowerAsciiChar c]
  else [Char.ofNat (mapCode lowerRuns c.toNat)]

/-- Whether the nearest character that is not passed over is cased. -/
def meetsCased (s : List Char) : Bool :=
  match s.dropWhile (inRanges ignorableRanges) with
  | [] => false
  | c :: _ => inRanges casedRanges c

/-- The lower case of text that follows `before`, which is given backwards. -/
def lowerAfter (before : List Char) : List Char → List Char
  | [] => []
  | c :: rest =>
    let here :=
      if c.toNat = 0x3A3 then
        [Char.ofNat (if meetsCased before && !meetsCased rest then 0x3C2 else 0x3C3)]
      else lowerChar c
    here ++ lowerAfter (c :: before) rest

/-- Text in lower case. -/
def lower (s : String) : String := String.ofList (lowerAfter [] s.toList)

/-- The upper case of a character, which may be several characters. -/
def upperChar (c : Char) : List Char :=
  match upperExpansions.lookup c.toNat with
  | some codes => codes.map Char.ofNat
  | none => [Char.ofNat (mapCode upperRuns c.toNat)]

/-- Text in upper case. -/
def upper (s : String) : String := String.ofList (s.toList.flatMap upperChar)

end JobSearch.Text
