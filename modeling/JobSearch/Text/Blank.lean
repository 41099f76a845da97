/-!
# Blank characters

Two sets of characters count as blank. The white space of the character standard surrounds
numbers; trimming search text and terms also removes the four information separators.

## Main definitions

* `isWhiteSpace`, `isBlank` — the two sets.
* `trimBy`, `trim` — text without the characters of a set at its ends.
-/

namespace JobSearch.Text

/-- The white space of the character standard. -/
def isWhiteSpace (c : Char) : Bool :=
  let n := c.toNat
  (decide (0x9 ≤ n) && decide (n ≤ 0xD)) || n == 0x20 || n == 0x85 || n == 0xA0 || n == 0x1680 ||
    (decide (0x2000 ≤ n) && decide (n ≤ 0x200A)) || n == 0x2028 || n == 0x2029 || n == 0x202F ||
    n == 0x205F || n == 0x3000

/-- White space and the information separators. -/
def isBlank (c : Char) : Bool :=
  isWhiteSpace c || (decide (0x1C ≤ c.toNat) && decide (c.toNat ≤ 0x1F))

/-- Text without the characters of a set at either end. -/
def trimBy (p : Char → Bool) (s : List Char) : List Char :=
  ((s.dropWhile p).reverse.dropWhile p).reverse

/-- Text without blank characters at either end. -/
def trim (s : String) : String := String.ofList (trimBy isBlank s.toList)

/-- Text without a character at its end. -/
def dropRight (p : Char → Bool) (s : String) : String :=
  String.ofList (s.toList.reverse.dropWhile p).reverse

/-- Text without a character at either end. -/
def dropBoth (p : Char → Bool) (s : String) : String := String.ofList (trimBy p s.toList)

end JobSearch.Text
