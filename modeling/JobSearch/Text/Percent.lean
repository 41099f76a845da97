import JobSearch.Text.Quoted

/-!
# Percent signs

A character that cannot stand in an address is written as its bytes, each as a percent sign and
two hexadecimal digits. What is written in that way already stays.

## Main definitions

* `percentEncoded` — text in which only safe characters stand as they are.
-/

namespace JobSearch.Text

/-- A byte as a percent sign and two digits. -/
def percentByte (b : UInt8) : List Char := '%' :: (hexDigits 2 b.toNat).map Char.toUpper

/-- A character as its bytes. -/
def percentChar (c : Char) : List Char :=
  (String.ofList [c]).toUTF8.toList.flatMap percentByte

/-- Whether a character is a hexadecimal digit. -/
def isHexDigit (c : Char) : Bool :=
  c.isDigit || (decide ('a' ≤ c) && decide (c ≤ 'f')) || (decide ('A' ≤ c) && decide (c ≤ 'F'))

/-- Whether text begins with two hexadecimal digits. -/
def startsWithByte : List Char → Bool
  | a :: b :: _ => isHexDigit a && isHexDigit b
  | _ => false

/-- Whether a character never needs to be encoded. -/
def isUnreserved (c : Char) : Bool :=
  (decide (c.toNat < 128) && c.isAlphanum) || c == '-' || c == '.' || c == '_' || c == '~'

/-- Text in which only safe characters stand as they are. -/
def percentEncodedChars (safe : Char → Bool) : List Char → List Char
  | [] => []
  | c :: rest =>
    (if isUnreserved c || safe c || (c == '%' && startsWithByte rest) then [c]
      else percentChar c) ++ percentEncodedChars safe rest

/-- Text in which only safe characters stand as they are. -/
def percentEncoded (safe : Char → Bool) (s : String) : String :=
  String.ofList (percentEncodedChars safe s.toList)

end JobSearch.Text
