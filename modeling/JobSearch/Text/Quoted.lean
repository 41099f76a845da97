import JobSearch.Text.Case
import JobSearch.Text.PrintableTable

/-!
# Quoted text

Text shown inside a message stands in single quotes, or in double quotes if it holds a single
quote and no double one. The active quote and the backslash are escaped, and characters that
cannot be printed are written by their code.

## Main definitions

* `quoted` — text in quotes.
* `quotedBytes` — bytes in quotes.
-/

namespace JobSearch.Text

/-- Whether a character is shown as it is. -/
def isPrintable (c : Char) : Bool := inRanges printableRanges c

/-- A hexadecimal digit. -/
def hexDigit (n : Nat) : Char :=
  if n < 10 then Char.ofNat ('0'.toNat + n) else Char.ofNat ('a'.toNat + (n - 10))

/-- The lowest `width` hexadecimal digits of a number. -/
def hexDigits : (width : Nat) → Nat → List Char
  | 0, _ => []
  | width + 1, n => hexDigits width (n / 16) ++ [hexDigit (n % 16)]

/-- A character within text quoted by `quote`. -/
def quotedChar (quote c : Char) : List Char :=
  if c = quote ∨ c = '\\' then ['\\', c]
  else if c = '\n' then ['\\', 'n']
  else if c = '\r' then ['\\', 'r']
  else if c = '\t' then ['\\', 't']
  else if isPrintable c then [c]
  else if c.toNat < 0x100 then ['\\', 'x'] ++ hexDigits 2 c.toNat
  else if c.toNat < 0x10000 then ['\\', 'u'] ++ hexDigits 4 c.toNat
  else ['\\', 'U'] ++ hexDigits 8 c.toNat

/-- The quote that text is put in. -/
def quoteFor (s : List Char) : Char :=
  if '\'' ∈ s ∧ '"' ∉ s then '"' else '\''

/-- Text in quotes. -/
def quoted (s : String) : String :=
  let cs := s.toList
  let quote := quoteFor cs
  String.ofList ([quote] ++ cs.flatMap (quotedChar quote) ++ [quote])

/-- Bytes in quotes: those that stand for no plain character are written by their value. -/
def quotedBytes (bytes : List UInt8) : String :=
  let cs := bytes.map fun b => Char.ofNat b.toNat
  let quote := quoteFor cs
  let shown (c : Char) : List Char :=
    if c.toNat < 0x7F then quotedChar quote c else ['\\', 'x'] ++ hexDigits 2 c.toNat
  "b" ++ String.ofList ([quote] ++ cs.flatMap shown ++ [quote])

end JobSearch.Text
