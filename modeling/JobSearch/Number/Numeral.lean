import JobSearch.Number.Shortest
import JobSearch.Text.Blank
import JobSearch.Text.DecimalDigit

/-!
# Numerals

Reading numbers from text. A numeral may be surrounded by blanks, signed, and grouped by
single underscores between digits. A real numeral has digits on at least one side of an
optional point, an optional exponent, or is one of the words for infinity and for no number.
Text that stands for a member of a record is read by rules of its own.

## Main definitions

* `Alphabet` — which characters are blanks and digits.
* `readReal?`, `readInteger` — the numbers that text denotes.
* `readPlainReal?`, `readPlainInteger` — the numbers that text denotes in a record.
* `intText` — an integer as text.
-/

namespace JobSearch.Number

/-- The characters that a reader of numerals takes for blanks and for digits. -/
structure Alphabet where
  blank : Char → Bool
  digit? : Char → Option Nat

/-- White space and the digits `0` to `9`. -/
def plainAlphabet : Alphabet := ⟨Text.isWhiteSpace, Text.plainDigitValue?⟩

/-- White space and the digits of all scripts. -/
def wideAlphabet : Alphabet := ⟨Text.isWhiteSpace, Text.digitValue?⟩

namespace Alphabet

variable (a : Alphabet)

/-- The digits that follow a digit, each after at most one underscore, and the rest. -/
def moreDigits : List Char → List Nat × List Char
  | [] => ([], [])
  | '_' :: c :: rest =>
    match a.digit? c with
    | some d => let (ds, r) := moreDigits rest; (d :: ds, r)
    | none => ([], '_' :: c :: rest)
  | c :: rest =>
    match a.digit? c with
    | some d => let (ds, r) := moreDigits rest; (d :: ds, r)
    | none => ([], c :: rest)

/-- The digits at the beginning of text, and the rest. -/
def digits : List Char → List Nat × List Char
  | [] => ([], [])
  | c :: rest =>
    match a.digit? c with
    | some d => let (ds, r) := a.moreDigits rest; (d :: ds, r)
    | none => ([], c :: rest)

end Alphabet

/-- Whether text begins with a minus sign, and what follows the sign if there is one. -/
def readSign : List Char → Bool × List Char
  | '-' :: rest => (true, rest)
  | '+' :: rest => (false, rest)
  | s => (false, s)

/-- The number with the given decimal digits. -/
def ofDigits (ds : List Nat) : Nat := ds.foldl (fun n d => 10 * n + d) 0

/-- The words that stand for an infinity. -/
def infinityWords : List (List Char) := ["inf".toList, "infinity".toList]

/-- The exponent at the beginning of text, zero if there is none, and the rest; nothing if the
exponent has no digits. -/
def Alphabet.readExponent? (a : Alphabet) : List Char → Option (Int × List Char)
  | [] => some (0, [])
  | c :: rest =>
    if c = 'e' ∨ c = 'E' then
      let (negative, body) := readSign rest
      match a.digits body with
      | ([], _) => none
      | (ds, after) => some (if negative then -(ofDigits ds : Int) else ofDigits ds, after)
    else some (0, c :: rest)

/-- The double denoted by an unsigned decimal numeral. -/
def Alphabet.readDecimal? (a : Alphabet) (negative : Bool) (s : List Char) : Option Float :=
  let (whole, afterWhole) := a.digits s
  let (fraction, afterFraction) := match afterWhole with
    | '.' :: rest => a.digits rest
    | rest => ([], rest)
  if whole.isEmpty && fraction.isEmpty then none
  else
    match a.readExponent? afterFraction with
    | some (exponent, []) =>
      some (ofDecimal negative (ofDigits (whole ++ fraction)) (exponent - fraction.length))
    | _ => none

/-- The double denoted by a numeral without blanks around it. -/
def Alphabet.readUnpadded? (a : Alphabet) (s : List Char) : Option Float :=
  let (negative, body) := readSign s
  let word := body.map fun c => if 'A' ≤ c ∧ c ≤ 'Z' then Char.ofNat (c.toNat + 32) else c
  if word ∈ infinityWords then some (infinity negative)
  else if word = "nan".toList then some notANumber
  else a.readDecimal? negative body

/-- The double that text in the digits of any script denotes. -/
def readReal? (s : String) : Option Float :=
  wideAlphabet.readUnpadded? (Text.trimBy wideAlphabet.blank s.toList)

/-! ### Integers in the digits of any script -/

/-- Why text denotes no integer. -/
inductive IntegerFault where
  | unreadable
  /-- There are more digits than are read. -/
  | tooLong (digits : Nat)
  deriving DecidableEq

/-- The most digits of an integer that are read from text. -/
def digitLimit : Nat := 4300

/-- The integer that text in the digits of any script denotes. Digits beyond the limit are
found before whatever follows them. -/
def readInteger (s : String) : Except IntegerFault Int :=
  let (negative, body) := readSign (Text.trimBy wideAlphabet.blank s.toList)
  match wideAlphabet.digits body with
  | ([], _) => .error .unreadable
  | (_, '_' :: _) => .error .unreadable
  | (ds, rest) =>
    if digitLimit < ds.length then .error (.tooLong ds.length)
    else if rest ≠ [] then .error .unreadable
    else .ok (if negative then -(ofDigits ds : Int) else ofDigits ds)

/-! ### Plain numbers

The members of a record may be given as text in the digits `0` to `9`. There underscores may
stand between any two characters, as long as they are single. -/

/-- Whether two underscores stand side by side. -/
def hasDoubleUnderscore : List Char → Bool
  | '_' :: '_' :: _ => true
  | _ :: rest => hasDoubleUnderscore rest
  | [] => false

/-- Text without its underscores, if they are single and none stands at an end. -/
def ungrouped? (s : List Char) : Option (List Char) :=
  if s.head? = some '_' ∨ s.getLast? = some '_' ∨ hasDoubleUnderscore s then none
  else some (s.filter (· ≠ '_'))

/-- The double that plain text denotes. Blanks may surround it if it has no underscores. -/
def readPlainReal? (s : String) : Option Float :=
  if s.contains '_' then (ungrouped? s.toList).bind plainAlphabet.readUnpadded?
  else plainAlphabet.readUnpadded? (Text.trimBy plainAlphabet.blank s.toList)

/-- Text without the zeros before its first other digit, among which underscores may stand;
before a point and at the end the last of them stays. -/
def dropLeadingZeros (s : List Char) : List Char :=
  match s with
  | '0' :: _ =>
    let isZero (c : Char) : Bool := c == '0' || c == '_'
    let kept := ((s.takeWhile isZero).getLast?).toList
    match s.dropWhile isZero with
    | [] => kept
    | '.' :: rest => kept ++ '.' :: rest
    | rest => rest
  | _ => s

/-- Text without a point and the zeros behind it, of which there must be one. -/
def dropZeroFraction (s : List Char) : List Char :=
  match s.dropWhile (· ≠ '.') with
  | _ :: '0' :: zeros => if zeros.all (· == '0') then s.takeWhile (· ≠ '.') else s
  | _ => s

/-- What is left of the text of an integer without what may be left out: blanks around it, a
plus sign, leading zeros, a fraction of zeros, and underscores. -/
def bareInteger? (s : String) : Option (List Char) :=
  let trimmed := Text.trimBy plainAlphabet.blank s.toList
  let unsigned := match trimmed with
    | '+' :: '-' :: _ => []
    | '+' :: rest => rest
    | other => other
  ungrouped? (dropZeroFraction (dropLeadingZeros unsigned))

/-- The integer that plain text denotes: at last a minus sign or none, and digits of which the
first is zero only if it is the only one. -/
def readPlainInteger (s : String) : Except IntegerFault Int :=
  match bareInteger? s with
  | none => .error .unreadable
  | some bare =>
    let (negative, body) := match bare with
      | '-' :: rest => (true, rest)
      | other => (false, other)
    match plainAlphabet.digits body with
    | ([], _) => .error .unreadable
    | (0 :: _ :: _, _) => .error .unreadable
    | (ds, rest) =>
      if digitLimit < ds.length + (if negative then 1 else 0) then .error (.tooLong ds.length)
      else if rest ≠ [] then .error .unreadable
      else .ok (if negative then -(ofDigits ds : Int) else ofDigits ds)

/-- A natural number as text. -/
def natText (n : Nat) : String := digitText (digitsOf n)

/-- An integer as text. -/
def intText (n : Int) : String := (if n < 0 then "-" else "") ++ natText n.natAbs

end JobSearch.Number
