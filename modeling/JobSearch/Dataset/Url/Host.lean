import JobSearch.Number.Numeral
import JobSearch.Text.Case
import JobSearch.Text.HostTable
import JobSearch.Text.Percent
import JobSearch.Text.Punycode

/-!
# Hosts

A host is an address of four numbers, an address of up to eight groups in brackets, or a name.
Names are brought to lower case; a name with characters of other scripts is written in plain
letters, part by part.

## Main definitions

* `HostFault` — why a host is refused.
* `readHost` — a host in the form in which it is asked for.
-/

namespace JobSearch.Url

/-- Why a host is refused. -/
inductive HostFault where
  /-- It looks like an address of four numbers and is none. -/
  | badNumbers
  /-- It stands in brackets and is no address. -/
  | badGroups
  | badName
  deriving DecidableEq

/-! ### Addresses -/

/-- The numbers of a kind of text that is four groups of digits with any character between two
of them: which parts of it can end behind one more character. Part `2 k + 1` is group `k`, and
part `2 k` what precedes it. -/
def numbersStep (parts : List Nat) (c : Char) : List Nat :=
  (List.range 8).filter fun p =>
    (c.isDigit && (parts.contains p && p % 2 == 1 || p % 2 == 1 && parts.contains (p - 1))) ||
      (p % 2 == 0 && 0 < p && parts.contains (p - 1))

/-- Whether text looks like an address of four numbers. -/
def looksNumeric (s : List Char) : Bool := (s.foldl numbersStep [0]).contains 7

/-- Whether text is a number from 0 to 255 without needless zeros. -/
def isOctet (s : String) : Bool :=
  decide (0 < s.length) && decide (s.length ≤ 3) && s.toList.all Char.isDigit &&
    (s == "0" || !s.startsWith "0") && s.toNat?.any fun n => decide (n ≤ 255)

/-- Whether text is an address of four numbers. -/
def isFourNumbers (s : String) : Bool :=
  let parts := s.splitToList (· == '.')
  parts.length == 4 && parts.all isOctet

/-- Whether text is a group of up to four hexadecimal digits. -/
def isGroup (s : String) : Bool :=
  decide (0 < s.length) && decide (s.length ≤ 4) && s.toList.all Text.isHexDigit

/-- The groups of an address, of which the last may be written as four numbers; nothing if those
are no address. -/
def groupsOf? (s : String) : Option (List String) :=
  let parts := s.splitToList (· == ':')
  match parts.getLast? with
  | some last =>
    if last.contains '.' then
      if isFourNumbers last then some (parts.dropLast ++ ["0", "0"]) else none
    else some parts
  | none => none

/-- Whether groups are an address: eight of them, or fewer if one gap stands for the others. -/
def isGroupedAddress (parts : List String) : Bool :=
  let inner := (parts.drop 1).dropLast
  let gaps := (inner.filter (·.isEmpty)).length
  let isFull := parts.length == 8 && parts.all isGroup
  let before := parts.takeWhile (!·.isEmpty)
  let behind := (parts.reverse.takeWhile (!·.isEmpty)).reverse
  let hasSoundEnds :=
    (parts.head? != some "" || parts[1]? == some "") &&
      (parts.getLast? != some "" || parts.reverse[1]? == some "")
  decide (3 ≤ parts.length) && decide (parts.length ≤ 9) &&
    (if gaps = 0 then isFull
      else gaps == 1 && hasSoundEnds && before.all isGroup && behind.all isGroup &&
        decide (before.length + behind.length ≤ 7))

/-- Whether text is an address of groups, with or without the name of a zone. -/
def isAddress (s : String) : Bool :=
  let address := String.ofList (s.toList.takeWhile (· ≠ '%'))
  let zone := (s.toList.dropWhile (· ≠ '%')).drop 1
  let hasSoundZone := !s.contains '%' || (!zone.isEmpty && !zone.contains '%')
  !s.contains '/' && hasSoundZone && (groupsOf? address).any isGroupedAddress

/-! ### Names -/

/-- The characters besides letters and digits that a plain name may hold. -/
def nameMarks : List Char := "!$&'()*+,;=\"`\x7b\x7d%|\\".toList

/-- Whether a character is a dot of any script. -/
def isDot (c : Char) : Bool :=
  c == '.' || c.toNat == 0x3002 || c.toNat == 0xFF0E || c.toNat == 0xFF61

/-- Whether a part of a name may hold a character wherever it stands. -/
def isNameChar (c : Char) : Bool :=
  Text.inRanges Text.hostRanges c ||
    Text.alternateHostRanges.any fun r =>
      decide (r.1 ≤ c.toNat) && decide (c.toNat ≤ r.2) && c.toNat % 2 == r.1 % 2

/-- Whether a part of a name may hold a character between two others: the middle dot stands
between two letters `l`, and the digits of the two Arabic forms are not mixed. -/
def isPlaced (part : List Char) (before : Option Char) (c : Char) (behind : Option Char) : Bool :=
  if c.toNat = 0xB7 then before == some 'l' && behind == some 'l'
  else if 0x660 ≤ c.toNat ∧ c.toNat ≤ 0x669 then
    !part.any fun d => decide (0x6F0 ≤ d.toNat) && decide (d.toNat ≤ 0x6F9)
  else if 0x6F0 ≤ c.toNat ∧ c.toNat ≤ 0x6F9 then
    !part.any fun d => decide (0x660 ≤ d.toNat) && decide (d.toNat ≤ 0x669)
  else isNameChar c

/-- Whether all characters of a part of a name stand where they may. -/
def allPlaced (part : List Char) : Option Char → List Char → Bool
  | _, [] => true
  | before, c :: rest => isPlaced part before c rest.head? && allPlaced part (some c) rest

/-- Whether no letter is followed by a mark together with which it is one character. -/
def isComposed : List Char → Bool
  | a :: b :: rest =>
    !((Text.composedLetters.lookup b.toNat).getD []).contains a.toNat && isComposed (b :: rest)
  | _ => true

/-- How a character is written within a line. -/
inductive Direction where
  | leftToRight
  | rightToLeft
  /-- A digit that is used from left to right. -/
  | europeanDigit
  | arabicDigit
  /-- A hyphen, which goes with what surrounds it. -/
  | hyphen
  /-- A mark, which goes with the letter before it. -/
  | mark
  deriving DecidableEq

/-- How a character is written within a line. -/
def directionOf (c : Char) : Direction :=
  if c = '-' then .hyphen
  else if c.isDigit ∨ (0x6F0 ≤ c.toNat ∧ c.toNat ≤ 0x6F9) then .europeanDigit
  else if (0x660 ≤ c.toNat ∧ c.toNat ≤ 0x669) ∨ (0x10D30 ≤ c.toNat ∧ c.toNat ≤ 0x10D39) then
    .arabicDigit
  else if Text.inRanges Text.rightToLeftRanges c then .rightToLeft
  else if Text.inRanges Text.markRanges c then .mark
  else .leftToRight

/-- Whether a part of a name can be read in one direction. A part with a letter or a digit from
right to left begins with a letter; if that goes from right to left, so do all others and the
digits are of one kind, else none does. Its last character other than marks is a letter or a
digit. -/
def isOneWay (part : List Char) : Bool :=
  let ways := part.map directionOf
  let last := (ways.filter (· ≠ .mark)).getLast?
  if !(ways.contains .rightToLeft || ways.contains .arabicDigit) then true
  else if ways.head? = some .rightToLeft then
    !ways.contains .leftToRight && last != some .hyphen &&
      !(ways.contains .europeanDigit && ways.contains .arabicDigit)
  else false

/-- Whether a part of a name is sound: hyphens stand neither at its ends nor together at its
third and fourth place, no mark comes first, every character stands where it may, and the part
can be read in one direction. -/
def isSoundPart (part : List Char) : Bool :=
  !part.isEmpty && isComposed part && (part.drop 2).take 2 != ['-', '-'] &&
    part.head? != some '-' && part.getLast? != some '-' &&
    !part.head?.any (Text.inRanges Text.markRanges) && allPlaced part none part && isOneWay part

/-- How the plain form of a part begins that has characters of other scripts. -/
def plainMark : List Char := "xn--".toList

/-- The length that a part of a name may have. -/
def partLimit : Nat := 63

/-- A part of a name in plain letters. A part that has this form already stays. -/
def plainPart? (part : List Char) : Option (List Char) :=
  let isPlain := part.all (·.toNat < 128)
  let plain := if isPlain then part else plainMark ++ Text.Punycode.encode part
  let isSound :=
    if isPlain && plainMark.isPrefixOf part then
      decide (plainMark.length < part.length) && part.getLast? != some '-'
    else isSoundPart part
  if isSound && decide (plain.length ≤ partLimit) then some plain else none

/-- A name in plain letters; an empty last part is kept as a dot at the end. -/
def plainName? (name : String) : Option String := do
  let parts := (name.splitToList isDot).map String.toList
  let endsInDot := parts.getLast? == some []
  let plain ← (if endsInDot then parts.dropLast else parts).mapM plainPart?
  let written := ".".intercalate (plain.map String.ofList) ++ if endsInDot then "." else ""
  if written.length ≤ if endsInDot then 254 else 253 then some written else none

/-- A host in the form in which it is asked for. -/
def readHost (host : String) : Except HostFault String :=
  if host.isEmpty then .ok ""
  else if looksNumeric host.toList then
    if isFourNumbers host then .ok host else .error .badNumbers
  else if host.startsWith "[" && host.endsWith "]" then
    let address := String.ofList ((host.toList.drop 1).dropLast)
    if isAddress address then .ok address else .error .badGroups
  else if host.toList.all (·.toNat < 128) then
    .ok (Text.percentEncoded (nameMarks.contains ·) (Text.lower host))
  else
    match plainName? (Text.lower host) with
    | some name => .ok name
    | none => .error .badName

end JobSearch.Url
