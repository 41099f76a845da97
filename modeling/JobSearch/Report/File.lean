import JobSearch.Json.Printer
import JobSearch.Report.Basic

/-!
# Files of reports

A document of reports is kept in a file, on one line, and comes back from there as YAML 1.1
understands it: line breaks inside quotes are folded, a number without a point but with an
exponent is text, and keys must be short. A file with a character that cannot be printed cannot
be read at all.

## Main definitions

* `Quoted.fold?` — quoted text with its line breaks folded.
* `Json.reread?` — a document as it comes back from a file.
* `Report.ofFile` — the reports of a document in a file.
-/

namespace JobSearch

namespace Quoted

/-- Whether a character can stand in a file; control characters are escaped before. -/
def isPrintable (c : Char) : Bool :=
  let n := c.toNat
  decide (n < 0x7F) || n == 0x85 || (decide (0xA0 ≤ n) && n != 0xFFFE && n != 0xFFFF)

/-- Whether a character ends a line; line feeds are escaped before. -/
def isBreak (c : Char) : Bool := c.toNat == 0x85 || c.toNat == 0x2028 || c.toNat == 0x2029

/-- A line break as it is kept. -/
def keptBreak (c : Char) : Char := if c.toNat = 0x85 then '\n' else c

/-- What becomes of some line breaks that follow each other: a single one becomes a space, and
of several the first is left out, but a line or paragraph separator is always kept. -/
def foldedBreaks (first : Char) (more : List Char) : List Char :=
  let more := more.map keptBreak
  if first.toNat ≠ 0x85 then first :: more else if more.isEmpty then [' '] else more

/-- Whether a line begins like one that separates documents. -/
def separates (cs : List Char) : Bool :=
  (cs.take 3 == ['-', '-', '-'] || cs.take 3 == ['.', '.', '.']) &&
    (cs[3]?).any fun c => c == ' ' || isBreak c

/-- What is being read. -/
inductive Place where
  /-- Text, with some blanks that may turn out to end a line. -/
  | words (blanks : Nat)
  /-- The blanks behind some line breaks. -/
  | breaks (first : Char) (more : List Char)

/-- Text with its line breaks folded, read on from a place; nothing if it holds a line that
separates documents. -/
def foldFrom : Place → List Char → Option (List Char)
  | .words blanks, [] => some (List.replicate blanks ' ')
  | .breaks first more, [] => some (foldedBreaks first more)
  | .words blanks, c :: rest =>
    if c = ' ' then foldFrom (.words (blanks + 1)) rest
    else if isBreak c then
      if separates rest then none else foldFrom (.breaks c []) rest
    else (foldFrom (.words 0) rest).map (List.replicate blanks ' ' ++ c :: ·)
  | .breaks first more, c :: rest =>
    if c = ' ' then foldFrom (.breaks first more) rest
    else if isBreak c then
      if separates rest then none else foldFrom (.breaks first (more ++ [c])) rest
    else (foldFrom (.words 0) rest).map (foldedBreaks first more ++ c :: ·)

/-- Quoted text with its line breaks folded: blanks around them are left out. -/
def fold? (s : String) : Option String :=
  if !s.toList.all isPrintable then none
  else if s.toList.any isBreak then (foldFrom (.words 0) s.toList).map String.ofList
  else some s

/-- The length that a key may have with its quotes. -/
def keyLimit : Nat := 1024

/-- Whether text can be a key: it stands on one line and is not too long. -/
def isKey (s : String) : Bool :=
  s.toList.all (fun c => isPrintable c && !isBreak c) &&
    decide ((Json.stringText s).length ≤ keyLimit)

end Quoted

namespace Json

/-- A double as it comes back from a file: without a point it is text. -/
def rereadReal (x : Float) : Json :=
  let written := realText x
  if written.contains '.' then .real x else .text written

/-- A document as it comes back from a file, if it does. -/
def reread? : Json → Option Json
  | real x => some (rereadReal x)
  | text s => (Quoted.fold? s).map text
  | list items => (rereadItems items).map list
  | object members => (rereadMembers members).map object
  | v => some v
where
  /-- The items of a list as they come back. -/
  rereadItems : List Json → Option (List Json)
    | [] => some []
    | v :: rest => do return (← reread? v) :: (← rereadItems rest)
  /-- The members of an object as they come back. -/
  rereadMembers : List (String × Json) → Option (List (String × Json))
    | [] => some []
    | (k, v) :: rest =>
      if Quoted.isKey k then do return (k, ← reread? v) :: (← rereadMembers rest) else none

end Json

/-- The reports of a document that is kept in a file. -/
def Report.ofFile (place : String) (document : Json) : Except Fault (List Report) :=
  match document.reread? with
  | some document => Report.readAll place document
  | none => .error .unreadableReports

end JobSearch
