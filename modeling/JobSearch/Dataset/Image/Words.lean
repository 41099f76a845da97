import JobSearch.Dataset.Image.Fault
import JobSearch.Json.Reader
import JobSearch.Text.Case

/-!
# The words of a declaration

A declaration consists of words, quoted names, quoted text, numbers and signs. Blanks and
remarks stand between them.

## Main definitions

* `Token`, `tokensOf` — the words of a declaration.
* `Reading` — steps that read tokens.
-/

namespace JobSearch.Image

/-- What a token is. -/
inductive TokenKind where
  /-- A word without quotes, in lower case. -/
  | word (s : String)
  /-- A quoted name. -/
  | name (s : String)
  /-- Quoted text. -/
  | text (s : String)
  | bytes (b : List UInt8)
  | number (s : String)
  | sign (s : String)
  /-- A quote that is not closed, a number that goes on as a word, or a character without use. -/
  | broken
  deriving DecidableEq

/-- A token, with the text that it was read from. -/
structure Token where
  kind : TokenKind
  written : String
  deriving DecidableEq

/-- The fault that a token is which stands where it may not. -/
def Token.fault (t : Token) : DeclarationFault :=
  if t.kind = .broken then .unrecognized t.written else .near t.written

/-- The fault that the next token is. -/
def faultAt (tokens : List Token) : DeclarationFault :=
  match tokens with
  | t :: _ => t.fault
  | [] => .incomplete

/-- Whether a character can begin a word. -/
def startsWord (c : Char) : Bool := c.isAlpha || c == '_' || decide (128 ≤ c.toNat)

/-- Whether a word can go on with a character. -/
def inWord (c : Char) : Bool := startsWord c || c.isDigit || c == '$'

/-- Whether a character is a blank. -/
def isDeclarationBlank (c : Char) : Bool :=
  c == ' ' || c == '\n' || c == '\t' || c == '\r' || c.toNat == 12

/-- The quote that closes a quoted name or text. -/
def closing? (c : Char) : Option Char :=
  if c = '"' ∨ c = '\'' ∨ c.toNat = 96 then some c
  else if c = '[' then some ']'
  else none

/-- What stands up to a closing quote, if there is one, and what stands behind it; two quotes
are one. -/
def quotedPart? (quote : Char) : List Char → Option (List Char × List Char)
  | [] => none
  | [c] => if c = quote then some ([], []) else none
  | c :: d :: rest =>
    if c = quote then
      if d = quote ∧ quote ≠ ']' then
        (quotedPart? quote rest).map fun (part, behind) => (c :: part, behind)
      else some ([], d :: rest)
    else (quotedPart? quote (d :: rest)).map fun (part, behind) => (c :: part, behind)

/-- What stands behind a remark that is closed by a star and a slash. -/
def behindRemark : List Char → List Char
  | '*' :: '/' :: rest => rest
  | _ :: rest => behindRemark rest
  | [] => []

/-- The bytes of pairs of hexadecimal digits. -/
def bytesOfDigits : List Char → List UInt8
  | a :: b :: rest =>
    ((Json.hexValue? a).getD 0 * 16 + (Json.hexValue? b).getD 0).toUInt8 :: bytesOfDigits rest
  | _ => []

/-- The number at the beginning of text, and the rest. -/
def numberPart (s : List Char) : List Char × List Char :=
  let digits (t : List Char) := (t.takeWhile Char.isDigit, t.dropWhile Char.isDigit)
  let (whole, rest) := digits s
  let (fraction, rest) := match rest with
    | '.' :: t => let (ds, t) := digits t; ('.' :: ds, t)
    | t => ([], t)
  match rest with
  | e :: sign :: t =>
    if e = 'e' ∨ e = 'E' then
      if sign = '+' ∨ sign = '-' then
        let (ds, u) := digits t
        if ds.isEmpty then (whole ++ fraction, rest) else (whole ++ fraction ++ e :: sign :: ds, u)
      else
        let (ds, u) := digits (sign :: t)
        if ds.isEmpty then (whole ++ fraction, rest) else (whole ++ fraction ++ e :: ds, u)
    else (whole ++ fraction, rest)
  | _ => (whole ++ fraction, rest)

/-- The signs of two characters. -/
def doubleSigns : List (List Char) :=
  ["||", "<=", ">=", "<>", "!=", "==", "<<", ">>"].map String.toList

/-- The signs of one character. -/
def singleSigns : List Char := "(),;.+-*/%=<>|&~?".toList

/-- The signs that stand before a word. -/
def namedSigns : List Char := "@#:$".toList

/-- The token that begins with a quote, and the rest. -/
def quotedToken (quote : Char) (toKind : String → TokenKind) (rest : List Char) :
    TokenKind × List Char :=
  match quotedPart? quote rest with
  | some (part, behind) => (toKind (String.ofList part), behind)
  | none => (.broken, [])

/-- Quoted digits as bytes, if each byte has two. -/
def bytesKind (digits : String) : TokenKind :=
  let cs := digits.toList
  if cs.length % 2 = 0 ∧ cs.all (fun c => (Json.hexValue? c).isSome) then
    .bytes (bytesOfDigits cs)
  else .broken

/-- The next token and the rest; nothing for a blank or a remark. -/
def nextToken (c : Char) (rest : List Char) : Option TokenKind × List Char :=
  if isDeclarationBlank c then (none, rest)
  else if c = '-' ∧ rest.head? = some '-' then (none, rest.dropWhile (· ≠ '\n'))
  else if c = '/' ∧ rest.head? = some '*' then (none, behindRemark (rest.drop 1))
  else
    let (kind, behind) :=
      match closing? c with
      | some quote =>
        quotedToken quote (fun s => if c = '\'' then .text s else .name s) rest
      | none =>
        if (c = 'x' ∨ c = 'X') ∧ rest.head? = some '\'' then
          quotedToken '\'' bytesKind (rest.drop 1)
        else if startsWord c then
          (.word (Text.lowerAscii (String.ofList (c :: rest.takeWhile inWord))),
            rest.dropWhile inWord)
        else if c.isDigit || (c == '.' && rest.head?.any Char.isDigit) then
          let (part, behind) := numberPart (c :: rest)
          if behind.head?.any inWord then (.broken, behind.dropWhile inWord)
          else (.number (String.ofList part), behind)
        else if doubleSigns.contains (c :: rest.take 1) then
          (.sign (String.ofList (c :: rest.take 1)), rest.drop 1)
        else if singleSigns.contains c then (.sign (String.ofList [c]), rest)
        else if namedSigns.contains c && rest.head?.any inWord then
          (.sign (String.ofList (c :: rest.takeWhile inWord)), rest.dropWhile inWord)
        else (.broken, rest)
    (some kind, behind)

/-- The tokens of text; `fuel` bounds their number. -/
def tokensFrom : (fuel : Nat) → List Char → List Token
  | 0, _ => []
  | _, [] => []
  | fuel + 1, c :: rest =>
    let (kind?, behind) := nextToken c rest
    let written := (c :: rest).take (rest.length + 1 - behind.length)
    (kind?.map fun kind => Token.mk kind (String.ofList written)).toList ++
      tokensFrom fuel behind

/-- The words of a declaration. -/
def tokensOf (s : String) : List Token := tokensFrom (s.length + 1) s.toList

/-- Whether a token is a word. -/
def Token.isWord (w : String) (t : Token) : Bool := t.kind == .word w

/-- Whether a token is a sign. -/
def Token.isSign (s : String) (t : Token) : Bool := t.kind == .sign s

/-- The words that are no names. -/
def reservedWords : List String :=
  ["add", "all", "alter", "and", "as", "autoincrement", "between", "case", "check", "collate",
    "commit", "constraint", "create", "default", "deferrable", "delete", "distinct", "drop",
    "else", "escape", "except", "exists", "foreign", "from", "group", "having", "in", "index",
    "insert", "intersect", "into", "is", "isnull", "join", "limit", "not", "nothing", "notnull",
    "null", "on", "or", "order", "primary", "references", "returning", "select", "set", "table",
    "then", "to", "transaction", "union", "unique", "update", "using", "values", "when", "where"]

/-- The name that a token is, as it was written. -/
def Token.name? (t : Token) : Option String :=
  match t.kind with
  | .word w => if reservedWords.contains w then none else some t.written
  | .name s => some s
  | .text s => some s
  | _ => none

/-- What stands between parentheses of which the first has been read, and what follows; `depth`
counts the open ones inside. -/
def groupPart (depth : Nat) : List Token → Except DeclarationFault (List Token × List Token)
  | [] => .error .incomplete
  | t :: rest =>
    if t.kind = .broken then .error t.fault
    else if t.isSign ")" then
      if depth = 0 then .ok ([], rest)
      else (groupPart (depth - 1) rest).map fun (inside, behind) => (t :: inside, behind)
    else
      (groupPart (if t.isSign "(" then depth + 1 else depth) rest).map
        fun (inside, behind) => (t :: inside, behind)

/-! ### Reading tokens one after the other -/

/-- A step that reads tokens from the left. -/
abbrev Reading (α : Type) := StateT (List Token) (Except DeclarationFault) α

namespace Reading

variable {α : Type}

/-- The next token may not stand where it does. -/
def refuse : Reading α := do throw (faultAt (← get))

/-- Whether the next token is of a kind. -/
def sees (p : Token → Bool) : Reading Bool := return (← get).head?.any p

/-- The next token is left out if it is of a kind; the answer says whether it was. -/
def takes (p : Token → Bool) : Reading Bool := do
  let here ← sees p
  if here then modify (·.drop 1)
  return here

/-- The next token, which must be of a kind, is left out. -/
def needs (p : Token → Bool) : Reading Unit := do
  if !(← takes p) then refuse

/-- The next tokens must be some words. -/
def needsWords (ws : List String) : Reading Unit := ws.forM fun w => needs (·.isWord w)

/-- The next token, whatever it is. -/
def next : Reading Token := do
  match ← get with
  | t :: rest => set rest; return t
  | [] => refuse

/-- A name. -/
def name : Reading String := do
  match ← get with
  | t :: rest =>
    match t.name? with
    | some s => set rest; return s
    | none => refuse
  | [] => refuse

/-- What stands up to a closing parenthesis of which the opening one has been read. -/
def group : Reading (List Token) := do
  match groupPart 0 (← get) with
  | .ok (inside, behind) => set behind; return inside
  | .error f => throw f

end Reading

end JobSearch.Image
