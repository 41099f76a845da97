import JobSearch.Json.Basic

/-!
# Reading documents

A document is read from its characters. A repeated key of an object keeps its first place and
takes its last value. A number with a point or an exponent is a double, any other number an
exact integer. The words `NaN`, `Infinity` and `-Infinity` are doubles.

## Main definitions

* `Json.read?` — the value that text denotes.
-/

namespace JobSearch.Json

/-- The blanks between the parts of a document. -/
def isSpace (c : Char) : Bool := c == ' ' || c == '\n' || c == '\r' || c == '\t'

/-- Text behind the blanks at its beginning. -/
def skipSpaces (s : List Char) : List Char := s.dropWhile isSpace

/-- The value of a hexadecimal digit. -/
def hexValue? (c : Char) : Option Nat :=
  if '0' ≤ c ∧ c ≤ '9' then some (c.toNat - '0'.toNat)
  else if 'a' ≤ c ∧ c ≤ 'f' then some (c.toNat - 'a'.toNat + 10)
  else if 'A' ≤ c ∧ c ≤ 'F' then some (c.toNat - 'A'.toNat + 10)
  else none

/-- The number written by four hexadecimal digits. -/
def unit? (a b c d : Char) : Option Nat := do
  let a ← hexValue? a
  let b ← hexValue? b
  let c ← hexValue? c
  let d ← hexValue? d
  return ((a * 16 + b) * 16 + c) * 16 + d

/-- The character that a pair of surrogates stands for. -/
def pairChar (high low : Nat) : Char :=
  Char.ofNat (0x10000 + (high - 0xD800) * 0x400 + (low - 0xDC00))

/-- The character of a unit; a lone surrogate has none and is replaced. -/
def unitChar (n : Nat) : Char :=
  if 0xD800 ≤ n ∧ n ≤ 0xDFFF then Char.ofNat 0xFFFD else Char.ofNat n

/-- The characters of a string up to its closing quote, and the rest behind the quote. -/
def stringBody? : List Char → Option (List Char × List Char)
  | [] => none
  | '"' :: rest => some ([], rest)
  | '\\' :: 'u' :: a :: b :: c :: d :: '\\' :: 'u' :: a' :: b' :: c' :: d' :: rest =>
    match unit? a b c d, unit? a' b' c' d' with
    | some high, some low =>
      if 0xD800 ≤ high ∧ high ≤ 0xDBFF ∧ 0xDC00 ≤ low ∧ low ≤ 0xDFFF then
        (stringBody? rest).map fun (s, r) => (pairChar high low :: s, r)
      else
        (stringBody? ('\\' :: 'u' :: a' :: b' :: c' :: d' :: rest)).map
          fun (s, r) => (unitChar high :: s, r)
    | _, _ => none
  | '\\' :: 'u' :: a :: b :: c :: d :: rest =>
    match unit? a b c d with
    | some n => (stringBody? rest).map fun (s, r) => (unitChar n :: s, r)
    | none => none
  | '\\' :: e :: rest =>
    let plain : Option Char := match e with
      | '"' => some '"'
      | '\\' => some '\\'
      | '/' => some '/'
      | 'b' => some (Char.ofNat 8)
      | 'f' => some (Char.ofNat 12)
      | 'n' => some '\n'
      | 'r' => some '\r'
      | 't' => some '\t'
      | _ => none
    match plain with
    | some c => (stringBody? rest).map fun (s, r) => (c :: s, r)
    | none => none
  | c :: rest => (stringBody? rest).map fun (s, r) => (c :: s, r)

/-- The characters that a number may hold. -/
def isNumberChar (c : Char) : Bool :=
  ('0' ≤ c && c ≤ '9') || c == '-' || c == '+' || c == '.' || c == 'e' || c == 'E'

/-- A number from its characters. -/
def number? (s : List Char) : Option Json :=
  let (negative, body) := match s with
    | '-' :: rest => (true, rest)
    | rest => (false, rest)
  if body.any fun c => c == '.' || c == 'e' || c == 'E' then
    (Number.plainAlphabet.readDecimal? negative body).map real
  else
    match Number.plainAlphabet.digits body with
    | (d :: ds, []) =>
      let n : Int := Number.ofDigits (d :: ds)
      some (int (if negative then -n else n))
    | _ => none

/-- Text behind a given word. -/
def afterWord? : List Char → List Char → Option (List Char)
  | [], s => some s
  | _ :: _, [] => none
  | c :: cs, d :: ds => if c = d then afterWord? cs ds else none

/-- A value without parts, by its first character. -/
def atom? (s : List Char) : Option (Json × List Char) :=
  match s with
  | 'n' :: _ => (afterWord? "null".toList s).map (null, ·)
  | 't' :: _ => (afterWord? "true".toList s).map (bool true, ·)
  | 'f' :: _ => (afterWord? "false".toList s).map (bool false, ·)
  | 'N' :: _ => (afterWord? "NaN".toList s).map (real Number.notANumber, ·)
  | 'I' :: _ => (afterWord? "Infinity".toList s).map (real (Number.infinity false), ·)
  | '-' :: 'I' :: _ => (afterWord? "-Infinity".toList s).map (real (Number.infinity true), ·)
  | _ => (number? (s.takeWhile isNumberChar)).map (·, s.dropWhile isNumberChar)

mutual

/-- The value at the beginning of text, with room for `fuel` more steps, and the rest. -/
def value? : (fuel : Nat) → List Char → Option (Json × List Char)
  | 0, _ => none
  | fuel + 1, s =>
    match skipSpaces s with
    | '"' :: rest => (stringBody? rest).map fun (t, r) => (text (String.ofList t), r)
    | '[' :: rest =>
      match skipSpaces rest with
      | ']' :: after => some (list [], after)
      | body => (items? fuel body).map fun (vs, r) => (list vs, r)
    | '\x7b' :: rest =>
      match skipSpaces rest with
      | '\x7d' :: after => some (object [], after)
      | body => (members? fuel body).map fun (ms, r) => (object (Ordered.ofList ms), r)
    | body => atom? body

/-- The items of a list up to its closing bracket. -/
def items? : (fuel : Nat) → List Char → Option (List Json × List Char)
  | 0, _ => none
  | fuel + 1, s => do
    let (v, rest) ← value? fuel s
    match skipSpaces rest with
    | ',' :: more => (items? fuel more).map fun (vs, r) => (v :: vs, r)
    | ']' :: after => some ([v], after)
    | _ => none

/-- The members of an object up to its closing brace. -/
def members? : (fuel : Nat) → List Char → Option (List (String × Json) × List Char)
  | 0, _ => none
  | fuel + 1, s =>
    match skipSpaces s with
    | '"' :: body => do
      let (key, afterKey) ← stringBody? body
      match skipSpaces afterKey with
      | ':' :: rest =>
        let (v, afterValue) ← value? fuel rest
        match skipSpaces afterValue with
        | ',' :: more =>
          (members? fuel more).map fun (ms, r) => ((String.ofList key, v) :: ms, r)
        | '\x7d' :: after => some ([(String.ofList key, v)], after)
        | _ => none
      | _ => none
    | _ => none

end

/-- The value that text denotes. No character costs more than two steps of reading. -/
def read? (s : String) : Option Json :=
  let cs := s.toList
  match value? (2 * cs.length + 2) cs with
  | some (v, rest) => if (skipSpaces rest).isEmpty then some v else none
  | none => none

end JobSearch.Json
