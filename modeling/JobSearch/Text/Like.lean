import JobSearch.Text.Case

/-!
# Search patterns

A pattern matches text in which `%` stands for any run of characters and `_` for any one
character; a backslash makes the next character stand for itself. Letters `A` to `Z` match
without regard to case. User text becomes a pattern by escaping the three special characters.

## Main definitions

* `escapeLike` — text as a pattern that stands only for itself.
* `likeMatches` — whether a pattern matches text.
* `containing` — the pattern of all texts that contain a given one.
* `searched` — the part of stored text that is searched.
-/

namespace JobSearch.Text

/-- A character as a pattern for itself. -/
def escapeLikeChar (c : Char) : List Char :=
  if c = '\\' ∨ c = '%' ∨ c = '_' then ['\\', c] else [c]

/-- Text as a pattern that stands only for itself. -/
def escapeLike (s : String) : String := String.ofList (s.toList.flatMap escapeLikeChar)

/-- The pattern of the texts that contain `s`. -/
def containing (s : String) : String := "%" ++ escapeLike s ++ "%"

/-- Whether two characters are the same up to the case of `A` to `Z`. -/
def sameFold (c d : Char) : Bool := lowerAsciiChar c == lowerAsciiChar d

/-- One piece of a pattern. -/
inductive Piece where
  /-- Any run of characters. -/
  | anyRun
  /-- Any one character. -/
  | anyOne
  /-- This character, up to case. -/
  | char (c : Char)
  deriving DecidableEq

/-- The pieces of a pattern; nothing if it ends in an escape that escapes no character. -/
def pieces? : List Char → Option (List Piece)
  | [] => some []
  | ['\\'] => none
  | '\\' :: c :: rest => (pieces? rest).map (.char c :: ·)
  | c :: rest =>
    (pieces? rest).map ((if c = '%' then .anyRun else if c = '_' then .anyOne else .char c) :: ·)

/-- Whether pieces match text from its start to its end. -/
def piecesMatch : List Piece → List Char → Bool
  | [], s => s.isEmpty
  | .anyRun :: rest, s => matchAnywhere rest s
  | .anyOne :: rest, s => match s with
    | [] => false
    | _ :: t => piecesMatch rest t
  | .char c :: rest, s => match s with
    | [] => false
    | d :: t => sameFold c d && piecesMatch rest t
where
  /-- Whether the pieces match some end of the text. -/
  matchAnywhere (rest : List Piece) : List Char → Bool
    | [] => piecesMatch rest []
    | d :: t => piecesMatch rest (d :: t) || matchAnywhere rest t

/-- Whether a pattern matches text. -/
def likeMatches (pattern text : String) : Bool :=
  match pieces? pattern.toList with
  | some ps => piecesMatch ps text.toList
  | none => false

/-- A character as a stored text is searched: the code points `FFFE` and `FFFF`, which are no
characters, count as the replacement character. -/
def searchedChar (c : Char) : Char :=
  if c.toNat = 0xFFFE ∨ c.toNat = 0xFFFF then Char.ofNat 0xFFFD else c

/-- The part of stored text that is searched, which ends before the first zero character. -/
def searched (s : String) : String :=
  String.ofList ((s.toList.takeWhile (·.toNat ≠ 0)).map searchedChar)

end JobSearch.Text
