import JobSearch.Dataset.Image.Words
import JobSearch.Relation.Column
import JobSearch.Relation.Table
import JobSearch.Text.Substitute

/-!
# Expressions of a declaration

The default of a column, the rule by which a column is computed and the condition of a view are
expressions over the columns of a row: constants, comparisons, calculations and a few functions.

## Main definitions

* `Expression`, `Expression.value` — an expression and its value on a row.
* `Reading.expression` — an expression in words.
-/

namespace JobSearch.Image

/-- What joins two expressions. -/
inductive Operator where
  | or
  | and
  | equal
  | unequal
  /-- Equal, or both nothing. -/
  | same
  | different
  | like
  | below
  | atMost
  | above
  | atLeast
  | plus
  | minus
  | times
  | divided
  | remainder
  | joined
  deriving DecidableEq

/-- An expression over the columns of a row. -/
inductive Expression where
  | constant (c : Cell)
  | column (name : String)
  | negative (e : Expression)
  | negated (e : Expression)
  | binary (op : Operator) (a b : Expression)
  | call (name : String) (arguments : List Expression)
  /-- A conversion to a type. -/
  | cast (e : Expression) (type : String)

/-- The columns that an expression names. -/
def Expression.names : Expression → List String
  | constant _ => []
  | column name => [name]
  | negative e => e.names
  | negated e => e.names
  | binary _ a b => a.names ++ b.names
  | call _ arguments => namesIn arguments
  | cast e _ => e.names
where
  /-- The columns that several expressions name. -/
  namesIn : List Expression → List String
    | [] => []
    | e :: rest => e.names ++ namesIn rest

/-! ### Values -/

/-- A truth value as a cell. -/
def cellOfTruth : Truth → Cell
  | .yes => .int 1
  | .no => .int 0
  | .unknown => .null

/-- A cell as a number. -/
def numberOf (c : Cell) : Cell :=
  match c with
  | .int n => .int n
  | .real x => .real x
  | c =>
    match c.addend? with
    | none => .null
    | some x =>
      match (Number.Leading.read c.toJson.label).integer? with
      | some n => .int n
      | none => .real x

/-- A cell as a condition. -/
def truthOf (c : Cell) : Truth :=
  match c.addend? with
  | none => .unknown
  | some x => .ofBool (x != 0)

/-- A number as a double. -/
def doubleOf (c : Cell) : Float := c.addend?.getD 0

/-- An integer if it fits 64 signed bits, else a double. -/
def wholeOr (n : Int) (x : Float) : Cell := if (Cell.int n).fits then .int n else .real x

/-- A calculation with two numbers. -/
def calculate (op : Operator) (a b : Cell) : Cell :=
  if a.isNull || b.isNull then .null
  else
    let x := doubleOf a
    let y := doubleOf b
    match op, numberOf a, numberOf b with
    | .plus, .int m, .int n => wholeOr (m + n) (x + y)
    | .minus, .int m, .int n => wholeOr (m - n) (x - y)
    | .times, .int m, .int n => wholeOr (m * n) (x * y)
    | .divided, .int m, .int n => if n = 0 then .null else wholeOr (m.tdiv n) (x / y)
    | .remainder, .int m, .int n => if n = 0 then .null else .int (m.tmod n)
    | .plus, _, _ => .real (x + y)
    | .minus, _, _ => .real (x - y)
    | .times, _, _ => .real (x * y)
    | .divided, _, _ => if y == 0 then .null else .real (x / y)
    | _, _, _ => .null

/-- Two cells joined by an operator. -/
def combine (op : Operator) (a b : Cell) : Cell :=
  let orSame (t : Truth) : Truth :=
    if a.isNull && b.isNull then .yes else if t = .unknown then .no else t
  let opposite : Truth → Truth
    | .yes => .no
    | .no => .yes
    | .unknown => .unknown
  match op with
  | .or => cellOfTruth ((truthOf a).or (truthOf b))
  | .and => cellOfTruth ((truthOf a).and (truthOf b))
  | .equal => cellOfTruth (a.equals b)
  | .unequal => cellOfTruth (opposite (a.equals b))
  | .same => cellOfTruth (orSame (a.equals b))
  | .different => cellOfTruth (opposite (orSame (a.equals b)))
  | .like =>
    match b.asText? with
    | some pattern => cellOfTruth (a.like pattern)
    | none => .null
  | .below => cellOfTruth (opposite (a.atLeast b))
  | .atMost => cellOfTruth (a.atMost b)
  | .above => cellOfTruth (opposite (a.atMost b))
  | .atLeast => cellOfTruth (a.atLeast b)
  | .joined =>
    match a.asText?, b.asText? with
    | some s, some t => .text (s ++ t)
    | _, _ => .null
  | op => calculate op a b

/-- Whether text has a part. -/
def hasPart (part s : String) : Bool := 0 < Text.countOf part s

/-- How a column of a type stores numbers. -/
def kindOfType (type : String) : ColumnKind :=
  if hasPart "int" type then .integer
  else if hasPart "char" type || hasPart "clob" type || hasPart "text" type then .text
  else if type.isEmpty || hasPart "blob" type then .untyped
  else if hasPart "real" type || hasPart "floa" type || hasPart "doub" type then .real
  else .integer

/-- A number without its fraction. -/
def wholeOf : Cell → Cell
  | .real x =>
    match Number.exactValue? x with
    | some q => wholeOr (q.num.tdiv q.den) x
    | none => .null
  | c => c

/-- A cell converted to a type. -/
def convert (type : String) (c : Cell) : Cell :=
  if c.isNull then .null
  else
    match kindOfType type with
    | .text => .text (c.asText?.getD "")
    | .real => .real (doubleOf c)
    | .integer => if hasPart "int" type then wholeOf (numberOf c) else numberOf c
    | .untyped => c

/-- The value of a function. -/
def apply (name : String) (arguments : List Cell) : Cell :=
  match name, arguments with
  | "iif", [condition, a, b] => if (truthOf condition).holds then a else b
  | "lower", [a] => a.lowerAscii
  | "upper", [a] =>
    match a.asText? with
    | some s => .text (String.ofList (s.toList.map fun c => if c.isLower then c.toUpper else c))
    | none => .null
  | "length", [a] =>
    match a with
    | .bytes b false => .int b.length
    | a =>
      match a.asText? with
      | some s => .int s.length
      | none => .null
  | "abs", [a] =>
    match numberOf a with
    | .int n => wholeOr n.natAbs (doubleOf a).abs
    | .real x => .real x.abs
    | _ => .null
  | "coalesce", as => (as.find? fun a => !a.isNull).getD .null
  | "ifnull", as => (as.find? fun a => !a.isNull).getD .null
  | _, _ => .null

/-- What the columns that an expression names prefer. -/
abbrev NamedKinds := List (String × ColumnKind)

/-- What an expression prefers, if it is a column or a conversion. -/
def Expression.kind? (kinds : NamedKinds) : Expression → Option ColumnKind
  | column name => Ordered.find? (Text.lowerAscii name) kinds
  | cast _ type => some (kindOfType type)
  | _ => none

/-- Two cells as they are compared, each with what it prefers: as numbers if one of two columns
prefers numbers, else as the only column prefers. -/
def agreed (a b : Cell × Option ColumnKind) : Cell × Cell :=
  match a.2, b.2 with
  | some k, some l =>
    if k.isNumeric || l.isNumeric then (a.1.comparedWith .integer, b.1.comparedWith .integer)
    else (a.1, b.1)
  | some k, none => (a.1, b.1.comparedWith k)
  | none, some l => (a.1.comparedWith l, b.1)
  | none, none => (a.1, b.1)

/-- Whether an operator compares. -/
def Operator.compares : Operator → Bool
  | equal | unequal | same | different | below | atMost | above | atLeast => true
  | _ => false

/-- The value of an expression on a row. -/
def Expression.value (kinds : NamedKinds) (row : Row) : Expression → Cell
  | constant c => c
  | column name => row.cell (Text.lowerAscii name)
  | negative e => calculate .minus (.int 0) (e.value kinds row)
  | negated e =>
    match truthOf (e.value kinds row) with
    | .yes => .int 0
    | .no => .int 1
    | .unknown => .null
  | binary op a b =>
    let x := a.value kinds row
    let y := b.value kinds row
    if op.compares then
      let (x, y) := agreed (x, a.kind? kinds) (y, b.kind? kinds)
      combine op x y
    else combine op x y
  | call name arguments => apply name (values arguments)
  | cast e type => convert type (e.value kinds row)
where
  /-- The values of several expressions. -/
  values : List Expression → List Cell
    | [] => []
    | e :: rest => e.value kinds row :: values rest

/-! ### Reading -/

/-- The operators of a level, from the weakest to the strongest; the third level is that of the
word `not`. -/
def operatorsOf (level : Nat) : List (TokenKind × Operator) :=
  match level with
  | 0 => [(.word "or", .or)]
  | 1 => [(.word "and", .and)]
  | 3 => [(.sign "=", .equal), (.sign "==", .equal), (.sign "<>", .unequal),
      (.sign "!=", .unequal), (.word "is", .same), (.word "like", .like)]
  | 4 => [(.sign "<", .below), (.sign "<=", .atMost), (.sign ">", .above), (.sign ">=", .atLeast)]
  | 5 => [(.sign "+", .plus), (.sign "-", .minus)]
  | 6 => [(.sign "*", .times), (.sign "/", .divided), (.sign "%", .remainder)]
  | 7 => [(.sign "||", .joined)]
  | _ => []

/-- The operator of a level at the beginning of some words, and the rest. -/
def operatorAt (level : Nat) : List Token → Option (Operator × List Token)
  | t :: rest =>
    match (operatorsOf level).lookup t.kind, rest with
    | some .same, u :: behind =>
      if u.isWord "not" then some (.different, behind) else some (.same, rest)
    | some op, _ => some (op, rest)
    | none, _ => none
  | [] => none

/-- The level of tests for equality. -/
def equalityLevel : Nat := 3

/-- The level of expressions without operators. -/
def lastLevel : Nat := 8

/-- One of several expressions is equal to a first one. -/
def oneOf (e : Expression) (es : List Expression) : Expression :=
  es.foldr (fun a b => .binary .or (.binary .equal e a) b) (.constant (.int 0))

/-- A constant, if the next token is one. -/
def Reading.takesConstant : Reading (Option Cell) := do
  let found := match (← get).head?.map (·.kind) with
    | some (.number s) => some (Cell.numericText s)
    | some (.text s) => some (.text s)
    | some (.bytes b) => some (.bytes b false)
    | some (.word "null") => some .null
    | some (.word "true") => some (.int 1)
    | some (.word "false") => some (.int 0)
    | _ => none
  if found.isSome then modify (·.drop 1)
  return found

/-- The name of a type as text in lower case. -/
def typeText (tokens : List Token) : String :=
  Text.lowerAscii (" ".intercalate (tokens.map (·.written)))

mutual

/-- An expression of a level; `fuel` bounds its depth. -/
def expressionAt : (fuel level : Nat) → Reading Expression
  | 0, _ => .refuse
  | fuel + 1, level => do
    if ← .takes fun t => level = 2 ∧ t.isWord "not" then
      return .negated (← expressionAt fuel 2)
    else if level < lastLevel then operatorsBehind fuel level (← expressionAt fuel (level + 1))
    else operand fuel

/-- An expression that goes on behind its first part. -/
def operatorsBehind : (fuel level : Nat) → Expression → Reading Expression
  | 0, _, _ => .refuse
  | fuel + 1, level, a => do
    match operatorAt level (← get) with
    | some (op, rest) =>
      set rest
      operatorsBehind fuel level (.binary op a (← expressionAt fuel (level + 1)))
    | none => if level = equalityLevel then testsBehind fuel a else return a

/-- An expression that goes on with a test written in words. -/
def testsBehind : (fuel : Nat) → Expression → Reading Expression
  | 0, _ => .refuse
  | fuel + 1, a => do
    let isOpposed ← .takes (·.isWord "not")
    let goOn (e : Expression) : Reading Expression :=
      operatorsBehind fuel equalityLevel (if isOpposed then .negated e else e)
    if ← .takes (·.isWord "in") then
      .needs (·.isSign "(")
      goOn (oneOf a (← expressions fuel []))
    else if ← .takes (·.isWord "between") then
      let low ← expressionAt fuel (equalityLevel + 1)
      .needs (·.isWord "and")
      let high ← expressionAt fuel (equalityLevel + 1)
      goOn (.binary .and (.binary .atLeast a low) (.binary .atMost a high))
    else if ← .takes (·.isWord "like") then
      goOn (.binary .like a (← expressionAt fuel (equalityLevel + 1)))
    else if isOpposed then
      .needs (·.isWord "null")
      goOn (.binary .same a (.constant .null))
    else if ← .takes (·.isWord "isnull") then goOn (.binary .same a (.constant .null))
    else if ← .takes (·.isWord "notnull") then goOn (.binary .different a (.constant .null))
    else return a

/-- An expression without operators outside of parentheses. -/
def operand : (fuel : Nat) → Reading Expression
  | 0 => .refuse
  | fuel + 1 => do
    if ← .takes (·.isSign "+") then operand fuel
    else if ← .takes (·.isSign "-") then return .negative (← operand fuel)
    else if ← .takes (·.isSign "(") then
      let e ← expressionAt fuel 0
      if ← .takes (·.isSign ",") then return .call "row" (← expressions fuel [e])
      .needs (·.isSign ")")
      return e
    else if ← .takes (·.isWord "case") then
      if ← .sees (·.isWord "when") then cases fuel none
      else cases fuel (some (← expressionAt fuel 0))
    else
      match ← .takesConstant with
      | some c => return .constant c
      | none =>
        let name ← .name
        if ← .takes (·.isSign ".") then return .column (← .name)
        else if ← .takes (·.isSign "(") then
          if Text.lowerAscii name = "cast" then
            let e ← expressionAt fuel 0
            .needs (·.isWord "as")
            return .cast e (typeText (← .group))
          else return .call (Text.lowerAscii name) (← expressions fuel [])
        else return .column name

/-- The cases of a choice, up to its end. -/
def cases : (fuel : Nat) → (subject : Option Expression) → Reading Expression
  | 0, _ => .refuse
  | fuel + 1, subject => do
    if ← .takes (·.isWord "when") then
      let condition ← expressionAt fuel 0
      .needs (·.isWord "then")
      let e ← expressionAt fuel 0
      let test := match subject with
        | some s => .binary .equal s condition
        | none => condition
      return .call "iif" [test, e, ← cases fuel subject]
    else if ← .takes (·.isWord "else") then
      let e ← expressionAt fuel 0
      .needs (·.isWord "end")
      return e
    else
      .needs (·.isWord "end")
      return .constant .null

/-- Expressions between commas up to a closing parenthesis, given those before, backwards. -/
def expressions : (fuel : Nat) → List Expression → Reading (List Expression)
  | 0, _ => .refuse
  | fuel + 1, before => do
    if ← .takes fun t => before.isEmpty && t.isSign ")" then return []
    let e ← expressionAt fuel 0
    if ← .takes (·.isSign ",") then expressions fuel (e :: before)
    else
      .needs (·.isSign ")")
      return (e :: before).reverse

end

/-- An expression. -/
def Reading.expression : Reading Expression := do
  expressionAt (16 * ((← get).length + 1)) 0

/-- What can stand as a default without parentheses: a constant with or without a sign, or a
name, which stands for its own text. -/
def Reading.default : Reading Expression := do
  if ← takes (·.isSign "-") then
    match ← takesConstant with
    | some c => return .negative (.constant c)
    | none => return .constant (.text (← name))
  else
    let _ ← takes (·.isSign "+")
    match ← takesConstant with
    | some c => return .constant c
    | none => return .constant (.text (← name))

end JobSearch.Image
