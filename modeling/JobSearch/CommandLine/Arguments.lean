import JobSearch.Number.Numeral

/-!
# Arguments of the command line

An argument that begins with a hyphen names an option, unless it is a negative number or holds
a blank. Options may be shortened as long as one option alone is meant. The value of an option
stands behind an equals sign or is the next argument. Of the other arguments the first is the
command, and the one right behind it its target. Two hyphens end the options.

## Main definitions

* `Switch` — the options.
* `Invocation`, `Invocation.read` — what a command line asks for.
-/

namespace JobSearch

/-- What the command line can be asked for. -/
inductive Command where
  | page
  | facets
  | entity
  | analysis
  | metadata
  deriving DecidableEq

/-- The words of the commands. -/
def Command.words : List String := ["page", "facets", "entity", "analysis", "metadata"]

/-- The command of a word. -/
def Command.ofWord? : String → Option Command
  | "page" => some .page
  | "facets" => some .facets
  | "entity" => some .entity
  | "analysis" => some .analysis
  | "metadata" => some .metadata
  | _ => none

/-- The options of the command line. -/
inductive Switch where
  | help
  | filter
  | search
  | policy
  | page
  | pageSize
  | sort
  | datasetFile
  | logLevel
  deriving DecidableEq

/-- The names of the options. -/
def Switch.names : List (String × Switch) := [
  ("-h", .help), ("--help", .help), ("--filter", .filter), ("--search", .search),
  ("--policy", .policy), ("--page", .page), ("--page-size", .pageSize), ("--sort", .sort),
  ("--dataset-file", .datasetFile), ("--log-level", .logLevel)]

/-- Why a command line is not understood. -/
inductive UsageFault where
  | ambiguous (argument : String)
  | unrecognized (argument : String)
  | valueExpected (option : Switch)
  | valueUnexpected (option : Switch)
  | badValue (option : Switch) (value : String)
  | badCommand (word : String)
  | commandExpected
  deriving DecidableEq

/-! ### The kinds of arguments -/

/-- What an argument is taken for. -/
inductive Mark where
  /-- A command, a target or a value. -/
  | plain (text : String)
  /-- An option, with the value behind an equals sign. -/
  | option (s : Switch) (value : Option String)
  /-- It looks like an option, but there is none of that name. -/
  | unknown (text : String)
  /-- Two hyphens. -/
  | separator
  deriving DecidableEq

/-- Text before and behind the first equals sign. -/
def splitValue (s : List Char) : List Char × Option String :=
  match s.dropWhile (· ≠ '=') with
  | [] => (s, none)
  | _ :: value => (s.takeWhile (· ≠ '='), some (String.ofList value))

/-- Whether a character is a digit of some script. -/
def isDigit (c : Char) : Bool := (Text.digitValue? c).isSome

/-- Whether text is a negative number: digits, with at most one point before the last ones. -/
def isNegativeNumber : List Char → Bool
  | '-' :: rest =>
    let body := if rest.getLast? = some '\n' then rest.dropLast else rest
    match body.dropWhile isDigit with
    | [] => !body.isEmpty
    | '.' :: fraction => !fraction.isEmpty && fraction.all isDigit
    | _ => false
  | _ => false

/-- The options whose names begin with some text. -/
def switchesWith (start : List Char) : List Switch :=
  (Switch.names.filter fun p => start.isPrefixOf p.1.toList).map (·.2)

/-- What letters behind the short option for help leave over: they are short options of their
own, of which there is no other. -/
def unusedLetters (letters : List Char) : Option String :=
  if letters ≠ [] ∧ letters.all (· == 'h') then none else some (String.ofList letters)

/-- The options that a shortened name may mean. Behind one hyphen stands a letter, and further
letters are options of their own. -/
def candidates (s : List Char) (name : List Char) (value : Option String) :
    List (Switch × Option String) :=
  match s with
  | '-' :: '-' :: _ => (switchesWith name).map fun o => (o, value)
  | '-' :: 'h' :: letters => [(.help, unusedLetters letters)]
  | _ => []

/-- What an argument before any separator is taken for. -/
def markOf (argument : String) : Except UsageFault Mark :=
  let s := argument.toList
  match s with
  | '-' :: _ :: _ =>
    match Switch.names.lookup argument with
    | some o => .ok (.option o none)
    | none =>
      let (name, value) := splitValue s
      match value, Switch.names.lookup (String.ofList name) with
      | some v, some o =>
        .ok (.option o (if name = ['-', 'h'] then unusedLetters v.toList else some v))
      | _, _ =>
        match candidates s name value with
        | [(o, v)] => .ok (.option o v)
        | _ :: _ :: _ => .error (.ambiguous argument)
        | [] =>
          if isNegativeNumber s || s.contains ' ' then .ok (.plain argument)
          else .ok (.unknown argument)
  | _ => .ok (.plain argument)

/-- What arguments are taken for; behind a separator all are plain. -/
def marksOf : List String → Except UsageFault (List Mark)
  | [] => .ok []
  | a :: rest =>
    if a = "--" then .ok (.separator :: rest.map .plain)
    else
      match markOf a with
      | .error f => .error f
      | .ok m =>
        match marksOf rest with
        | .error f => .error f
        | .ok ms => .ok (m :: ms)

/-! ### Reading a command line -/

/-- What a command line asks for. An option whose value is two hyphens is left empty. -/
structure Invocation where
  command : Command
  target : Option String
  /-- The filters, nothing for one that was left empty. -/
  filters : List (Option String)
  search : String
  /-- The word for the policy, nothing if it was left empty. -/
  policy : Option String
  /-- The number of the page, nothing if it was left empty. -/
  page : Option Int
  pageSize : Option Int
  sortKey : String
  datasetFile : Option String
  logLevel : Option String

/-- What has been read of a command line: the command with its target, and the values of
options, the latest first; an option that was left empty has none. -/
structure PartialInvocation where
  command : Option (Command × Option String)
  options : List (Switch × Option String)
  unrecognized : Option String

/-- What a command line leads to. -/
inductive Reading where
  | help
  | invocation (i : Invocation)

/-- The value of an option, which is checked at once; two hyphens leave the option empty. -/
def checkValue (o : Switch) (value : String) : Except UsageFault (Option String) :=
  if value = "--" then .ok none
  else match o with
  | .page | .pageSize =>
    if (Number.readInteger value).toOption.isSome then .ok (some value)
    else .error (.badValue o value)
  | .policy =>
    if value = "and" ∨ value = "or" then .ok (some value) else .error (.badValue o value)
  | _ => .ok (some value)

/-- Separators behind a plain argument belong to it. -/
def skipSeparators : List Mark → List Mark
  | .separator :: rest => skipSeparators rest
  | ms => ms

/-- The words at the beginning of a command line: the command and, right behind it, its
target, separators left out; with the number of arguments that were read. -/
def takeWords (ms : List Mark) : Option (String × Option String × List Mark) :=
  match skipSeparators ms with
  | .plain word :: rest =>
    match skipSeparators rest with
    | .plain target :: after => some (word, some target, skipSeparators after)
    | after => some (word, none, after)
  | _ => none

theorem length_skipSeparators (ms : List Mark) : (skipSeparators ms).length ≤ ms.length := by
  fun_induction skipSeparators ms with
  | case1 rest ih =>
    rw [List.length_cons]
    exact Nat.le_succ_of_le ih
  | case2 => exact Nat.le_refl _

theorem length_takeWords {ms rest : List Mark} {word : String} {target : Option String}
    (h : takeWords ms = some (word, target, rest)) : rest.length < ms.length := by
  have h₀ := length_skipSeparators ms
  unfold takeWords at h
  split at h
  next w r hw =>
    have h₁ := length_skipSeparators r
    rw [hw] at h₀
    simp only [List.length_cons] at h₀
    split at h
    next t a ht =>
      have h₂ := length_skipSeparators a
      rw [ht] at h₁
      simp only [Option.some.injEq, Prod.mk.injEq] at h
      obtain ⟨-, -, rfl⟩ := h
      simp only [List.length_cons] at h₁
      omega
    next =>
      simp only [Option.some.injEq, Prod.mk.injEq] at h
      obtain ⟨-, -, rfl⟩ := h
      omega
  next => cases h

/-- A target behind a separator that is itself two hyphens counts as no target. -/
def targetOf : Option String → Option String
  | some "--" => none
  | t => t

/-- What a command line asks for, read from its marks; nothing if help is asked for. -/
def readMarks (p : PartialInvocation) : (ms : List Mark) →
    Except UsageFault (Option PartialInvocation)
  | [] => .ok (some p)
  | .option .help none :: _ => .ok none
  | .option .help (some _) :: _ => .error (.valueUnexpected .help)
  | .option o (some value) :: rest =>
    match checkValue o value with
    | .error f => .error f
    | .ok v => readMarks { p with options := (o, v) :: p.options } rest
  | .option o none :: .plain value :: rest =>
    match checkValue o value with
    | .error f => .error f
    | .ok v => readMarks { p with options := (o, v) :: p.options } rest
  | .option o none :: _ => .error (.valueExpected o)
  | .unknown text :: rest => readMarks { p with unrecognized := some text } rest
  | m :: rest =>
    match p.command, _h : takeWords (m :: rest) with
    | none, some (word, target, after) =>
      match Command.ofWord? word with
      | none => .error (.badCommand word)
      | some c => readMarks { p with command := some (c, targetOf target) } after
    | _, _ =>
      match m with
      | .plain text => readMarks { p with unrecognized := some text } rest
      | _ => readMarks { p with unrecognized := some "--" } rest
termination_by ms => ms.length
decreasing_by
  all_goals first
    | exact length_takeWords _h
    | (simp only [List.length_cons]; omega)

/-- The last value of an option, a default if it was not given. -/
def PartialInvocation.value? (p : PartialInvocation) (o : Switch) (default : Option String) :
    Option String :=
  (p.options.lookup o).getD default

/-- The last value of an option that is an integer, a default if it was not given. -/
def PartialInvocation.int? (p : PartialInvocation) (o : Switch) (default : Option Int) :
    Option Int :=
  match p.options.lookup o with
  | none => default
  | some value => value.bind fun v => (Number.readInteger v).toOption

/-- A command line that was read to its end. -/
def PartialInvocation.complete (p : PartialInvocation) : Except UsageFault Invocation :=
  match p.command, p.unrecognized with
  | none, _ => .error .commandExpected
  | some _, some text => .error (.unrecognized text)
  | some (command, target), none =>
    .ok
      { command
        target
        filters := ((p.options.filter fun v => v.1 = .filter).map (·.2)).reverse
        search := (p.value? .search none).getD ""
        policy := p.value? .policy (some "and")
        page := p.int? .page (some 1)
        pageSize := p.int? .pageSize none
        sortKey := (p.value? .sort none).getD "date_desc"
        datasetFile := p.value? .datasetFile none
        logLevel := p.value? .logLevel none }

/-- What a command line asks for. -/
def Invocation.read (argv : List String) : Except UsageFault Reading :=
  match marksOf argv with
  | .error f => .error f
  | .ok ms =>
    match readMarks ⟨none, [], none⟩ ms with
    | .error f => .error f
    | .ok none => .ok .help
    | .ok (some p) => p.complete.map .invocation

end JobSearch
