import JobSearch.Dataset.Url.Host

/-!
# Addresses on the network

An address is a scheme, a host with a port, a path, a query and a fragment, each of which may be
missing. It is asked for in one form: scheme and host in lower case, without the usual port of
the scheme, without `.` and `..` in the path, and with percent signs for characters that are
not safe.

An address without a scheme or without a host leads nowhere by itself; then only its path and
its query are asked for.

## Main definitions

* `Url`, `Url.read` — an address in the form in which it is asked for.
* `Url.text`, `Url.requested` — an address as text, and what is asked for.
* `UrlFault`, `UrlFault.message` — why an address is refused.
-/

namespace JobSearch

/-- An address in the form in which it is asked for. -/
structure Url where
  scheme : String
  user : String
  host : String
  port : Option Int
  path : String
  query : Option String
  fragment : Option String

/-- Why an address is refused. -/
inductive UrlFault where
  | tooLong
  /-- A control character at a place. -/
  | unprintable (c : Char) (place : Nat)
  | badHost (host : String) (f : Url.HostFault)
  | badPort (port : String)
  /-- A path without a scheme and a host begins with two slashes, or with a colon. -/
  | badStart (start : String)
  deriving DecidableEq

/-- A refused address in words. -/
def UrlFault.message : UrlFault → String
  | tooLong => "URL too long"
  | unprintable c place =>
    "Invalid non-printable ASCII character in URL, " ++ Text.quoted (String.ofList [c]) ++
      " at position " ++ Number.natText place ++ "."
  | badHost host f =>
    (match f with
      | .badNumbers => "Invalid IPv4 address: "
      | .badGroups => "Invalid IPv6 address: "
      | .badName => "Invalid IDNA hostname: ") ++ Text.quoted host
  | badPort port => "Invalid port: " ++ Text.quoted port
  | badStart start => "Relative URLs cannot have a path starting with '" ++ start ++ "'"

namespace Url

/-! ### Parts -/

/-- The number of characters that an address may have. -/
def lengthLimit : Nat := 65536

/-- Whether a character is a control character. -/
def isControl (c : Char) : Bool := decide (c.toNat < 32) || c.toNat == 127

/-- The scheme at the beginning of an address, which may be empty, and what follows its colon. -/
def splitScheme (s : List Char) : List Char × List Char :=
  let inScheme (c : Char) : Bool :=
    decide (c.toNat < 128) && (c.isAlphanum || c == '+' || c == '.' || c == '-')
  let word := s.takeWhile inScheme
  match s.dropWhile inScheme with
  | ':' :: rest =>
    if word.head?.all (fun c => c.isAlpha) then (word, rest) else ([], s)
  | _ => ([], s)

/-- What stands between two slashes and the path, and the rest. -/
def splitAuthority (s : List Char) : List Char × List Char :=
  let inAuthority (c : Char) : Bool := c ≠ '/' && c ≠ '?' && c ≠ '#'
  match s with
  | '/' :: '/' :: rest => (rest.takeWhile inAuthority, rest.dropWhile inAuthority)
  | _ => ([], s)

/-- What stands before a mark, and what stands behind it if there is one. -/
def splitAt (mark : Char) (s : List Char) : List Char × Option (List Char) :=
  match s.dropWhile (· ≠ mark) with
  | [] => (s, none)
  | _ :: rest => (s.takeWhile (· ≠ mark), some rest)

/-- The user before the last `@`, and the rest. -/
def splitUser (s : List Char) : List Char × List Char :=
  match s.reverse.dropWhile (· ≠ '@') with
  | [] => ([], s)
  | _ :: before => (before.reverse, (s.reverse.takeWhile (· ≠ '@')).reverse)

/-- The host, up to its closing bracket or up to a colon, and the port behind it. -/
def splitHost (s : List Char) : List Char × List Char :=
  let (host, rest) :=
    match s, s.reverse.dropWhile (· ≠ ']') with
    | '[' :: _, ']' :: before => ((']' :: before).reverse, (s.reverse.takeWhile (· ≠ ']')).reverse)
    | _, _ => (s.takeWhile (· ≠ ':'), s.dropWhile (· ≠ ':'))
  match rest with
  | ':' :: port => (host, port)
  | port => (host, port)

/-! ### Forms -/

/-- The usual ports. -/
def usualPorts : List (String × Int) :=
  [("ftp", 21), ("http", 80), ("https", 443), ("ws", 80), ("wss", 443)]

/-- The port that is asked for: none if it is the usual one of a scheme in lower case. -/
def readPort (scheme port : String) : Except UrlFault (Option Int) :=
  if port.isEmpty then .ok none
  else
    match Number.readInteger port with
    | .ok n => .ok (if usualPorts.lookup scheme = some n then none else some n)
    | .error _ => .error (.badPort port)

/-- The components of a path without `.` and `..`, given those before backwards. -/
def plainComponents (before : List String) : List String → List String
  | [] => before.reverse
  | "." :: rest => plainComponents before rest
  | ".." :: rest => plainComponents (if before = [""] then before else before.drop 1) rest
  | part :: rest => plainComponents (part :: before) rest

/-- A path without `.` and `..`. -/
def plainUrlPath (path : String) : String :=
  "/".intercalate (plainComponents [] (path.splitToList (· == '/')))

/-- Whether a character other than some stands as it is. -/
def isSafeBut (excluded : List Char) (c : Char) : Bool :=
  decide (32 < c.toNat) && decide (c.toNat < 127) && !excluded.contains c

/-- What is not safe in a fragment. -/
def unsafeInFragment : List Char := "\"<>`".toList

/-- What is not safe in a query. -/
def unsafeInQuery : List Char := "\"#<>".toList

/-- What is not safe in a path. -/
def unsafeInPath : List Char := unsafeInQuery ++ "?`\x7b\x7d".toList

/-- What is not safe in the name of a user. -/
def unsafeInUser : List Char := unsafeInPath ++ "/;=@[\\]^|".toList

/-- The place of the first control character of an address. -/
def firstControl? (s : List Char) : Option (Char × Nat) :=
  (s.find? isControl).map fun c => (c, s.idxOf c)

/-- An address in the form in which it is asked for. -/
def read (s : String) : Except UrlFault Url :=
  let text := s.toList
  if lengthLimit < text.length then .error .tooLong
  else
    match firstControl? text with
    | some (c, place) => .error (.unprintable c place)
    | none => do
      let (scheme, rest) := splitScheme text
      let (authority, rest) := splitAuthority rest
      let (rest, fragment) := splitAt '#' rest
      let (path, query) := splitAt '?' rest
      let (user, place) := splitUser authority
      let (host, port) := splitHost place
      let scheme := String.ofList scheme
      let user := Text.percentEncoded (isSafeBut unsafeInUser) (String.ofList user)
      let written := String.ofList host
      let host ← (readHost written).mapError (.badHost written)
      let port ← readPort scheme (String.ofList port)
      let hasPlace := !(user.isEmpty && host.isEmpty && port.isNone)
      let path := String.ofList path
      if scheme.isEmpty && !hasPlace && path.startsWith "//" then throw (.badStart "//")
      if scheme.isEmpty && !hasPlace && path.startsWith ":" then throw (.badStart ":")
      let path := if scheme.isEmpty && !hasPlace then path else plainUrlPath path
      let encode (excluded : List Char) (part : List Char) : String :=
        Text.percentEncoded (isSafeBut excluded) (String.ofList part)
      return {
        scheme := Text.lowerAscii scheme
        user
        host
        port
        path := encode unsafeInPath path.toList
        query := query.map (encode unsafeInQuery)
        fragment := fragment.map (encode unsafeInFragment) }

/-! ### Text -/

/-- Text behind a mark, if there is any. -/
def behind (mark : String) : Option String → String
  | some s => mark ++ s
  | none => ""

/-- The user, the host and the port of an address. -/
def authorityText (u : Url) : String :=
  (if u.user.isEmpty then "" else u.user ++ "@") ++
    (if u.host.contains ':' then "[" ++ u.host ++ "]" else u.host) ++
    behind ":" (u.port.map Number.intText)

/-- An address as text. -/
def text (u : Url) : String :=
  (if u.scheme.isEmpty then "" else u.scheme ++ ":") ++
    (if u.authorityText.isEmpty then "" else "//" ++ u.authorityText) ++
    u.path ++ behind "?" u.query ++ behind "#" u.fragment

/-- Whether an address leads somewhere by itself. -/
def isAbsolute (u : Url) : Bool := !u.scheme.isEmpty && !u.host.isEmpty

/-- What is asked for: the address itself, or its path and query if it leads nowhere. -/
def requested (u : Url) : String :=
  if u.isAbsolute then u.text
  else
    "/" ++ String.ofList ((u.path ++ behind "?" u.query).toList.dropWhile (· == '/'))

end Url

end JobSearch
