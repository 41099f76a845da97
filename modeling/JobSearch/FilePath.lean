import JobSearch.Text.Quoted

/-!
# File paths

Paths are written in one way: without empty and `.` components and without a slash at the end.
Exactly two slashes at the beginning are kept, any other number becomes one.

A path at which there is no file is refused for one of four reasons. Which one it is depends on
the path alone, as far as the folders that every system has are concerned.

## Main definitions

* `plainPath` — a path written in that way.
* `pathFault` — why no file can be opened at a path.
-/

namespace JobSearch

/-- The slashes that a path begins with. -/
def pathRoot (s : String) : String :=
  match (s.toList.takeWhile (· == '/')).length with
  | 0 => ""
  | 2 => "//"
  | _ => "/"

/-- The components of a path. -/
def pathParts (s : String) : List String :=
  (s.splitToList (· == '/')).filter fun part => part ≠ "" ∧ part ≠ "."

/-- A path without needless slashes and dots; the empty path is the current folder. -/
def plainPath (s : String) : String :=
  let path := pathRoot s ++ "/".intercalate (pathParts s)
  if path.isEmpty then "." else path

/-- Why no file can be opened at a path. -/
inductive PathFault where
  | absent
  | folder
  | nameTooLong
  /-- The path holds a zero character. -/
  | zeroCharacter
  deriving DecidableEq

/-- A refused path in words. -/
def PathFault.message (path : String) : PathFault → String
  | absent => "[Errno 2] No such file or directory: " ++ Text.quoted path
  | folder => "[Errno 21] Is a directory: " ++ Text.quoted path
  | nameTooLong => "[Errno 36] File name too long: " ++ Text.quoted path
  | zeroCharacter => "embedded null byte"

/-- The number of bytes that a component of a path may have. -/
def nameLimit : Nat := 255

/-- The number of bytes that no path has. -/
def pathLimit : Nat := 4096

/-- The folders that every system has at its root. -/
def rootFolders : List String :=
  ["bin", "boot", "dev", "etc", "home", "lib", "media", "mnt", "opt", "proc", "root", "run",
    "sbin", "srv", "sys", "tmp", "usr", "var"]

/-- The components of a path behind those that lead to a folder. -/
def partsBeyondFolders (s : String) : List String :=
  match (pathParts s).dropWhile (· == "..") with
  | part :: rest => if s.startsWith "/" ∧ part ∈ rootFolders then rest else part :: rest
  | [] => []

/-- Why no file can be opened at a path at which there is none. -/
def pathFault (s : String) : PathFault :=
  if s.toList.any (·.toNat == 0) then .zeroCharacter
  else if pathLimit ≤ s.utf8ByteSize then .nameTooLong
  else
    match partsBeyondFolders s with
    | [] => if s.isEmpty then .absent else .folder
    | part :: _ => if nameLimit < part.utf8ByteSize then .nameTooLong else .absent

end JobSearch
