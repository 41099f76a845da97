import JobSearch.FilePath
import JobSearch.Number.Numeral

/-!
# Failed loads

Why a dataset could not be loaded, and the words for it.

## Main definitions

* `LoadFailure`, `LoadFailure.message`.
* `LoadFailure.ofPath` — the failure for a path at which there is no file.
-/

namespace JobSearch

/-- Why a dataset could not be loaded. -/
inductive LoadFailure where
  /-- The image does not begin like a database. -/
  | notADatabase (size : Nat)
  | noFile (path : String)
  | unreadableFile (path reason : String)
  | timedOut (url : String)
  /-- The server answered with a status other than success. -/
  | rejected (status : Int) (phrase : String)
  | unreachable (url reason : String)
  /-- A load failed in some other way. -/
  | broken (reason : String)
  /-- The source of the dataset says itself why it failed. -/
  | reported (reason : String)
  deriving DecidableEq

/-- A failed load in words. -/
def LoadFailure.message : LoadFailure → String
  | notADatabase size =>
    "Dataset is not a SQLite database (" ++ Number.natText size ++ " bytes, missing header)"
  | noFile path => "Dataset file not found: " ++ path
  | unreadableFile path reason => "Failed to read dataset file " ++ path ++ ": " ++ reason
  | timedOut url => "Timed out fetching dataset from " ++ url
  | rejected status phrase =>
    "Failed to fetch dataset: " ++ Number.intText status ++ " " ++ phrase
  | unreachable url reason => "Failed to fetch dataset from " ++ url ++ ": " ++ reason
  | broken reason => "Dataset load failed: " ++ reason
  | reported reason => reason

/-- Why a dataset cannot be read from a path at which there is no file. -/
def LoadFailure.ofPath (path : String) : LoadFailure :=
  match pathFault path with
  | .zeroCharacter => .broken (PathFault.zeroCharacter.message path)
  | f => .unreadableFile path (f.message path)

end JobSearch
