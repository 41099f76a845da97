import JobSearch.CommandLine.Answer
import JobSearch.Dataset.Image

/-!
# The program

The program reads its arguments, the environment and the dataset file, and prints the answer.
It has no network, so a dataset on a server counts as unreachable.
-/

namespace JobSearch

/-- The variables of the environment that settings are read from. -/
def readVariables : IO (List (String × String)) := do
  let names := Settings.batchVariable :: Settings.variableNames.map (·.2)
  let found ← names.mapM fun name => do
    return (← IO.getEnv name).map fun value => (name, value)
  return found.filterMap id

/-- What a file brings. -/
def fetchFile (path : String) : IO (Arrival Store) := do
  match ← (IO.FS.readBinFile path).toBaseIO with
  | .ok bytes => return .ofImage bytes
  | .error (.noFileOrDirectory ..) => return .refused (.ofPath path)
  | .error e => return .refused (.unreadableFile path (toString e))

/-- What a fetch of a dataset brings. -/
def fetch : Location → IO (Arrival Store)
  | .file path => fetchFile path
  | .server url _ =>
    return match (fetchFrom url (.failed "no network")).2 with
      | .ok _ => .refused (.unreachable url "")
      | .error f => .refused f.loadFailure

/-- The end of the program for a command line. -/
def answer (argv : List String) : IO Exit := do
  let environment ← readVariables
  match plan argv (fun name => environment.lookup name) with
  | .error e => return e
  | .ok task => return task.exit (← fetch task.location)

end JobSearch

/-- The program. -/
def main (argv : List String) : IO UInt32 := do
  let e ← JobSearch.answer argv
  IO.print e.output
  IO.eprint e.complaint
  return e.status.toUInt32
