import DotQuery.Command.Run
import Std.Time.DateTime.Timestamp

/-!
The command line: the command on the system that it is started on, and the report of its failure.
-/

open DotQuery DotQuery.Calendar DotQuery.Command
open scoped DotQuery.Regex.Standard

namespace DotQuery.Command

/-- What an action gives, nothing if it fails. -/
def attempt? {α : Type} (action : IO α) : IO (Option α) := do
  try some <$> action catch _ => return none

instance : Host IO where
  Sink := IO.FS.Stream
  readFile? path := attempt? (IO.FS.readBinFile path)
  readStandardInput? := do
    let stdin ← IO.getStdin
    attempt? stdin.readBinToEnd
  environment? name := IO.getEnv name
  clock := do
    let timestamp ← Std.Time.Timestamp.now
    return ⟨timestamp.toNanosecondsSinceUnixEpoch.val, 0⟩
  startThreads _ := return true
  standardOutput := IO.getStdout
  create? path := do
    let handle ← attempt? (IO.FS.Handle.mk path .write)
    return handle.map IO.FS.Stream.ofHandle
  write stream text := stream.putStr text

/-- What standard error tells of an ending. -/
def Ending.complaint? : Ending → Option String
  | .misused => some usage
  | .failed error => some error.report
  | .overflow => some "a date lies outside the years -9999 to 9999 in UTC"
  | .done _ | .told _ => none

end DotQuery.Command

def main (arguments : List String) : IO UInt32 := do
  let ending : Ending ← run arguments
  if let some complaint := ending.complaint? then
    (← IO.getStderr).putStrLn complaint
  return ending.status.toUInt32
