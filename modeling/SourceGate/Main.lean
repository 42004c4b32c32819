import SourceGate.CommandLine.Check

/-! # The command

Hands the command its arguments, the variables, and the texts it may ask for, and shows what it
leaves. Neither the memory nor the time is measured here.
-/

namespace SourceGate.CommandLine

/-- The variables that are looked at. -/
def variableNames : List String :=
  ["GATE_CONFIG", "GATE_ALLOWED_MODULES", "GATE_FORBIDDEN_OPERATIONS", "GATE_DEADLINE_MS",
    "GATE_MEMORY_CEILING_MB", "GATE_POLL_INTERVAL_MS", "GATE_GRACE_MS", "GATE_SYSCALL_FILTER",
    "GATE_MAX_PENDING"]

/-- The cause behind an error number of the system, given with either sign. -/
def numbered (code : UInt32) (details : String) : FileError :=
  match code.toInt32.toInt.natAbs with
  | 2 => .notFound
  | 13 => .denied
  | 20 => .notDirectory
  | 21 => .isDirectory
  | 36 => .nameTooLong
  | number => .other details number

/-- Why the system did not open or read a file. -/
def fileError : IO.Error → FileError
  | .noFileOrDirectory _ code details | .inappropriateType _ code details
  | .permissionDenied _ code details | .invalidArgument _ code details
  | .resourceExhausted _ code details | .otherError code details => numbered code details
  | e => .other e.toString 5

def decoded (bytes : ByteArray) : Except FileError String :=
  match String.fromUTF8? bytes with
  | some text => .ok text
  | none => .error .notText

/-- What stands behind a path now. -/
def readText (path : String) : IO (Except FileError String) := do
  match ← (IO.FS.readBinFile path).toBaseIO with
  | .ok bytes => return decoded bytes
  | .error e => return .error (fileError e)

/-- The source that a command asks for. -/
def sourcePath? (vars : Variables) (arguments : List Raw) : Option String :=
  match Order.ofList? vars arguments with
  | some (.check a) => some a.file
  | _ => none

/-- A finding in a list of pairs. -/
def among (pairs : List (String × α)) (key : String) : Option α :=
  (pairs.find? (·.1 == key)).map (·.2)

/-- Runs the command on the system it stands in. -/
def runHere (arguments : List String) : IO Result := do
  let arguments := arguments.map Raw.text
  let values ← variableNames.mapM fun name => return (name, (← IO.getEnv name).map Raw.text)
  let vars : Variables := fun name => (among values name).join
  let source := sourcePath? vars arguments
  let paths :=
    (vars.environment.filled? "GATE_CONFIG").toList ++ (source.filter (· != "-")).toList
  let texts ← paths.mapM fun path => return (path, ← readText path)
  let input ← if source == some "-" then (← IO.getStdin).readToEnd else pure ""
  let read path := (among texts path).getD (.error .notFound)
  return run
    { arguments, vars, read, input := .ok input, memory := [], conditions := .calm }

end SourceGate.CommandLine

/-- Checks the source that the arguments name; the status is that of the check. -/
def main (arguments : List String) : IO UInt32 := do
  let result ← SourceGate.CommandLine.runHere arguments
  IO.print result.output
  IO.eprint result.errors
  return result.status.toUInt32
