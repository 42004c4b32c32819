import SourceGate.CommandLine.Arguments
import SourceGate.Data.Json.Printer
import SourceGate.Gate.Report.Data

/-! # Checking a source from the command line

The source is put through the gate of the configuration, and what was loaded is listed. The exit
status is that of the report; it is 1 where no report is made, 2 where the arguments are wrong, and
0 where they ask for help. What the memory, the clock and the system do meanwhile is part of what a
command is given.
-/

namespace SourceGate.CommandLine

/-- What a command is given. -/
structure Request where
  arguments : List Raw
  vars : Variables
  read : Readable
  /-- The standard input. -/
  input : Except FileError String
  /-- What is measured of the memory of the process. -/
  memory : Probe
  conditions : Conditions

def Request.environment (request : Request) : Environment := request.vars.environment

/-- What a command leaves. -/
structure Result where
  status : Nat
  output : String
  errors : String
  deriving DecidableEq, Repr, Inhabited

/-- What a command leaves that panics. -/
def Result.panicked : Result := ⟨101, "", ""⟩

/-- Why no report is made. -/
inductive CheckError where
  | config (error : ConfigError)
  /-- The configuration is out of bounds once the arguments are in it. -/
  | overridden (error : ConfigError)
  | unreadable (path : String) (cause : FileError)
  /-- The standard input cannot be read. -/
  | noInput (cause : FileError)
  deriving DecidableEq, Repr, Inhabited

namespace CheckError

def message : CheckError → String
  | config error => error.message
  | overridden _ => "invalid --deadline-ms / --memory-ceiling-mb override"
  | unreadable path _ => s!"failed to read {path}"
  | noInput _ => "failed to read source from stdin"

/-- What the error was caused by. -/
def cause? : CheckError → Option String
  | config _ => none
  | overridden error => some error.message
  | unreadable _ cause | noInput cause => some cause.message

/-- The error as it is told; a cause is indented by four blanks. -/
def render (e : CheckError) : String :=
  let cause := match e.cause? with
    | some cause => "\n\nCaused by:\n    " ++ "\n    ".intercalate (cause.splitOn "\n")
    | none => ""
  s!"Error: {e.message}{cause}\n"

end CheckError

/-- A configuration with what the arguments put in its place. -/
def Arguments.upon (a : Arguments) (c : Config) : Config :=
  { c with
    deadline := (a.deadlineMs.map .ofMillis).getD c.deadline
    memoryCeilingMb := a.memoryCeilingMb.getD c.memoryCeilingMb }

/-- Texts with commas between them; a dash for none. -/
def listed (texts : List String) : String :=
  let joined := ", ".intercalate texts
  if joined.isEmpty then "-" else joined

/-- The lines about a target. -/
def targetLine (name : String) (target : Option FunctionInfo) : String :=
  match target with
  | some f =>
    let params := ", ".intercalate f.params
    s!"target: {f.qualifiedName}({params}) at {f.place.render}\n"
  | none => if name.isEmpty then "" else s!"target: {name} not found\n"

def inventoryLines (name : String) (i : Inventory) : String :=
  let imports := listed (i.imports.map (·.path))
  let functions := listed i.functions
  let classes := listed i.classes
  s!"imports: {imports}\nfunctions: {functions}\nclasses: {classes}\n" ++
    targetLine name i.target

/-- A report as the arguments ask for it. -/
def written (a : Arguments) (r : Report Inventory) : String :=
  if a.json then Json.write 0 (r.data (·.data)) ++ "\n"
  else r.render ++ ((r.output?).map (inventoryLines a.function)).getD ""

def readSource (request : Request) (file : String) : Except CheckError String :=
  if file == "-" then request.input.mapError .noInput
  else (request.read file).mapError (.unreadable file)

/-- How the source that the arguments name leaves the gate of the configuration, with the policy of
that gate. -/
def judge (request : Request) (a : Arguments) : Except CheckError (Policy × Exit Inventory) := do
  let config ← (Config.load request.environment request.read).mapError .config
  let config ← (a.upon config).validate.mapError .overridden
  let source ← readSource request a.file
  let gate ← (config.gate request.memory).mapError .config
  return (gate.policy, ((Site.mk gate .start).analyze source a.function request.conditions).1)

/-- What is left of a request that a gate is done with. -/
def Result.ofExit (a : Arguments) (policy : Policy) (exit : Exit Inventory) : Result :=
  match exit.answer? with
  | some answer =>
    let report := Report.ofAnswer policy answer
    ⟨report.exitCode, written a report, ""⟩
  | none => .panicked

def run (request : Request) : Result :=
  match Order.ofList? request.vars request.arguments with
  | none => ⟨2, "", ""⟩
  | some .help => ⟨0, help request.vars, ""⟩
  | some (.check a) =>
    match judge request a with
    | .ok (policy, exit) => .ofExit a policy exit
    | .error e => ⟨1, "", e.render⟩

end SourceGate.CommandLine
