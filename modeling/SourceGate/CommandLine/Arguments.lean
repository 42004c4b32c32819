import SourceGate.Config.Load

/-! # Arguments of the command

One file, and options with long names. An option is given at most once; its value stands after an
equals sign or as the next argument, which then must not look like an option. After two dashes
nothing is an option. Asking for help makes void what comes after it. What is not Unicode is no
file, no option and no value.
-/

namespace SourceGate.CommandLine

/-- What the system has for a text. -/
inductive Raw where
  | text (text : String)
  /-- It is not Unicode; `shown` has marks where it is not. -/
  | garbled (shown : String)
  deriving DecidableEq, Repr, Inhabited

namespace Raw

def text? : Raw → Option String
  | text s => some s
  | garbled _ => none

def shown : Raw → String
  | text s | garbled s => s

end Raw

/-- The variables that are set. -/
abbrev Variables := String → Option Raw

/-- The variables as a configuration reads them: what is not Unicode is as if it were not set. -/
def Variables.environment (vars : Variables) : Environment :=
  fun name => (vars name).bind (·.text?)

inductive Switch where
  | function | json | deadlineMs | memoryCeilingMb
  deriving DecidableEq, Repr, Inhabited

namespace Switch

def ofName? : String → Option Switch
  | "function" => some function
  | "json" => some json
  | "deadline-ms" => some deadlineMs
  | "memory-ceiling-mb" => some memoryCeilingMb
  | _ => none

def takesValue : Switch → Bool
  | json => false
  | _ => true

end Switch

inductive Item where
  | file (path : String)
  | switch (switch : Switch) (value : Option String)
  | help
  deriving DecidableEq, Repr, Inhabited

/-- A dash with something after it. -/
def looksLikeOption (arg : String) : Bool := arg.startsWith "-" && arg != "-"

/-- Whether an option asks for help. The short one may have anything after its letter. -/
def asksHelp (arg : String) : Bool := arg == "--help" || arg.startsWith "-h"

/-- The name of a long option and the value attached to it. -/
def splitOption (arg : String) : String × Option String :=
  let body := arg.toList.drop 2
  let name := String.ofList (body.takeWhile (· != '='))
  match body.dropWhile (· != '=') with
  | _ :: value => (name, some (String.ofList value))
  | [] => (name, none)

/-- The items of a list of arguments up to the first that asks for help, unless an option before it
is unknown or has no value where it needs one or one where it takes none. -/
def items (isPlain : Bool) : List Raw → Option (List Item)
  | [] => some []
  | .garbled shown :: _ => if !isPlain && shown.startsWith "-h" then some [.help] else none
  | .text arg :: rest =>
    if isPlain || !looksLikeOption arg then (items isPlain rest).map (.file arg :: ·)
    else if arg == "--" then items true rest
    else if asksHelp arg then some [.help]
    else if !arg.startsWith "--" then none
    else
      let (name, attached) := splitOption arg
      match Switch.ofName? name, attached, rest with
      | none, _, _ => none
      | some s, some value, rest =>
        if s.takesValue then (items false rest).map (.switch s (some value) :: ·) else none
      | some s, none, value :: rest =>
        if !s.takesValue then (items false (value :: rest)).map (.switch s none :: ·)
        else
          match value with
          | .garbled _ => none
          | .text value =>
            if looksLikeOption value then none
            else (items false rest).map (.switch s (some value) :: ·)
      | some s, none, [] => if s.takesValue then none else some [.switch s none]
termination_by args => args.length

/-- What the arguments alone say. -/
structure Given where
  file : Option String
  function : Option String
  json : Bool
  deadlineMs : Option Nat
  memoryCeilingMb : Option Nat
  help : Bool
  deriving DecidableEq, Repr, Inhabited

/-- The values given to a switch. -/
def valuesOf (s : Switch) (found : List Item) : List String :=
  found.filterMap fun
    | .switch t value => if t = s then some (value.getD "") else none
    | _ => none

def filesOf (found : List Item) : List String :=
  found.filterMap fun
    | .file path => some path
    | _ => none

/-- The member of a list that has no other. -/
def atMostOne : List α → Option (Option α)
  | [] => some none
  | [a] => some (some a)
  | _ => none

/-- A number that may be left out. No blanks are allowed around it. -/
def number : Option String → Option (Option Nat)
  | none => some none
  | some text => (Environment.word? text).map some

/-- What items say, unless there are two files or an option is given twice or has no number where it
needs one. -/
def Given.ofItems? (found : List Item) : Option Given := do
  let file ← atMostOne (filesOf found)
  let function ← atMostOne (valuesOf .function found)
  let json ← atMostOne (valuesOf .json found)
  let deadlineMs ← number (← atMostOne (valuesOf .deadlineMs found))
  let memoryCeilingMb ← number (← atMostOne (valuesOf .memoryCeilingMb found))
  return { file, function, json := json.isSome, deadlineMs, memoryCeilingMb,
           help := found.contains .help }

/-- The number in a variable, if it is set. -/
def Variables.number (vars : Variables) (name : String) : Option (Option Nat) :=
  match vars name with
  | none => some none
  | some raw => (raw.text?.bind Environment.word?).map some

structure Arguments where
  file : String
  /-- The function to report on; empty for none. -/
  function : String
  json : Bool
  deadlineMs : Option Nat
  memoryCeilingMb : Option Nat
  deriving DecidableEq, Repr, Inhabited

/-- The arguments, with numbers from variables where none is given. A variable that is set must hold
a number then. -/
def Given.arguments? (vars : Variables) (g : Given) : Option Arguments := do
  let file ← g.file
  let deadlineMs ← if g.deadlineMs.isSome then some g.deadlineMs
    else vars.number "GATE_DEADLINE_MS"
  let memoryCeilingMb ← if g.memoryCeilingMb.isSome then some g.memoryCeilingMb
    else vars.number "GATE_MEMORY_CEILING_MB"
  return { file, function := g.function.getD "", json := g.json, deadlineMs, memoryCeilingMb }

/-- What the command is asked to do. -/
inductive Order where
  | help
  | check (arguments : Arguments)
  deriving DecidableEq, Repr, Inhabited

def Order.ofList? (vars : Variables) (args : List Raw) : Option Order := do
  let given ← Given.ofItems? (← items false args)
  if given.help then return .help
  return .check (← given.arguments? vars)

/-- How the command is used, with the values of the variables that stand in for options. -/
def help (vars : Variables) : String :=
  let shown name := s!"[env: {name}=" ++ ((vars name).map (·.shown)).getD "" ++ "]"
  "Check untrusted analysis source against the admission gate\n\n" ++
    "Usage: gatecheck [OPTIONS] <FILE>\n\n" ++
    "Arguments:\n" ++
    "  <FILE>  Source file to check, or `-` for stdin\n\n" ++
    "Options:\n" ++
    "      --function <NAME>         Function to report on once loaded [default: ]\n" ++
    "      --json                    Emit the report as JSON\n" ++
    "      --deadline-ms <MS>        Override the configured deadline " ++
      shown "GATE_DEADLINE_MS" ++ "\n" ++
    "      --memory-ceiling-mb <MB>  Override the configured memory ceiling " ++
      shown "GATE_MEMORY_CEILING_MB" ++ "\n" ++
    "  -h, --help                    Print help\n"

end SourceGate.CommandLine
