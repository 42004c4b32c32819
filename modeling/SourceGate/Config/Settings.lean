import SourceGate.Config.Basic
import SourceGate.Data.Json.Reader
import SourceGate.Data.Toml.Reader

/-! # Layers of settings

A layer sets some of the fields of a configuration: a settings file, or the environment. What a
layer sets counts before what is below it.
-/

namespace SourceGate

structure Settings where
  allowedModules : Option (List String)
  forbiddenOperations : Option (List String)
  deadlineMs : Option Nat
  memoryCeilingMb : Option Nat
  pollIntervalMs : Option Nat
  graceMs : Option Nat
  filter : Option SyscallFilter
  maxPending : Option Nat
  deriving DecidableEq, Repr, Inhabited

namespace Settings

/-- The layer that sets nothing. -/
def none : Settings := ⟨.none, .none, .none, .none, .none, .none, .none, .none⟩

/-- A configuration under a layer. -/
def upon (s : Settings) (c : Config) : Config where
  allowedModules := s.allowedModules.getD c.allowedModules
  forbiddenOperations := s.forbiddenOperations.getD c.forbiddenOperations
  deadline := (s.deadlineMs.map .ofMillis).getD c.deadline
  memoryCeilingMb := s.memoryCeilingMb.getD c.memoryCeilingMb
  pollInterval := (s.pollIntervalMs.map .ofMillis).getD c.pollInterval
  grace := (s.graceMs.map .ofMillis).getD c.grace
  filter := s.filter.getD c.filter
  maxPending := s.maxPending.getD c.maxPending

/-- A filter by its name, in small or capital letters of ASCII. -/
def parseFilter (key value : String) : Except ConfigError SyscallFilter :=
  let name := String.ofList ((Text.trim value.toList).map Char.toLower)
  if name == "off" then .ok .off
  else if name == "required" then .ok .required
  else .error (.badFilter key name)

end Settings

/-- The formats of settings files. -/
inductive SettingsFormat where
  | json | toml
  deriving DecidableEq, Repr

namespace SettingsFormat

/-- The ending of a file name, after its last dot; a name that only begins with a dot has none. -/
def ending? (name : List Char) : Option (List Char) :=
  let back := name.reverse
  let ending := (back.takeWhile (· != '.')).reverse
  let stem := (back.dropWhile (· != '.')).drop 1
  if stem.isEmpty then none else some ending

/-- The last name in a path. -/
def fileName (path : String) : String :=
  (((path.splitOn "/").filter fun name => name != "" && name != ".").getLast?).getD ""

/-- A file is TOML by the ending of its name, else JSON. -/
def ofPath (path : String) : SettingsFormat :=
  match ending? (fileName path).toList with
  | some ending =>
    if ending.map Char.toLower = ['t', 'o', 'm', 'l'] then .toml else .json
  | none => .json

def read? : SettingsFormat → String → Option Data
  | json, source => Json.read? source
  | toml, source => Toml.read? source

end SettingsFormat

namespace Settings

/-- The values of fields by their names: those of a record, each at most once, or the items of a
list in the order of the names. Null is no value. A list in JSON has no further items, and a moment
has none of the fields. -/
def fields? (format : SettingsFormat) (names : List String) : Data → Option (List (Option Data))
  | .record fields => names.mapM fun name =>
    match fields.filter (·.1 == name) with
    | [] => some .none
    | [(_, .null)] => some .none
    | [(_, value)] => some (some value)
    | _ => .none
  | .list items =>
    if items.length < names.length || (format = .json && items.length > names.length) then .none
    else some ((items.take names.length).map fun
      | .null => .none
      | value => some value)
  | .moment => some (names.map fun _ => .none)
  | _ => .none

/-- The fields of a section, which may be left out. -/
def group? (format : SettingsFormat) (names : List String) :
    Option Data → Option (List (Option Data))
  | .none => some (names.map fun _ => .none)
  | some d => fields? format names d

def nat? : Data → Option Nat
  | .int n => if 0 ≤ n then some n.toNat else .none
  | _ => .none

def text? : Data → Option String
  | .text s => some s
  | _ => .none

def texts? : Data → Option (List String)
  | .list items => items.mapM text?
  | _ => .none

/-- A value that may be left out, but is of the right kind if it is there. -/
def read? {α : Type} (kind : Data → Option α) : Option Data → Option (Option α)
  | .none => some .none
  | some d => (kind d).map some

/-- The layer of a settings file and the name of its filter, unless some value is of a wrong kind.
-/
def ofData? (format : SettingsFormat) (d : Data) : Option (Settings × Option String) := do
  match ← fields? format ["policy", "limits", "concurrency"] d with
  | [policy, limits, concurrency] =>
    match ← group? format ["allowed_modules", "forbidden_operations"] policy,
      ← group? format
        ["deadline_ms", "memory_ceiling_mb", "poll_interval_ms", "grace_ms", "syscall_filter"]
        limits,
      ← group? format ["max_pending"] concurrency with
    | [allowed, forbidden], [deadline, ceiling, poll, grace, filter], [pending] =>
      let settings : Settings :=
        { allowedModules := ← read? texts? allowed
          forbiddenOperations := ← read? texts? forbidden
          deadlineMs := ← read? nat? deadline
          memoryCeilingMb := ← read? nat? ceiling
          pollIntervalMs := ← read? nat? poll
          graceMs := ← read? nat? grace
          filter := .none
          maxPending := ← read? nat? pending }
      return (settings, ← read? text? filter)
    | _, _, _ => .none
  | _ => .none

/-- The layer of a settings file. -/
def ofFile (path source : String) : Except ConfigError Settings :=
  let format := SettingsFormat.ofPath path
  match (format.read? source).bind (ofData? format) with
  | .none => .error (.malformed path)
  | some (settings, .none) => .ok settings
  | some (settings, some name) =>
    (parseFilter "limits.syscall_filter" name).map fun filter =>
      { settings with filter := some filter }

end Settings

end SourceGate
