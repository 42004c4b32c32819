import SourceGate.Config.Settings
import SourceGate.Gate.Basic
import SourceGate.Text.Hex
import SourceGate.Word

/-! # Loading a configuration

The standard one, under a settings file, under the environment, and then checked.
-/

namespace SourceGate

/-- The values of environment variables. `none` stands for one that is not set and for one whose
value is not Unicode, which is read as if it were not set. -/
abbrev Environment := String → Option String

/-- What stands behind a path. -/
abbrev Readable := String → Except FileError String

namespace Environment

/-- A variable that is set to more than blanks. -/
def filled? (env : Environment) (name : String) : Option String :=
  (env name).filter fun value => !Text.allBlank value.toList

/-- A natural number of 64 bits in decimal digits, a plus in front of them or not. -/
def word? (text : String) : Option Nat :=
  let digits := match text.toList with
    | '+' :: rest => rest
    | cs => cs
  let n := Text.numberOf 10 digits
  if !digits.isEmpty && digits.all Char.isDigit && n < Word.count then some n else none

/-- A number that may be left out. -/
def number (env : Environment) (name : String) : Except ConfigError (Option Nat) :=
  match env.filled? name with
  | none => .ok none
  | some value =>
    match word? (Text.trimmed value) with
    | some n => .ok (some n)
    | none => .error (.notNumber name)

/-- Texts between commas, without blanks around them; no list if there are none. -/
def list? (env : Environment) (name : String) : Option (List String) :=
  let entries := ((((env name).getD "").splitOn ",").map Text.trimmed).filter (!·.isEmpty)
  if entries.isEmpty then none else some entries

/-- The layer of the environment. -/
def settings (env : Environment) : Except ConfigError Settings := do
  let deadlineMs ← env.number "GATE_DEADLINE_MS"
  let memoryCeilingMb ← env.number "GATE_MEMORY_CEILING_MB"
  let pollIntervalMs ← env.number "GATE_POLL_INTERVAL_MS"
  let graceMs ← env.number "GATE_GRACE_MS"
  let filter ← (env.filled? "GATE_SYSCALL_FILTER").mapM
    (Settings.parseFilter "GATE_SYSCALL_FILTER")
  let maxPending ← env.number "GATE_MAX_PENDING"
  return {
    allowedModules := env.list? "GATE_ALLOWED_MODULES"
    forbiddenOperations := env.list? "GATE_FORBIDDEN_OPERATIONS"
    deadlineMs, memoryCeilingMb, pollIntervalMs, graceMs, filter, maxPending }

end Environment

namespace Config

/-- The layer of the settings file that the environment names. -/
def fileSettings (env : Environment) (read : Readable) : Except ConfigError Settings :=
  match env.filled? "GATE_CONFIG" with
  | none => .ok .none
  | some path =>
    match read path with
    | .error cause => .error (.unreadable path cause)
    | .ok source => Settings.ofFile path source

/-- The configuration before it is checked. -/
def layered (env : Environment) (read : Readable) : Except ConfigError Config := do
  let file ← fileSettings env read
  let environment ← env.settings
  return environment.upon (file.upon .standard)

def load (env : Environment) (read : Readable) : Except ConfigError Config := do
  (← layered env read).validate

/-- The limits of a gate. -/
def gateLimits (c : Config) : Except ConfigError GateLimits := do
  return {
    deadline := c.deadline
    memoryCeiling := ← c.memoryCeiling
    pollInterval := c.pollInterval
    grace := c.grace
    filter := c.filter
    maxPending := c.maxPending }

/-- The gate of a configuration. -/
def gate (c : Config) (probe : Probe) : Except ConfigError Gate := do
  let policy ← c.policy
  return Gate.ofPolicy policy (← c.gateLimits) probe

end Config

end SourceGate
