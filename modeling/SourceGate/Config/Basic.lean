import SourceGate.Files
import SourceGate.Policy.Basic
import SourceGate.Run.Limits
import SourceGate.Word

/-! # Configurations

The settings of a gate, and the bounds that they are checked against.
-/

namespace SourceGate

inductive ConfigError where
  | unreadable (path : String) (cause : FileError)
  /-- A settings file that does not parse, or whose values are of wrong kinds. -/
  | malformed (path : String)
  /-- A variable that should be a number. -/
  | notNumber (name : String)
  | badFilter (key value : String)
  | outOfBounds (key : String) (low high value : Nat)
  | pollBeyondDeadline
  | badPolicy (error : PolicyError)
  | ceilingOverflow (megabytes : Nat)
  deriving DecidableEq, Repr, Inhabited

def ConfigError.message : ConfigError → String
  | unreadable path cause => s!"failed to read config file {path}: {cause.message}"
  | malformed path => s!"invalid config file {path}"
  | notNumber name => s!"{name} must be a non-negative integer"
  | badFilter key value => s!"{key} must be \"off\" or \"required\", got \"{value}\""
  | outOfBounds key low high value => s!"{key} must be within [{low}, {high}], got {value}"
  | pollBeyondDeadline => "limits.poll_interval_ms must not exceed limits.deadline_ms"
  | badPolicy error => error.message
  | ceilingOverflow megabytes =>
    s!"limits.memory_ceiling_mb of {megabytes} overflows a byte count"

structure Config where
  allowedModules : List String
  forbiddenOperations : List String
  deadline : Duration
  memoryCeilingMb : Nat
  pollInterval : Duration
  grace : Duration
  filter : SyscallFilter
  maxPending : Nat
  deriving DecidableEq, Repr, Inhabited

/-- A key and the least and the greatest value it may have. -/
structure Bounds where
  key : String
  low : Nat
  high : Nat

namespace Bounds

def deadline : Bounds := ⟨"limits.deadline_ms", 10, 600000⟩
def memoryCeiling : Bounds := ⟨"limits.memory_ceiling_mb", 16, 65536⟩
def pollInterval : Bounds := ⟨"limits.poll_interval_ms", 1, 1000⟩
def grace : Bounds := ⟨"limits.grace_ms", 0, 10000⟩
def maxPending : Bounds := ⟨"concurrency.max_pending", 1, 1024⟩

def check (b : Bounds) (value : Nat) : Except ConfigError Unit :=
  if value < b.low || value > b.high then .error (.outOfBounds b.key b.low b.high value) else .ok ()

end Bounds

namespace Config

/-- The configuration where nothing is set. -/
def standard : Config where
  allowedModules := Policy.standardAllowed
  forbiddenOperations := Policy.standardForbidden
  deadline := .ofMillis 30000
  memoryCeilingMb := 1024
  pollInterval := Limits.standardPoll
  grace := Limits.standardGrace
  filter := .off
  maxPending := 16

/-- The milliseconds of a duration as a 64-bit word, which drops what does not fit. -/
def millisWord (d : Duration) : Nat := d.millis % Word.count

/-- The memory ceiling in bytes, if 64 bits hold it. -/
def memoryCeiling (c : Config) : Except ConfigError Nat :=
  let bytes := c.memoryCeilingMb * (1024 * 1024)
  if bytes < Word.count then .ok bytes else .error (.ceilingOverflow c.memoryCeilingMb)

def policy (c : Config) : Except ConfigError Policy :=
  (Policy.ofLists c.allowedModules c.forbiddenOperations).mapError .badPolicy

/-- The configuration with its lists in the form that the policy has them, if all bounds are kept.
-/
def validate (c : Config) : Except ConfigError Config := do
  Bounds.deadline.check (millisWord c.deadline)
  Bounds.memoryCeiling.check c.memoryCeilingMb
  Bounds.pollInterval.check (millisWord c.pollInterval)
  Bounds.grace.check (millisWord c.grace)
  Bounds.maxPending.check c.maxPending
  if c.pollInterval.nanos > c.deadline.nanos then throw .pollBeyondDeadline
  let policy ← c.policy
  return { c with
    allowedModules := policy.allowed.names
    forbiddenOperations := policy.forbidden.names }

end Config

end SourceGate
