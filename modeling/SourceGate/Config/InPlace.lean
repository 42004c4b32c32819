import SourceGate.Config.Basic

/-! # Checking a configuration where it stands

Whoever has set fields of a configuration has it checked again in place. The fields are looked at
one after the other, and once a policy is made of the lists these are assigned one after the other.
A step that fails leaves the configuration as the steps before it have made it.
-/

namespace SourceGate.Config

/-- A step of a check: what it gives or how it fails, and the configuration after it. -/
abbrev Checking (α : Type) := EStateM ConfigError Config α

/-- A look at the configuration, which may fail. -/
def look {α : Type} (seen : Config → Except ConfigError α) : Checking α := fun c =>
  match seen c with
  | .ok a => .ok a c
  | .error e => .error e c

def checkOrder (c : Config) : Except ConfigError Unit :=
  if c.pollInterval.nanos > c.deadline.nanos then .error .pollBeyondDeadline else .ok ()

/-- The tables of a policy become the lists, one after the other. -/
def assign (made : Policy) : Checking Unit := do
  modify fun c => { c with allowedModules := made.allowed.names }
  modify fun c => { c with forbiddenOperations := made.forbidden.names }

def validateInPlace : Checking Unit := do
  look fun c => Bounds.deadline.check (millisWord c.deadline)
  look fun c => Bounds.memoryCeiling.check c.memoryCeilingMb
  look fun c => Bounds.pollInterval.check (millisWord c.pollInterval)
  look fun c => Bounds.grace.check (millisWord c.grace)
  look fun c => Bounds.maxPending.check c.maxPending
  look checkOrder
  let made ← look policy
  assign made

end SourceGate.Config
