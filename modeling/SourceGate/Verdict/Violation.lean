import SourceGate.Text.Location

/-! # Violations of a policy -/

namespace SourceGate

inductive ViolationKind where
  | importing | operation
  deriving DecidableEq, Repr, Inhabited

/-- How a forbidden operation was reached. -/
inductive Route where
  /-- `eval(…)` -/
  | directCall
  /-- `builtins.eval(…)`, `x.__globals__` -/
  | attributeAccess
  /-- `{"f": eval}["f"](…)`, `__builtins__["eval"]` -/
  | subscriptAccess
  /-- `[eval][0](…)`, `(f,) = (eval,)`, `for f in [eval]: …` -/
  | containerIndirection
  /-- `getattr(x, "ev" + "al")(…)`, `getattr(x, name)(…)` -/
  | computedName
  /-- A forbidden name handed around as a value: `f = eval`, `map(eval, xs)`. -/
  | aliasReference
  deriving DecidableEq, Repr, Inhabited

def Route.label : Route → String
  | directCall => "direct_call"
  | attributeAccess => "attribute_access"
  | subscriptAccess => "subscript_access"
  | containerIndirection => "container_indirection"
  | computedName => "computed_name"
  | aliasReference => "alias_reference"

def ViolationKind.label : ViolationKind → String
  | .importing => "import"
  | operation => "operation"

structure Violation where
  kind : ViolationKind
  /-- The path of an import, the name of an operation. -/
  target : String
  place : Location
  route : Option Route
  deriving DecidableEq, Repr, Inhabited

namespace Violation

/-- The written form. -/
def render (v : Violation) : String :=
  match v.kind, v.route with
  | .importing, _ => s!"{v.place.render}: import of '{v.target}' not allowed"
  | .operation, some route =>
    s!"{v.place.render}: forbidden operation '{v.target}' ({route.label})"
  | .operation, none => s!"{v.place.render}: {v.target}"

end Violation

end SourceGate
