import SourceGate.Policy.Basic
import SourceGate.Refusal

/-! # Reports

What is told of an answer: its status, the policy it was given under, and the refusal with its
violations or the result.
-/

namespace SourceGate

inductive Status where
  | accepted
  /-- The source is at fault. -/
  | rejected
  /-- Anything else is at fault. -/
  | failed
  deriving DecidableEq, Repr, Inhabited

namespace Status

def label : Status → String
  | accepted => "accepted"
  | rejected => "rejected"
  | failed => "failed"

def exitCode : Status → Nat
  | accepted => 0
  | rejected => 2
  | failed => 1

end Status

def Refusal.status : Refusal → Status
  | malformed _ _ | rejected _ | importBlocked _ _ => .rejected
  | _ => .failed

structure Report (α : Type) where
  fingerprint : String
  answer : Except Refusal α

namespace Report

variable {α : Type}

def ofAnswer (policy : Policy) (answer : Except Refusal α) : Report α :=
  ⟨policy.fingerprint, answer⟩

def refusal? (r : Report α) : Option Refusal :=
  match r.answer with
  | .ok _ => none
  | .error refusal => some refusal

def output? (r : Report α) : Option α := r.answer.toOption

def status (r : Report α) : Status :=
  match r.answer with
  | .ok _ => .accepted
  | .error refusal => refusal.status

def violations (r : Report α) : List Violation := ((r.refusal?).map (·.violations)).getD []

def exitCode (r : Report α) : Nat := r.status.exitCode

/-- The line of a violation. -/
def violationLine (v : Violation) : String :=
  let route := match v.route with
    | some route => s!" via {route.label}"
    | none => ""
  s!"  {v.place.render} {v.kind.label} '{v.target}'{route}\n"

/-- The report as text, a line for each finding. -/
def render (r : Report α) : String :=
  let head := ((r.refusal?).map (·.message)).getD "accepted"
  s!"{head}\n" ++ String.join (r.violations.map violationLine) ++ s!"policy {r.fingerprint}\n"

end Report

end SourceGate
