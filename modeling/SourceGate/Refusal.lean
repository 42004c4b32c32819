import SourceGate.Duration
import SourceGate.Verdict.Violation

/-! # Refusals

Every way in which a request can end without its result. Each has a fixed code. An internal fault
carries nothing: what went wrong behind the gate is not told outside.
-/

namespace SourceGate

inductive Refusal where
  /-- The source does not parse. -/
  | malformed (message : String) (place : Location)
  /-- The verdict on the tree. -/
  | rejected (violations : List Violation)
  /-- The live guard did not let a module through. -/
  | importBlocked (path root : String)
  /-- A guard was live already. -/
  | reentrancy
  | deadlineExceeded (deadline : Duration)
  | memoryExceeded (ceiling observed : Nat)
  /-- Too many requests were waiting. -/
  | overloaded (maxPending : Nat)
  /-- The run was given up. -/
  | cancelled
  | internalFault
  deriving DecidableEq, Repr, Inhabited

namespace Refusal

def code : Refusal → String
  | malformed _ _ => "GATE_PARSE_ERROR"
  | rejected _ => "GATE_REJECTED"
  | importBlocked _ _ => "GATE_IMPORT_BLOCKED"
  | reentrancy => "GATE_REENTRANCY"
  | deadlineExceeded _ => "GATE_DEADLINE_EXCEEDED"
  | memoryExceeded _ _ => "GATE_MEMORY_EXCEEDED"
  | overloaded _ => "GATE_OVERLOADED"
  | cancelled => "GATE_CANCELLED"
  | internalFault => "GATE_INTERNAL_FAULT"

/-- What a refusal says after its code. -/
def detail : Refusal → String
  | malformed message place => s!"{message} at {place.render}"
  | rejected violations => s!"{violations.length} policy violation(s)"
  | importBlocked path root => s!"import of '{path}' blocked (root '{root}' not allowed)"
  | reentrancy => "an import guard is already installed"
  | deadlineExceeded deadline => s!"guarded execution exceeded {deadline.millis} ms"
  | memoryExceeded ceiling observed =>
    s!"guarded execution grew {observed} bytes (ceiling {ceiling} bytes)"
  | overloaded maxPending => s!"more than {maxPending} guarded requests pending"
  | cancelled => "guarded execution cancelled"
  | internalFault => "internal fault"

def message (r : Refusal) : String := s!"{r.code}: {r.detail}"

/-- The violations of a rejection; none of any other refusal. -/
def violations : Refusal → List Violation
  | rejected violations => violations
  | _ => []

/-- Where a refusal lies in the source, if it is about its text. -/
def place? : Refusal → Option Location
  | malformed _ place => some place
  | _ => none

end Refusal

end SourceGate
