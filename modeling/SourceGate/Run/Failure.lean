import SourceGate.Refusal

/-! # Failures of a run

A failure is a chain of causes: what it came from, and what was said about it on its way out. A
refusal may stand anywhere in the chain.
-/

namespace SourceGate

inductive Cause where
  | text (message : String)
  | refusal (refusal : Refusal)
  deriving DecidableEq, Repr, Inhabited

def Cause.message : Cause → String
  | text message => message
  | refusal r => r.message

def Cause.refusal? : Cause → Option Refusal
  | text _ => none
  | refusal r => some r

structure Failure where
  /-- What was said about the failure, the last first. -/
  contexts : List Cause
  root : Cause
  deriving DecidableEq, Repr, Inhabited

/-- What a panic throws. -/
inductive Payload where
  | text (message : String)
  | other
  deriving DecidableEq, Repr, Inhabited

def Payload.message : Payload → String
  | text message => message
  | other => "non-string panic payload"

namespace Failure

def ofText (message : String) : Failure := ⟨[], .text message⟩

def ofRefusal (r : Refusal) : Failure := ⟨[], .refusal r⟩

/-- The failure as a panic is reported. -/
def ofPanic (payload : Payload) : Failure :=
  .ofText s!"limiter: guarded action panicked: {payload.message}"

/-- The failure with one more thing said about it. -/
def saying (f : Failure) (context : String) : Failure :=
  { f with contexts := .text context :: f.contexts }

/-- The failure of a run for whose worker there is no thread. -/
def unspawned (cause : String) : Failure :=
  (ofText cause).saying "limiter: failed to spawn worker"

/-- The causes from the outside in. -/
def causes (f : Failure) : List Cause := f.contexts ++ [f.root]

def messages (f : Failure) : List String := f.causes.map (·.message)

/-- The outermost refusal in a failure. -/
def refusal? (f : Failure) : Option Refusal := f.causes.findSome? (·.refusal?)

end Failure

/-- A failure in which no refusal stands. -/
abbrev PlainFailure := { failure : Failure // failure.refusal? = none }

end SourceGate
