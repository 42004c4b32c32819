import SourceGate.Namespace.Inventory
import SourceGate.Run.Supervision
import SourceGate.Tree.OfText
import SourceGate.Verdict.Basic

/-! # The gate

A request is judged first; what is accepted runs inside a session that holds the guard and gives it
back however the run ends. At most a fixed number of requests may be in or before a session.
-/

namespace SourceGate

structure GateLimits extends Limits where
  maxPending : Nat
  deriving DecidableEq, Repr, Inhabited

namespace GateLimits

/-- The limits where none are given. -/
def standard : GateLimits :=
  { Limits.ofDeadline (.ofMillis 30000) (1024 * 1024 * 1024) with maxPending := 16 }

/-- The limits of one run. -/
def forRun (limits : GateLimits) (deadline : Duration) (memoryCeiling : Nat) : Limits :=
  { limits.toLimits with deadline, memoryCeiling }

end GateLimits

/-- What a gate has counted. -/
structure Counters where
  installs : Nat
  releases : Nat
  admitted : Nat
  rejected : Nat
  overloaded : Nat
  deriving DecidableEq, Repr, Inhabited

namespace Counters

def zero : Counters := ⟨0, 0, 0, 0, 0⟩

/-- The sessions that are open. -/
def live (c : Counters) : Nat := c.installs - c.releases

end Counters

structure Gate where
  policy : Policy
  limits : GateLimits
  probe : Probe
  /-- The requests that hold a slot. -/
  pending : Nat
  counters : Counters
  deriving DecidableEq, Inhabited

def Gate.ofPolicy (policy : Policy) (limits : GateLimits) (probe : Probe) : Gate :=
  ⟨policy, limits, probe, 0, .zero⟩

/-- A gate and the guard slot of its process. -/
structure Site where
  gate : Gate
  guardian : Guardian
  deriving DecidableEq, Inhabited

/-- What is run on the namespace of an admitted module. -/
abbrev Engine (α : Type) := Namespace → Program α

/-- The engine that lists what was loaded. -/
def Engine.inventory (target : String) : Engine Inventory := fun n => do
  Program.ofAnswer (← Program.checkpoint)
  return n.inventory target

/-- An open session. -/
structure Session where
  generation : Nat
  body : List Tree.Stmt
  limits : Limits
  deriving Repr, Inhabited

/-- What entering a gate comes to. -/
inductive Entrance where
  | refused (refusal : Refusal)
  | opened (session : Session)
  /-- Opening the session unwinds, for the clock cannot hold the deadline. -/
  | unopened
  deriving Repr, Inhabited

/-- How a request leaves a gate. -/
inductive Exit (α : Type) where
  | answered (answer : Except Refusal α)
  /-- The thread that supervises the run unwinds. -/
  | unwound
  /-- Opening the session unwinds. -/
  | unopened

def Exit.answer? {α : Type} : Exit α → Option (Except Refusal α)
  | answered answer => some answer
  | _ => none

/-- Whether a refusal from inside a run is told outside. -/
def Refusal.surfaces : Refusal → Bool
  | importBlocked _ _ | reentrancy | cancelled => true
  | _ => false

/-- What is told outside of a failure: its outermost refusal that may be told, else nothing. -/
def Failure.surface (f : Failure) : Refusal :=
  ((f.causes.filterMap (·.refusal?)).find? (·.surfaces)).getD .internalFault

/-- The answer that an outcome stands for. -/
def Outcome.answer {α : Type} : Outcome α → Except Refusal α
  | completed value => .ok value
  | deadlineExceeded deadline => .error (.deadlineExceeded deadline)
  | memoryExceeded ceiling observed => .error (.memoryExceeded ceiling observed)
  | faulted failure => .error failure.surface

namespace Site

variable {α : Type}

/-- The site with other counters. -/
def count (s : Site) (f : Counters → Counters) : Site :=
  { s with gate := { s.gate with counters := f s.gate.counters } }

/-- A request up to its open session: judged, given a slot, and under a guard of its own. An opening
that unwinds gives back the slot and the guard, and its install stays counted. -/
def enter (s : Site) (body : List Tree.Stmt) (deadline : Duration) (memoryCeiling : Nat)
    (now : Instant) : Entrance × Site :=
  let found := Tree.violations s.gate.policy body
  if !found.isEmpty then
    (.refused (.rejected found), s.count fun c => { c with rejected := c.rejected + 1 })
  else if s.gate.pending ≥ s.gate.limits.maxPending then
    (.refused (.overloaded s.gate.limits.maxPending),
      s.count fun c => { c with overloaded := c.overloaded + 1 })
  else
    match s.guardian.install s.gate.policy with
    | (.error refusal, _) => (.refused refusal, s)
    | (.ok generation, guardian) =>
      if now.canAdd deadline then
        let gate := { s.gate with pending := s.gate.pending + 1 }
        (.opened ⟨generation, body, s.gate.limits.forRun deadline memoryCeiling⟩,
          (Site.mk gate guardian).count fun c => { c with installs := c.installs + 1 })
      else
        (.unopened, (Site.mk s.gate (guardian.release generation)).count fun c =>
          { c with installs := c.installs + 1 })

/-- An open session to its end: the module is loaded, the engine runs, the guard is released and the
slot is free again. -/
def leave (s : Site) (session : Session) (engine : Engine α) (c : Conditions) :
    Except Refusal α × Site :=
  let program := (Namespace.load session.generation session.body).bind engine
  let (outcome, guardian, probe) := session.limits.run c s.gate.probe program s.guardian
  let gate := { s.gate with probe, pending := s.gate.pending - 1 }
  let closed := (Site.mk gate (guardian.release session.generation)).count fun c =>
    { c with
      releases := c.releases + 1
      admitted := if outcome.isCompleted then c.admitted + 1 else c.admitted }
  (outcome.answer, closed)

/-- A request from its tree to its end. -/
def serve (s : Site) (body : List Tree.Stmt) (deadline : Duration) (memoryCeiling : Nat)
    (engine : Engine α) (c : Conditions) : Exit α × Site :=
  match s.enter body deadline memoryCeiling c.now with
  | (.refused refusal, s) => (.answered (.error refusal), s)
  | (.unopened, s) => (.unopened, s)
  | (.opened session, s) =>
    let (answer, s) := s.leave session engine c
    (.answered answer, s)

/-- A request from its source to its end. -/
def serveText (s : Site) (source : String) (deadline : Duration) (memoryCeiling : Nat)
    (engine : Engine α) (c : Conditions) : Exit α × Site :=
  match Tree.ofText source with
  | .error e => (.answered (.error (.malformed e.cause.message e.place)), s)
  | .ok body => s.serve body deadline memoryCeiling engine c

/-- The inventory of a source under the limits of the gate. -/
def analyze (s : Site) (source target : String) (c : Conditions) : Exit Inventory × Site :=
  s.serveText source s.gate.limits.deadline s.gate.limits.memoryCeiling (.inventory target) c

end Site

end SourceGate
