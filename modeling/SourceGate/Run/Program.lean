import SourceGate.Guard.Basic
import SourceGate.Run.Failure

/-! # What runs behind the gate

A guarded action as the tree of what it may do next: read its cancel token, let time pass, ask the
guard for modules or for a guard of its own, ask the gate for an admission, and end with a value, a
failure or a panic.
-/

namespace SourceGate

inductive Program (α : Type) where
  | done (value : α)
  | fail (failure : Failure)
  | panic (payload : Payload)
  /-- Read whether the run has been given up. -/
  | readToken (next : Bool → Program α)
  /-- Trip the own cancel token. -/
  | tripToken (next : Program α)
  /-- Go on only when the run has been given up. -/
  | awaitToken (next : Program α)
  | sleep (span : Duration) (next : Program α)
  | resolve (generation : Nat) (path : String) (next : Except Refusal ModuleRef → Program α)
  | readSlot (next : Bool → Program α)
  | install (policy : Policy) (next : Except Refusal Nat → Program α)
  | release (generation : Nat) (next : Program α)
  /-- Ask for an admission from inside the run. -/
  | askGate (next : Refusal → Program α)

namespace Program

variable {α β : Type}

def bind : Program α → (α → Program β) → Program β
  | .done value, f => f value
  | .fail failure, _ => .fail failure
  | .panic payload, _ => .panic payload
  | .readToken next, f => .readToken fun tripped => (next tripped).bind f
  | .tripToken next, f => .tripToken (next.bind f)
  | .awaitToken next, f => .awaitToken (next.bind f)
  | .sleep span next, f => .sleep span (next.bind f)
  | .resolve generation path next, f => .resolve generation path fun answer => (next answer).bind f
  | .readSlot next, f => .readSlot fun isInstalled => (next isInstalled).bind f
  | .install policy next, f => .install policy fun answer => (next answer).bind f
  | .release generation next, f => .release generation (next.bind f)
  | .askGate next, f => .askGate fun answer => (next answer).bind f

instance : Monad Program where
  pure := done
  bind := bind

/-- A refusal ends the program, unless it is handled. -/
def ofAnswer : Except Refusal α → Program α
  | .ok value => .done value
  | .error refusal => .fail (.ofRefusal refusal)

/-- Refused once the run has been given up. -/
def checkpoint : Program (Except Refusal Unit) :=
  .readToken fun tripped => .done (if tripped then .error .cancelled else .ok ())

/-- A module resolved under the number of a guard. -/
def importModule (generation : Nat) (path : String) : Program (Except Refusal ModuleRef) :=
  .resolve generation path .done

/-- What a program sees of the world and changes in it. -/
structure World where
  tripped : Bool
  /-- The time since the program began. -/
  elapsed : Duration
  guardian : Guardian
  deriving DecidableEq, Inhabited

/-- A program at work: what it sees, and the numbers of the guards that it installed and has not
released. -/
structure Worker extends World where
  held : List Nat
  deriving DecidableEq, Inhabited

/-- How a program ends that nobody disturbs, and the worker then; no end if it waits to be given up.
An admission asked for from inside is refused, for the run that asks holds the session. A guard can
only be released by who holds it. -/
def runFrom : Program α → Worker → Option (Except Failure α) × Worker
  | .done value, w => (some (.ok value), w)
  | .fail failure, w => (some (.error failure), w)
  | .panic payload, w => (some (.error (.ofPanic payload)), w)
  | .readToken next, w => (next w.tripped).runFrom w
  | .tripToken next, w => next.runFrom { w with tripped := true }
  | .awaitToken next, w => if w.tripped then next.runFrom w else (none, w)
  | .sleep span next, w => next.runFrom { w with elapsed := ⟨w.elapsed.nanos + span.nanos⟩ }
  | .resolve generation path next, w =>
    let (answer, guardian) := w.guardian.resolve generation path
    (next answer).runFrom { w with guardian }
  | .readSlot next, w => (next w.guardian.isInstalled).runFrom w
  | .install policy next, w =>
    let (answer, guardian) := w.guardian.install policy
    (next answer).runFrom { w with guardian, held := answer.toOption.toList ++ w.held }
  | .release generation next, w =>
    if w.held.contains generation then
      next.runFrom
        { w with guardian := w.guardian.release generation, held := w.held.erase generation }
    else next.runFrom w
  | .askGate next, w => (next .reentrancy).runFrom w

/-- How a program ends that starts with no guard of its own, and the world then. -/
def run (p : Program α) (w : World) : Option (Except Failure α) × World :=
  let (result, worker) := p.runFrom ⟨w, []⟩
  (result, worker.toWorld)

end Program

end SourceGate
