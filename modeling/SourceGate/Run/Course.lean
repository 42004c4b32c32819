import Mathlib.Logic.Relation
import SourceGate.Run.Supervisor

/-! # Supervisor and worker side by side

A run of a program as it takes its course: the supervisor and the worker proceed in any order, and
between any two of their acts others may use the guard. The worker reads the token as it is at that
moment; what it sends waits in the channel.
-/

namespace SourceGate

namespace Program

variable {α : Type}

/-- A program after its next act, and its worker then; none at its end, or where it waits to be
given up. -/
def next? : Program α → Worker → Option (Program α × Worker)
  | .done _, _ | .fail _, _ | .panic _, _ => none
  | .readToken next, w => some (next w.tripped, w)
  | .tripToken next, w => some (next, { w with tripped := true })
  | .awaitToken next, w => if w.tripped then some (next, w) else none
  | .sleep span next, w => some (next, { w with elapsed := ⟨w.elapsed.nanos + span.nanos⟩ })
  | .resolve generation path next, w =>
    let (answer, guardian) := w.guardian.resolve generation path
    some (next answer, { w with guardian })
  | .readSlot next, w => some (next w.guardian.isInstalled, w)
  | .install policy next, w =>
    let (answer, guardian) := w.guardian.install policy
    some (next answer, { w with guardian, held := answer.toOption.toList ++ w.held })
  | .release generation next, w =>
    if w.held.contains generation then
      some (next,
        { w with guardian := w.guardian.release generation, held := w.held.erase generation })
    else some (next, w)
  | .askGate next, w => some (next .reentrancy, w)

/-- The result of a program that is at its end. -/
def result? : Program α → Option (Except Failure α)
  | .done value => some (.ok value)
  | .fail failure => some (.error failure)
  | .panic payload => some (.error (.ofPanic payload))
  | _ => none

end Program

/-- How far a worker has come. -/
inductive Delivery (α : Type) where
  | working (program : Program α)
  | sent (result : Except Failure α)
  /-- It is gone and has sent nothing. -/
  | gone

namespace Delivery

variable {α : Type}

/-- What a wait may end with. Nothing may have come just before something does. -/
inductive Yields : Delivery α → Arrival α → Prop where
  | nothing (d) : Yields d .nothing
  | result (result) : Yields (sent result) (.result result)
  | disconnected : Yields gone .disconnected

end Delivery

namespace Act

variable {α : Type}

/-- Whether an act can be done where the worker has come so far. -/
def Fits (delivery : Delivery α) : Act α → Prop
  | receive _ arrival => delivery.Yields arrival
  | _ => True

/-- The worker after an act of its supervisor. -/
def on (w : Program.Worker) : Act α → Program.Worker
  | trip => { w with tripped := true }
  | _ => w

end Act

/-- A run under way. -/
structure Course (α : Type) where
  supervisor : Supervisor α
  delivery : Delivery α
  worker : Program.Worker

namespace Course

variable {α : Type}

/-- One act in a run whose first sample was `baseline`. -/
inductive Step (limits : Limits) (baseline : Option Nat) : Course α → Course α → Prop where
  | supervise {s s' d w} (act) (step : Supervisor.Step limits baseline s act s')
      (fits : act.Fits d) : Step limits baseline ⟨s, d, w⟩ ⟨s', d, act.on w⟩
  | work {s p p' w w'} (next : p.next? w = some (p', w')) :
      Step limits baseline ⟨s, .working p, w⟩ ⟨s, .working p', w'⟩
  | send {s p r w} (ended : p.result? = some r) :
      Step limits baseline ⟨s, .working p, w⟩ ⟨s, .sent r, w⟩
  | vanish {s p w} : Step limits baseline ⟨s, .working p, w⟩ ⟨s, .gone, w⟩
  | others {s d w} (guardian) :
      Step limits baseline ⟨s, d, w⟩ ⟨s, d, { w with guardian }⟩

/-- How a run begins: with its program, or with the failure to install the filter or to begin. -/
inductive Starts (limits : Limits) (program : Program α) (guardian : Guardian) :
    Course α → Prop where
  | spawned :
      Starts limits program guardian
        ⟨.looking, .working program, ⟨⟨false, ⟨0⟩, guardian⟩, []⟩⟩
  | unfiltered {failure} (required : limits.filter = .required) (plain : failure.refusal? = none) :
      Starts limits program guardian
        ⟨.looking, .sent (.error failure), ⟨⟨false, ⟨0⟩, guardian⟩, []⟩⟩
  | unspawned (cause : String) :
      Starts limits program guardian
        ⟨.returned (.faulted (.unspawned cause)), .gone, ⟨⟨false, ⟨0⟩, guardian⟩, []⟩⟩

/-- The acts of a run in any order. -/
abbrev Reaches (limits : Limits) (baseline : Option Nat) : Course α → Course α → Prop :=
  Relation.ReflTransGen (Step limits baseline)

end Course

end SourceGate
