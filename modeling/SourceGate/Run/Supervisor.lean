import SourceGate.Run.Supervision

/-! # The supervisor act by act

A supervisor measures the memory once and then goes round: it reads the clock, waits on the channel
of its worker, and measures the memory again if nothing came. A breach is its outcome before the
cancel token is tripped; then the worker is waited for once more. What the clock, the channel and
the probe say is free. All this is for a worker that has a thread: where there is none, nothing is
supervised, and a course begins with the supervisor `returned`.
-/

namespace SourceGate

/-- What a wait on the channel of a worker ends with. -/
inductive Arrival (α : Type) where
  | nothing
  | result (result : Except Failure α)
  /-- The worker is gone and has sent nothing. -/
  | disconnected

/-- What a supervisor does, with what it is told. -/
inductive Act (α : Type) where
  | measure (sample : Option Nat)
  | readClock (elapsed : Duration)
  | receive (span : Duration) (arrival : Arrival α)
  /-- Trip the cancel token of the run. -/
  | trip

/-- How far the supervision of a run has come. -/
inductive Supervisor (α : Type) where
  /-- Before a round; the first one comes once the worker has its thread. -/
  | looking
  /-- Before the wait of a round that began at `elapsed`. -/
  | waiting (elapsed : Duration)
  /-- Nothing came in the wait. -/
  | measuring
  /-- The outcome is a breach, and the token is not tripped yet. -/
  | breached (outcome : Outcome α)
  /-- The token is tripped, and the worker has its grace. -/
  | parting (outcome : Outcome α)
  /-- After the last act, or from the start, if there is no thread for the worker. -/
  | returned (outcome : Outcome α)

/-- The outcome that a result of the worker is. -/
def Outcome.ofResult {α : Type} : Except Failure α → Outcome α
  | .ok value => .completed value
  | .error failure => .faulted failure

namespace Supervisor

variable {α : Type}

/-- One act of a supervisor whose first sample was `baseline`. -/
inductive Step (limits : Limits) (baseline : Option Nat) :
    Supervisor α → Act α → Supervisor α → Prop where
  | late {elapsed} (reached : limits.deadline.nanos ≤ elapsed.nanos) :
      Step limits baseline looking (.readClock elapsed)
        (breached (.deadlineExceeded limits.deadline))
  | early {elapsed} (inTime : elapsed.nanos < limits.deadline.nanos) :
      Step limits baseline looking (.readClock elapsed) (waiting elapsed)
  | result {elapsed} (result) :
      Step limits baseline (waiting elapsed) (.receive (limits.wait elapsed) (.result result))
        (returned (.ofResult result))
  | disconnected {elapsed} :
      Step limits baseline (waiting elapsed) (.receive (limits.wait elapsed) .disconnected)
        (returned (.faulted (.ofText "limiter: worker exited without a result")))
  | nothing {elapsed} :
      Step limits baseline (waiting elapsed) (.receive (limits.wait elapsed) .nothing) measuring
  | within {sample} (kept : limits.breach? (α := α) baseline sample = none) :
      Step limits baseline measuring (.measure sample) looking
  | beyond {sample outcome} (broken : limits.breach? baseline sample = some outcome) :
      Step limits baseline measuring (.measure sample) (breached outcome)
  | trip {outcome} : Step limits baseline (breached outcome) .trip (parting outcome)
  /-- Whatever comes within the grace is dropped. -/
  | part {outcome} (arrival) :
      Step limits baseline (parting outcome) (.receive limits.grace arrival) (returned outcome)

/-- The acts between two states of a supervisor. -/
inductive Follows (limits : Limits) (baseline : Option Nat) :
    Supervisor α → List (Act α) → Supervisor α → Prop where
  | nil {s} : Follows limits baseline s [] s
  | cons {s t u act log} (step : Step limits baseline s act t)
      (rest : Follows limits baseline t log u) : Follows limits baseline s (act :: log) u

/-- What a supervisor has done when it comes to a state, its first sample included. -/
inductive Reaches (limits : Limits) : List (Act α) → Supervisor α → Prop where
  | intro {baseline log s} (follows : Follows limits baseline looking log s) :
      Reaches limits (.measure baseline :: log) s

end Supervisor

end SourceGate
