import SourceGate.Clock
import SourceGate.Run.Limits
import SourceGate.Run.Program

/-! # Supervised runs

A supervisor waits for the result of a worker in rounds: it reads the clock, waits, and looks at the
memory if nothing came. The first round that decides fixes the outcome; only then is the worker
given up, so nothing that comes later changes it.
-/

namespace SourceGate

inductive Outcome (α : Type) where
  | completed (value : α)
  | deadlineExceeded (deadline : Duration)
  | memoryExceeded (ceiling observed : Nat)
  | faulted (failure : Failure)
  deriving Repr

def Outcome.isCompleted {α : Type} : Outcome α → Bool
  | completed _ => true
  | _ => false

/-- Whether the supervisor gives the worker up. -/
def Outcome.isBreach {α : Type} : Outcome α → Bool
  | deadlineExceeded _ | memoryExceeded _ _ => true
  | _ => false

/-- What a wait for the worker ends with. -/
inductive Event (α : Type) where
  /-- Nothing came; the memory is at `sample` now, if it can be measured. -/
  | silence (sample : Option Nat)
  | result (result : Except Failure α)
  /-- The worker is gone and has sent nothing. -/
  | disconnected

/-- One round: the clock at its start, and how the wait in it ends. -/
structure Round (α : Type) where
  elapsed : Duration
  event : Event α

namespace Limits

variable {α : Type}

/-- The wait in a round that starts before the deadline. -/
def wait (limits : Limits) (elapsed : Duration) : Duration :=
  ⟨min limits.pollInterval.nanos (limits.deadline.nanos - elapsed.nanos)⟩

/-- A growth of the memory over the ceiling. -/
def breach? (limits : Limits) (baseline sample : Option Nat) : Option (Outcome α) :=
  match baseline, sample with
  | some baseline, some current =>
    let observed := current - baseline
    if observed > limits.memoryCeiling then some (.memoryExceeded limits.memoryCeiling observed)
    else none
  | _, _ => none

/-- What a round decides. -/
def decide? (limits : Limits) (baseline : Option Nat) (round : Round α) : Option (Outcome α) :=
  if round.elapsed.nanos ≥ limits.deadline.nanos then some (.deadlineExceeded limits.deadline)
  else
    match round.event with
    | .result (.ok value) => some (.completed value)
    | .result (.error failure) => some (.faulted failure)
    | .disconnected => some (.faulted (.ofText "limiter: worker exited without a result"))
    | .silence sample => limits.breach? baseline sample

/-- The outcome that a list of rounds comes to, if it comes to one. -/
def supervise (limits : Limits) (baseline : Option Nat) (rounds : List (Round α)) :
    Option (Outcome α) :=
  rounds.findSome? (limits.decide? baseline)

end Limits

/-- Successive samples of the resident memory, `none` where there is no measurement. The last one
repeats. -/
abbrev Probe := List (Option Nat)

/-- The next sample, and the samples after it. -/
def Probe.next : Probe → Option Nat × Probe
  | [] => (none, [])
  | [sample] => (sample, [sample])
  | sample :: rest => (sample, rest)

/-- What a run depends on beside its program, its limits and the memory. -/
structure Conditions where
  /-- The clock when the session of the run is opened. -/
  now : Instant
  /-- Why there is no thread for the worker, in the words of the system. -/
  spawnFault : Option String
  /-- Why the worker could not install the filter of system calls. -/
  filterFault : Option PlainFailure
  /-- The time that the worker takes, but for what it sleeps. -/
  delay : Duration
  deriving DecidableEq, Inhabited

/-- Nothing fails, and the worker takes no time. -/
def Conditions.calm : Conditions := ⟨.start, none, none, ⟨0⟩⟩

/-- When and with what a worker ends that nobody disturbs. -/
structure Ending (α : Type) where
  elapsed : Duration
  result : Except Failure α

namespace Limits

variable {α : Type}

/-- The least time that passes in a round. -/
def tick : Duration := .ofMillis 1

/-- The rounds from `elapsed` on, for a worker with a known ending. -/
def watch (limits : Limits) (baseline : Option Nat) (ending : Option (Ending α))
    (elapsed : Duration) (probe : Probe) : Outcome α × Probe :=
  if elapsed.nanos ≥ limits.deadline.nanos then (.deadlineExceeded limits.deadline, probe)
  else
    let wait := (limits.wait elapsed).nanos
    let (event, probe) : Event α × Probe :=
      match ending.filter fun e => decide (e.elapsed.nanos ≤ elapsed.nanos + wait) with
      | some ending => (.result ending.result, probe)
      | none => let (sample, rest) := probe.next; (.silence sample, rest)
    match limits.decide? baseline ⟨elapsed, event⟩ with
    | some outcome => (outcome, probe)
    | none => watch limits baseline ending ⟨elapsed.nanos + max wait tick.nanos⟩ probe
termination_by limits.deadline.nanos - elapsed.nanos
decreasing_by
  have : 0 < tick.nanos := by decide
  omega

/-- What the worker of a run does: it installs the filter where one is required, and runs the
program behind it. -/
def behindFilter (limits : Limits) (c : Conditions) (program : Program α) : Program α :=
  match limits.filter, c.filterFault with
  | .required, some fault => .fail fault
  | _, _ => program

/-- A program under limits: its outcome, and the guard slot and the probe after it. -/
def run (limits : Limits) (c : Conditions) (probe : Probe) (program : Program α)
    (guardian : Guardian) : Outcome α × Guardian × Probe :=
  let (baseline, probe) := probe.next
  match c.spawnFault with
  | some cause => (.faulted (.unspawned cause), guardian, probe)
  | none =>
    let (result, world) := (limits.behindFilter c program).run ⟨false, ⟨0⟩, guardian⟩
    let ending := result.map fun result =>
      (⟨⟨world.elapsed.nanos + c.delay.nanos⟩, result⟩ : Ending α)
    let (outcome, probe) := limits.watch baseline ending ⟨0⟩ probe
    (outcome, world.guardian, probe)

end Limits

end SourceGate
