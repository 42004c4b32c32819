import SourceGate.Duration

/-! # Limits of a run -/

namespace SourceGate

/-- Whether a worker installs a filter of system calls before it runs. -/
inductive SyscallFilter where
  | off | required
  deriving DecidableEq, Repr, Inhabited

structure Limits where
  deadline : Duration
  /-- How much the resident memory may grow, in bytes. -/
  memoryCeiling : Nat
  /-- The longest wait between two looks at the memory. -/
  pollInterval : Duration
  /-- How long a worker that was given up is waited for. -/
  grace : Duration
  filter : SyscallFilter
  deriving DecidableEq, Repr, Inhabited

namespace Limits

/-- The poll interval where none is given. -/
def standardPoll : Duration := .ofMillis 10

/-- The grace period where none is given. -/
def standardGrace : Duration := .ofMillis 250

def ofDeadline (deadline : Duration) (memoryCeiling : Nat) : Limits :=
  ⟨deadline, memoryCeiling, standardPoll, standardGrace, .off⟩

end Limits

end SourceGate
