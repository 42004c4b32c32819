import Mathlib.Data.List.Forall2
import SourceGate.Gate.Basic
import SourceGate.Proofs.Run.Supervisor

/-! # Runs that differ in what their failures say

Of a failure only its signals are told: the refusals in its chain that may surface. Two programs are
alike if they do the same and, where they fail or panic, the chains have the same signals, whatever
else is said in them. Alike programs leave the same behind and end alike, and so do their runs under
any limits, whenever the results come.
-/

namespace SourceGate

namespace Failure

/-- The refusals of a failure that may be told outside, from the outside in. -/
def signals (f : Failure) : List Refusal :=
  (f.causes.filterMap (·.refusal?)).filter (·.surfaces)

theorem surface_eq_head (f : Failure) : f.surface = f.signals.head?.getD .internalFault := by
  rw [surface, signals, List.head?_filter]

end Failure

/-- Two ends of a program with the same value, or with failures of the same signals. -/
inductive ResultsAlike {α : Type} : Except Failure α → Except Failure α → Prop where
  | ok (value) : ResultsAlike (.ok value) (.ok value)
  | error {f g} (h : f.signals = g.signals) : ResultsAlike (.error f) (.error g)

namespace Program

variable {α β : Type}

/-- The failure that a program ends in at once. -/
def failure? : Program α → Option Failure
  | fail failure => some failure
  | panic payload => some (.ofPanic payload)
  | _ => none

/-- Two programs that do the same and fail at the same points, with the same signals. -/
inductive Alike : Program α → Program α → Prop where
  | done (value) : Alike (.done value) (.done value)
  | failing {p q f g} (hp : p.failure? = some f) (hq : q.failure? = some g)
      (h : f.signals = g.signals) : Alike p q
  | readToken {next next'} (h : ∀ tripped, Alike (next tripped) (next' tripped)) :
      Alike (.readToken next) (.readToken next')
  | tripToken {next next'} (h : Alike next next') : Alike (.tripToken next) (.tripToken next')
  | awaitToken {next next'} (h : Alike next next') : Alike (.awaitToken next) (.awaitToken next')
  | sleep {span next next'} (h : Alike next next') : Alike (.sleep span next) (.sleep span next')
  | resolve {generation path next next'} (h : ∀ answer, Alike (next answer) (next' answer)) :
      Alike (.resolve generation path next) (.resolve generation path next')
  | readSlot {next next'} (h : ∀ isInstalled, Alike (next isInstalled) (next' isInstalled)) :
      Alike (.readSlot next) (.readSlot next')
  | install {policy next next'} (h : ∀ answer, Alike (next answer) (next' answer)) :
      Alike (.install policy next) (.install policy next')
  | release {generation next next'} (h : Alike next next') :
      Alike (.release generation next) (.release generation next')
  | askGate {next next'} (h : ∀ answer, Alike (next answer) (next' answer)) :
      Alike (.askGate next) (.askGate next')

theorem Alike.refl (p : Program α) : Alike p p := by
  induction p with
  | done value => exact .done value
  | fail | panic => exact .failing rfl rfl rfl
  | readToken next ih => exact .readToken ih
  | tripToken next ih => exact .tripToken ih
  | awaitToken next ih => exact .awaitToken ih
  | sleep span next ih => exact .sleep ih
  | resolve generation path next ih => exact .resolve ih
  | readSlot next ih => exact .readSlot ih
  | install policy next ih => exact .install ih
  | release generation next ih => exact .release ih
  | askGate next ih => exact .askGate ih

theorem failure?_bind {p : Program α} {f : Failure} (k : α → Program β)
    (h : p.failure? = some f) : (p.bind k).failure? = some f := by
  cases p with
  | fail | panic => exact h
  | _ => cases h

theorem Alike.bind {p q : Program α} {k k' : α → Program β} (h : Alike p q)
    (hk : ∀ value, Alike (k value) (k' value)) : Alike (p.bind k) (q.bind k') := by
  induction h with
  | done value => exact hk value
  | failing hp hq h => exact .failing (failure?_bind k hp) (failure?_bind k' hq) h
  | readToken _ ih => exact .readToken ih
  | tripToken _ ih => exact .tripToken ih
  | awaitToken _ ih => exact .awaitToken ih
  | sleep _ ih => exact .sleep ih
  | resolve _ ih => exact .resolve ih
  | readSlot _ ih => exact .readSlot ih
  | install _ ih => exact .install ih
  | release _ ih => exact .release ih
  | askGate _ ih => exact .askGate ih

theorem runFrom_of_failure? {p : Program α} {f : Failure} (h : p.failure? = some f) (w : Worker) :
    p.runFrom w = (some (.error f), w) := by
  cases p with
  | fail | panic =>
    cases h
    rfl
  | _ => cases h

/-- Alike programs end alike, and leave the same worker behind. -/
theorem Alike.runFrom {p q : Program α} (h : Alike p q) (w : Worker) :
    Option.Rel ResultsAlike (p.runFrom w).1 (q.runFrom w).1 ∧
      (p.runFrom w).2 = (q.runFrom w).2 := by
  induction h generalizing w with
  | done value => exact ⟨.some (.ok value), rfl⟩
  | failing hp hq h =>
    rw [runFrom_of_failure? hp, runFrom_of_failure? hq]
    exact ⟨.some (.error h), rfl⟩
  | awaitToken _ ih =>
    simp only [Program.runFrom]
    split
    · exact ih w
    · exact ⟨.none, rfl⟩
  | release _ ih =>
    simp only [Program.runFrom]
    split
    · exact ih _
    · exact ih w
  | readToken _ ih | readSlot _ ih | askGate _ ih | resolve _ ih | install _ ih => exact ih _ _
  | tripToken _ ih | sleep _ ih => exact ih _

end Program

/-! ## Under supervision -/

variable {α : Type}

/-- Two outcomes that differ in what a failure says. -/
inductive Outcome.Alike : Outcome α → Outcome α → Prop where
  | completed (value) : Alike (.completed value) (.completed value)
  | deadlineExceeded (deadline) : Alike (.deadlineExceeded deadline) (.deadlineExceeded deadline)
  | memoryExceeded (ceiling observed) :
      Alike (.memoryExceeded ceiling observed) (.memoryExceeded ceiling observed)
  | faulted {f g} (h : f.signals = g.signals) : Alike (.faulted f) (.faulted g)

namespace Outcome.Alike

variable {o o' : Outcome α}

theorem refl (o : Outcome α) : o.Alike o := by
  cases o with
  | completed value => exact .completed value
  | deadlineExceeded deadline => exact .deadlineExceeded deadline
  | memoryExceeded ceiling observed => exact .memoryExceeded ceiling observed
  | faulted failure => exact .faulted rfl

theorem rel_refl (o : Option (Outcome α)) : Option.Rel Outcome.Alike o o := by
  cases o with
  | none => exact .none
  | some o => exact .some (refl o)

theorem answer_eq (h : o.Alike o') : o.answer = o'.answer := by
  cases h with
  | faulted h => simp only [answer, Failure.surface_eq_head, h]
  | _ => rfl

theorem isCompleted_eq (h : o.Alike o') : o.isCompleted = o'.isCompleted := by
  cases h <;> rfl

end Outcome.Alike

/-- Two waits that end alike. -/
inductive Event.Alike : Event α → Event α → Prop where
  | silence (sample) : Alike (.silence sample) (.silence sample)
  | result {r r'} (h : ResultsAlike r r') : Alike (.result r) (.result r')
  | disconnected : Alike .disconnected .disconnected

/-- Two rounds that start at the same time and end alike. -/
structure Round.Alike (round round' : Round α) : Prop where
  elapsed : round.elapsed = round'.elapsed
  event : round.event.Alike round'.event

/-- Two programs that end at the same time and alike. -/
structure Ending.Alike (ending ending' : Ending α) : Prop where
  elapsed : ending.elapsed = ending'.elapsed
  result : ResultsAlike ending.result ending'.result

namespace Limits

variable (limits : Limits) (baseline : Option Nat)

theorem decide?_alike {round round' : Round α} (h : round.Alike round') :
    Option.Rel Outcome.Alike (limits.decide? baseline round) (limits.decide? baseline round') := by
  obtain ⟨elapsed, event⟩ := round
  obtain ⟨elapsed', event'⟩ := round'
  obtain ⟨rfl, h⟩ := h
  unfold decide?
  split
  · exact .some (.deadlineExceeded _)
  · cases h with
    | silence sample => exact Outcome.Alike.rel_refl _
    | result h =>
      cases h with
      | ok value => exact .some (.completed value)
      | error h => exact .some (.faulted h)
    | disconnected => exact Outcome.Alike.rel_refl _

/-- Whatever the clock and the probe say and whenever the results come. -/
theorem supervise_alike {rounds rounds' : List (Round α)}
    (h : List.Forall₂ Round.Alike rounds rounds') :
    Option.Rel Outcome.Alike (limits.supervise baseline rounds)
      (limits.supervise baseline rounds') := by
  induction h with
  | nil => exact .none
  | @cons round round' rest rest' first _ ih =>
    have decided := decide?_alike limits baseline first
    rw [supervise, supervise, List.findSome?_cons, List.findSome?_cons]
    cases h : limits.decide? baseline round <;> cases h' : limits.decide? baseline round' <;>
      rw [h, h'] at decided <;> cases decided
    · exact ih
    · next same => exact .some same

/-- How the wait of a round ends for a worker with a known ending, and the probe then. -/
def arrival (limits : Limits) (ending : Option (Ending α)) (elapsed : Duration) (probe : Probe) :
    Event α × Probe :=
  match ending.filter fun e =>
      decide (e.elapsed.nanos ≤ elapsed.nanos + (limits.wait elapsed).nanos) with
  | some ending => (.result ending.result, probe)
  | none => (.silence probe.next.1, probe.next.2)

theorem watch_eq (ending : Option (Ending α)) (elapsed : Duration) (probe : Probe) :
    limits.watch baseline ending elapsed probe =
      if elapsed.nanos ≥ limits.deadline.nanos then (.deadlineExceeded limits.deadline, probe)
      else
        match limits.decide? baseline ⟨elapsed, (limits.arrival ending elapsed probe).1⟩ with
        | some outcome => (outcome, (limits.arrival ending elapsed probe).2)
        | none =>
          limits.watch baseline ending
            ⟨elapsed.nanos + max (limits.wait elapsed).nanos tick.nanos⟩
            (limits.arrival ending elapsed probe).2 := by
  rw [watch]
  rfl

theorem arrival_alike {ending ending' : Option (Ending α)}
    (h : Option.Rel Ending.Alike ending ending') (elapsed : Duration) (probe : Probe) :
    (limits.arrival ending elapsed probe).1.Alike (limits.arrival ending' elapsed probe).1 ∧
      (limits.arrival ending elapsed probe).2 = (limits.arrival ending' elapsed probe).2 := by
  cases h with
  | none => exact ⟨.silence _, rfl⟩
  | @some ending ending' h =>
    rw [arrival, arrival, Option.filter_some, Option.filter_some, h.elapsed]
    by_cases sent : ending'.elapsed.nanos ≤ elapsed.nanos + (limits.wait elapsed).nanos
    · simpa [sent] using Event.Alike.result h.result
    · simpa [sent] using Event.Alike.silence _

/-- The rounds go on alike until one of them decides. -/
theorem watch_alike {ending ending' : Option (Ending α)}
    (h : Option.Rel Ending.Alike ending ending') (elapsed : Duration) (probe : Probe) :
    (limits.watch baseline ending elapsed probe).1.Alike
        (limits.watch baseline ending' elapsed probe).1 ∧
      (limits.watch baseline ending elapsed probe).2 =
        (limits.watch baseline ending' elapsed probe).2 := by
  -- On the time that is left: a round that decides nothing brings the deadline nearer.
  induction remaining : limits.deadline.nanos - elapsed.nanos using Nat.strongRecOn
    generalizing elapsed probe with
  | ind span ih =>
    obtain ⟨event, samples⟩ := arrival_alike limits h elapsed probe
    have decided : Option.Rel Outcome.Alike
        (limits.decide? baseline ⟨elapsed, (limits.arrival ending elapsed probe).1⟩)
        (limits.decide? baseline ⟨elapsed, (limits.arrival ending' elapsed probe).1⟩) :=
      decide?_alike limits baseline ⟨rfl, event⟩
    rw [watch_eq limits baseline ending, watch_eq limits baseline ending', ← samples]
    split
    · exact ⟨.refl _, rfl⟩
    · next early =>
      cases first : limits.decide? baseline ⟨elapsed, (limits.arrival ending elapsed probe).1⟩ <;>
        cases second :
          limits.decide? baseline ⟨elapsed, (limits.arrival ending' elapsed probe).1⟩ <;>
        rw [first, second] at decided <;> cases decided
      · have forward : 0 < tick.nanos := by decide
        have shorter : limits.deadline.nanos -
            (elapsed.nanos + max (limits.wait elapsed).nanos tick.nanos) < span := by omega
        exact ih _ shorter _ _ rfl
      · next same => exact ⟨same, rfl⟩

/-- The outcome is that the deadline has passed, or what some round decides. -/
theorem watch_decided (ending : Option (Ending α)) (elapsed : Duration) (probe : Probe) :
    (limits.watch baseline ending elapsed probe).1 = .deadlineExceeded limits.deadline ∨
      ∃ elapsed' probe', limits.decide? baseline
        ⟨elapsed', (limits.arrival ending elapsed' probe').1⟩ =
          some (limits.watch baseline ending elapsed probe).1 := by
  induction remaining : limits.deadline.nanos - elapsed.nanos using Nat.strongRecOn
    generalizing elapsed probe with
  | ind span ih =>
    rw [watch_eq]
    split
    · exact .inl rfl
    · next early =>
      split
      · next decided => exact .inr ⟨elapsed, probe, decided⟩
      · have forward : 0 < tick.nanos := by decide
        have shorter : limits.deadline.nanos -
            (elapsed.nanos + max (limits.wait elapsed).nanos tick.nanos) < span := by omega
        exact ih _ shorter _ _ rfl

/-- A round decides on a fault if the worker sends its failure, or goes without a result. -/
theorem event_of_decide?_faulted {round : Round α} {f : Failure}
    (h : limits.decide? baseline round = some (.faulted f)) :
    round.event = .result (.error f) ∨ round.event = .disconnected := by
  rcases decide?_eq_some_iff.1 h with ⟨-, ⟨⟩⟩ | ⟨-, ⟨result, event, same⟩ | ⟨event, -⟩ | broken⟩
  · cases result with
    | ok value => cases same
    | error failure =>
      cases same
      exact .inl event
  · exact .inr event
  · obtain ⟨sample, -, broken⟩ := broken
    obtain ⟨_, _, -, -, -, ⟨⟩⟩ := breach?_eq_some_iff.1 broken

theorem arrival_eq (ending : Option (Ending α)) (elapsed : Duration) (probe : Probe) :
    (∃ e, ending = some e ∧ (limits.arrival ending elapsed probe).1 = .result e.result) ∨
      ∃ sample, (limits.arrival ending elapsed probe).1 = .silence sample := by
  unfold arrival
  split
  · next e sent => exact .inl ⟨e, (Option.filter_eq_some_iff.1 sent).1, rfl⟩
  · exact .inr ⟨_, rfl⟩

/-- A fault is the failure with which the worker ended. -/
theorem ending_of_watch_faulted {ending : Option (Ending α)} {elapsed : Duration} {probe : Probe}
    {f : Failure} (h : (limits.watch baseline ending elapsed probe).1 = .faulted f) :
    ∃ time, ending = some ⟨time, .error f⟩ := by
  rcases watch_decided limits baseline ending elapsed probe with late | ⟨time, samples, decided⟩
  · cases h.symm.trans late
  have event := event_of_decide?_faulted limits baseline (decided.trans (congrArg some h))
  rcases arrival_eq limits ending time samples with ⟨⟨time, r⟩, rfl, sent⟩ | ⟨sample, silent⟩
  · simp only [sent, Event.result.injEq, reduceCtorEq, or_false] at event
    exact ⟨time, by rw [event]⟩
  · simp [silent] at event

end Limits

/-! ## A run -/

/-- What keeps a run from its program: there is no thread for the worker, or no filter where one is
required. -/
inductive Conditions.Prevents (c : Conditions) (limits : Limits) : Failure → Prop where
  | unspawned {cause} (fault : c.spawnFault = some cause) : Prevents c limits (.unspawned cause)
  | unfiltered {failure : PlainFailure} (required : limits.filter = .required)
      (fault : c.filterFault = some failure) : Prevents c limits failure

namespace Program

/-- How a worker ends that nobody disturbs, for its supervisor. -/
def ending? (p : Program α) (delay : Duration) (guardian : Guardian) : Option (Ending α) :=
  let (result, world) := p.run ⟨false, ⟨0⟩, guardian⟩
  result.map fun result => ⟨⟨world.elapsed.nanos + delay.nanos⟩, result⟩

end Program

namespace Limits

variable {limits : Limits} {c : Conditions}

/-- The worker comes to the program, or to nothing but the failure of its filter. -/
theorem behindFilter_cases (limits : Limits) (c : Conditions) (p : Program α) :
    limits.behindFilter c p = p ∨
      ∃ failure : PlainFailure, limits.filter = .required ∧ c.filterFault = some failure ∧
        limits.behindFilter c p = .fail failure := by
  unfold behindFilter
  split
  · next failure required fault => exact .inr ⟨failure, required, fault, rfl⟩
  · exact .inl rfl

theorem run_of_unspawned {cause : String} (fault : c.spawnFault = some cause) (probe : Probe)
    (p : Program α) (guardian : Guardian) :
    limits.run c probe p guardian = (.faulted (.unspawned cause), guardian, probe.next.2) := by
  simp only [run, fault]

theorem run_of_spawned (spawned : c.spawnFault = none) (probe : Probe) (p : Program α)
    (guardian : Guardian) :
    limits.run c probe p guardian =
      ((limits.watch probe.next.1 ((limits.behindFilter c p).ending? c.delay guardian) ⟨0⟩
          probe.next.2).1,
        ((limits.behindFilter c p).run ⟨false, ⟨0⟩, guardian⟩).2.guardian,
        (limits.watch probe.next.1 ((limits.behindFilter c p).ending? c.delay guardian) ⟨0⟩
          probe.next.2).2) := by
  simp only [run, spawned]
  rfl

end Limits

namespace Program

variable {p q : Program α}

theorem Alike.ending? (h : Alike p q) (delay : Duration) (guardian : Guardian) :
    Option.Rel Ending.Alike (p.ending? delay guardian) (q.ending? delay guardian) := by
  obtain ⟨result, worker⟩ := h.runFrom ⟨⟨false, ⟨0⟩, guardian⟩, []⟩
  simp only [Program.ending?, Program.run, worker]
  generalize (p.runFrom ⟨⟨false, ⟨0⟩, guardian⟩, []⟩).1 = r at result
  generalize (q.runFrom ⟨⟨false, ⟨0⟩, guardian⟩, []⟩).1 = r' at result
  cases result with
  | none => exact .none
  | some same => exact .some ⟨rfl, same⟩

theorem Alike.behindFilter (h : Alike p q) (limits : Limits) (c : Conditions) :
    Alike (limits.behindFilter c p) (limits.behindFilter c q) := by
  unfold Limits.behindFilter
  split
  · exact .refl _
  · exact h

/-- Runs of alike programs differ in nothing but what a failure says. -/
theorem Alike.run (h : Alike p q) (limits : Limits) (c : Conditions) (probe : Probe)
    (guardian : Guardian) :
    (limits.run c probe p guardian).1.Alike (limits.run c probe q guardian).1 ∧
      (limits.run c probe p guardian).2 = (limits.run c probe q guardian).2 := by
  cases spawned : c.spawnFault with
  | some cause =>
    rw [Limits.run_of_unspawned spawned, Limits.run_of_unspawned spawned]
    exact ⟨.refl _, rfl⟩
  | none =>
    have worker := h.behindFilter limits c
    obtain ⟨outcome, samples⟩ :=
      limits.watch_alike probe.next.1 (worker.ending? c.delay guardian) ⟨0⟩ probe.next.2
    have world : ((limits.behindFilter c p).run ⟨false, ⟨0⟩, guardian⟩).2 =
        ((limits.behindFilter c q).run ⟨false, ⟨0⟩, guardian⟩).2 :=
      congrArg Worker.toWorld (worker.runFrom ⟨⟨false, ⟨0⟩, guardian⟩, []⟩).2
    rw [Limits.run_of_spawned spawned, Limits.run_of_spawned spawned, world, samples]
    exact ⟨outcome, rfl⟩

/-- A run is at fault for what kept it from its program, or for the failure that the program ended
in. -/
theorem run_of_faulted {limits : Limits} {c : Conditions} {probe : Probe} {guardian : Guardian}
    {f : Failure} (h : (limits.run c probe p guardian).1 = .faulted f) :
    c.Prevents limits f ∨ (p.run ⟨false, ⟨0⟩, guardian⟩).1 = some (.error f) := by
  cases spawned : c.spawnFault with
  | some cause =>
    rw [Limits.run_of_unspawned spawned] at h
    cases h
    exact .inl (.unspawned spawned)
  | none =>
    rw [Limits.run_of_spawned spawned] at h
    obtain ⟨time, ended⟩ := limits.ending_of_watch_faulted probe.next.1 h
    obtain ⟨r, result, same⟩ := Option.map_eq_some_iff.1 ended
    cases same
    rcases limits.behindFilter_cases c p with program | ⟨failure, required, fault, filtered⟩
    · rw [program] at result
      exact .inr result
    · rw [filtered] at result
      cases result
      exact .inl (.unfiltered required fault)

end Program

end SourceGate
