import SourceGate.Proofs.Run.Alike

/-! # Runs that are short of something

What a worker sends after the deadline is not waited for: its run comes to the deadline, unless the
memory is found over the ceiling before. A worker whose filter fails has nothing to send but that.
-/

namespace SourceGate

variable {α : Type}

/-- Nothing is told of a failure in which no refusal stands. -/
theorem Failure.surface_of_plain {f : Failure} (h : f.refusal? = none) :
    f.surface = .internalFault := by
  have silent : f.causes.filterMap (·.refusal?) = [] :=
    List.filterMap_eq_nil_iff.2 (List.findSome?_eq_none_iff.1 h)
  rw [surface, silent]
  rfl

/-- A worker that has not ended by a deadline, if it ends at all. -/
def Ending.Overdue (ending : Option (Ending α)) (deadline : Duration) : Prop :=
  ∀ e ∈ ending, deadline.nanos < e.elapsed.nanos

theorem Program.ending?_overdue (p : Program α) {delay deadline : Duration}
    (slow : deadline.nanos < delay.nanos) (guardian : Guardian) :
    Ending.Overdue (p.ending? delay guardian) deadline := by
  intro e sent
  obtain ⟨result, -, rfl⟩ := Option.map_eq_some_iff.1 sent
  exact Nat.lt_add_left _ slow

namespace Limits

variable {limits : Limits} {ending : Option (Ending α)}

/-- No round hears from a worker that is overdue. -/
theorem arrival_of_overdue (overdue : Ending.Overdue ending limits.deadline) {elapsed : Duration}
    (inTime : elapsed.nanos < limits.deadline.nanos) (probe : Probe) :
    limits.arrival ending elapsed probe = (.silence probe.next.1, probe.next.2) := by
  have unsent : ending.filter (fun e =>
      decide (e.elapsed.nanos ≤ elapsed.nanos + (limits.wait elapsed).nanos)) = none := by
    refine Option.filter_eq_none_iff.2 fun e sent => ?_
    have later := overdue e sent
    have wait_le : (limits.wait elapsed).nanos ≤ limits.deadline.nanos - elapsed.nanos :=
      Nat.min_le_right _ _
    simp only [decide_eq_true_eq]
    omega
  rw [arrival, unsent]

/-- Where the memory is not measured at the start, only the deadline ends the wait. -/
theorem watch_of_unmeasured (overdue : Ending.Overdue ending limits.deadline) (elapsed : Duration)
    (probe : Probe) :
    (limits.watch none ending elapsed probe).1 = .deadlineExceeded limits.deadline := by
  rcases watch_decided limits none ending elapsed probe with late | ⟨time, samples, decided⟩
  · exact late
  · rcases decide?_eq_some_iff.1 decided with ⟨-, late⟩ | ⟨inTime, found⟩
    · exact late
    · rw [arrival_of_overdue overdue inTime] at found
      obtain ⟨result, ⟨⟩, -⟩ | ⟨⟨⟩, -⟩ | ⟨sample, -, ⟨⟩⟩ := found

/-- The memory is found over the ceiling in the first round. -/
theorem watch_of_broken (overdue : Ending.Overdue ending limits.deadline)
    (positive : 0 < limits.deadline.nanos) {base observed : Nat}
    (broken : limits.memoryCeiling < observed) :
    (limits.watch (some base) ending ⟨0⟩ [some (base + observed)]).1 =
      .memoryExceeded limits.memoryCeiling observed := by
  have decided : limits.decide? (some base)
      ⟨⟨0⟩, (limits.arrival ending ⟨0⟩ [some (base + observed)]).1⟩ =
        some (.memoryExceeded limits.memoryCeiling observed) := by
    rw [arrival_of_overdue overdue positive]
    exact decide?_eq_some_iff.2 (.inr ⟨positive, .inr (.inr ⟨_, rfl,
      breach?_eq_some_iff.2 ⟨base, observed, rfl, rfl, broken, rfl⟩⟩)⟩)
  rw [watch_eq, if_neg (Nat.not_le.2 positive), decided]

/-- A worker that ends at once is heard in the first round. -/
theorem watch_of_prompt (baseline : Option Nat) (result : Except Failure α)
    (positive : 0 < limits.deadline.nanos) (probe : Probe) :
    (limits.watch baseline (some ⟨⟨0⟩, result⟩) ⟨0⟩ probe).1 = .ofResult result := by
  have heard : limits.arrival (some ⟨⟨0⟩, result⟩) ⟨0⟩ probe = (.result result, probe) := by
    simp [arrival, Option.filter]
  have decided : limits.decide? baseline
      ⟨⟨0⟩, (limits.arrival (some ⟨⟨0⟩, result⟩) ⟨0⟩ probe).1⟩ = some (.ofResult result) := by
    rw [heard]
    exact decide?_eq_some_iff.2 (.inr ⟨positive, .inl ⟨result, rfl, rfl⟩⟩)
  rw [watch_eq, if_neg (Nat.not_le.2 positive), decided]

variable {c : Conditions}

/-- There is a value only where there was a thread for the worker. -/
theorem spawnFault_eq_none {probe : Probe} {p : Program α} {guardian : Guardian} {value : α}
    (h : (limits.run c probe p guardian).1.answer = .ok value) : c.spawnFault = none := by
  cases fault : c.spawnFault with
  | none => rfl
  | some cause =>
    rw [run_of_unspawned fault] at h
    cases h

/-- Where nothing fails, a program that takes no time has its result told. -/
theorem run_of_calm (positive : 0 < limits.deadline.nanos) {p : Program α} {guardian : Guardian}
    {result : Except Failure α} (ending : p.ending? ⟨0⟩ guardian = some ⟨⟨0⟩, result⟩)
    (probe : Probe) : (limits.run .calm probe p guardian).1 = .ofResult result := by
  have unfiltered : limits.behindFilter .calm p = p := by
    cases filter : limits.filter <;> simp [behindFilter, filter, Conditions.calm]
  rw [run_of_spawned rfl, unfiltered]
  exact ending ▸ watch_of_prompt _ _ positive _

theorem run_of_unfiltered (failure : PlainFailure) (spawned : c.spawnFault = none)
    (required : limits.filter = .required) (fault : c.filterFault = some failure)
    (prompt : c.delay = ⟨0⟩) (positive : 0 < limits.deadline.nanos) (probe : Probe)
    (p : Program α) (guardian : Guardian) :
    (limits.run c probe p guardian).1 = .faulted failure := by
  have filtered : limits.behindFilter c p = .fail failure := by
    simp only [behindFilter, required, fault]
  have ending : (limits.behindFilter c p).ending? c.delay guardian =
      some ⟨⟨0⟩, .error failure.1⟩ := by
    rw [filtered, prompt]
    rfl
  rw [run_of_spawned spawned, ending]
  exact watch_of_prompt _ _ positive _

variable (spawned : c.spawnFault = none) (slow : limits.deadline.nanos < c.delay.nanos)
  (p : Program α) (guardian : Guardian)

include spawned slow

theorem run_of_unmeasured :
    (limits.run c [] p guardian).1 = .deadlineExceeded limits.deadline := by
  rw [run_of_spawned spawned]
  exact watch_of_unmeasured (Program.ending?_overdue _ slow guardian) _ _

theorem run_of_broken (positive : 0 < limits.deadline.nanos) {base observed : Nat}
    (broken : limits.memoryCeiling < observed) :
    (limits.run c [some base, some (base + observed)] p guardian).1 =
      .memoryExceeded limits.memoryCeiling observed := by
  rw [run_of_spawned spawned]
  exact watch_of_broken (Program.ending?_overdue _ slow guardian) positive broken

end Limits

end SourceGate
