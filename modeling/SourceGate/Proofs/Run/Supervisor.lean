import Mathlib.Data.List.Infix
import SourceGate.Run.Supervisor

/-! # What a supervisor may return

The acts of a supervisor that returns are those of rounds that decide nothing, then of one that
decides, then of the parting if that is a breach. So the outcome is what the worker sent if it was
received in time and before any breach, and a breach has its reading of the clock or its sample.
-/

namespace SourceGate

variable {α : Type} {limits : Limits} {baseline : Option Nat} {outcome outcome' : Outcome α}
  {log log' : List (Act α)} {s t u : Supervisor α}

namespace Supervisor

theorem Step.unique {act : Act α} (ht : Step limits baseline s act t)
    (hu : Step limits baseline s act u) : t = u := by
  cases ht with
  | late reached =>
    cases hu with
    | late _ => rfl
    | early inTime => omega
  | early inTime =>
    cases hu with
    | late reached => omega
    | early _ => rfl
  | within kept =>
    cases hu with
    | within _ => rfl
    | beyond broken => cases kept.symm.trans broken
  | beyond broken =>
    cases hu with
    | within kept => cases broken.symm.trans kept
    | beyond broken' =>
      cases broken.symm.trans broken'
      rfl
  | _ =>
    cases hu
    rfl

theorem Follows.append (h : Follows limits baseline s log t)
    (h' : Follows limits baseline t log' u) : Follows limits baseline s (log ++ log') u := by
  induction h with
  | nil => exact h'
  | cons step _ ih => exact .cons step (ih h')

/-- Where acts lead to one state, further acts lead on from it. -/
theorem Follows.rest (whole : Follows limits baseline s (log ++ log') u)
    (front : Follows limits baseline s log t) : Follows limits baseline t log' u := by
  induction front with
  | nil => exact whole
  | cons step _ ih =>
    cases whole with
    | cons step' rest => exact ih (step.unique step' ▸ rest)

end Supervisor

/-! ## Rounds -/

/-- The acts of a round. -/
def Round.acts (limits : Limits) (q : Round α) : List (Act α) :=
  .readClock q.elapsed ::
    if limits.deadline.nanos ≤ q.elapsed.nanos then []
    else match q.event with
      | .silence sample => [.receive (limits.wait q.elapsed) .nothing, .measure sample]
      | .result result => [.receive (limits.wait q.elapsed) (.result result)]
      | .disconnected => [.receive (limits.wait q.elapsed) .disconnected]

@[simp]
theorem Outcome.isBreach_ofResult (result : Except Failure α) :
    (ofResult result).isBreach = false := by
  cases result <;> rfl

/-- What is done with an outcome: a breach is parted with. -/
def Outcome.parting (limits : Limits) (arrival : Arrival α) (outcome : Outcome α) : List (Act α) :=
  if outcome.isBreach then [.trip, .receive limits.grace arrival] else []

namespace Limits

theorem breach?_eq_some_iff {sample : Option Nat} :
    limits.breach? baseline sample = some outcome ↔
      ∃ base observed, baseline = some base ∧ sample = some (base + observed) ∧
        limits.memoryCeiling < observed ∧
        outcome = .memoryExceeded limits.memoryCeiling observed := by
  constructor
  · intro h
    cases baseline with
    | none => cases h
    | some base =>
      cases sample with
      | none => cases h
      | some current =>
        obtain ⟨exceeds, same⟩ := Option.ite_none_right_eq_some.1 h
        refine ⟨base, current - base, rfl, ?_, exceeds, (Option.some.inj same).symm⟩
        rw [Nat.add_sub_cancel' (by omega)]
  · rintro ⟨base, observed, rfl, rfl, exceeds, rfl⟩
    rw [breach?, Nat.add_sub_cancel_left]
    exact if_pos exceeds

/-- The rounds that decide. -/
theorem decide?_eq_some_iff {q : Round α} :
    limits.decide? baseline q = some outcome ↔
      limits.deadline.nanos ≤ q.elapsed.nanos ∧ outcome = .deadlineExceeded limits.deadline ∨
      q.elapsed.nanos < limits.deadline.nanos ∧
        ((∃ result, q.event = .result result ∧ outcome = .ofResult result) ∨
          (q.event = .disconnected ∧
            outcome = .faulted (.ofText "limiter: worker exited without a result")) ∨
          ∃ sample, q.event = .silence sample ∧ limits.breach? baseline sample = some outcome) := by
  obtain ⟨elapsed, event⟩ := q
  by_cases late : limits.deadline.nanos ≤ elapsed.nanos
  · simp [decide?, late, eq_comm, Nat.not_lt.2 late]
  · have inTime : elapsed.nanos < limits.deadline.nanos := Nat.lt_of_not_le late
    rcases event with sample | (failure | value) | _
    all_goals simp [decide?, Outcome.ofResult, late, inTime, eq_comm]

end Limits

namespace Supervisor

/-- A round that decides nothing leads to the next. -/
theorem follows_of_decide?_eq_none {q : Round α} (h : limits.decide? baseline q = none) :
    Follows limits baseline looking (q.acts limits) looking := by
  unfold Limits.decide? at h
  split at h
  · cases h
  · next inTime =>
    rw [Round.acts, if_neg inTime]
    split at h
    · cases h
    · cases h
    · cases h
    · next event =>
      rw [event]
      exact .cons (.early (Nat.lt_of_not_le inTime)) (.cons .nothing (.cons (.within h) .nil))

/-- A round that decides leads to its outcome, through the parting if that is a breach. -/
theorem follows_of_decide?_eq_some {q : Round α} (h : limits.decide? baseline q = some outcome)
    (arrival : Arrival α) :
    Follows limits baseline looking (q.acts limits ++ outcome.parting limits arrival)
      (returned outcome) := by
  have part {o : Outcome α} (broken : o.isBreach = true) :
      Follows limits baseline (breached o) (o.parting limits arrival) (returned o) := by
    rw [Outcome.parting, if_pos broken]
    exact .cons .trip (.cons (.part arrival) .nil)
  obtain ⟨elapsed, event⟩ := q
  rcases Limits.decide?_eq_some_iff.1 h with ⟨late, rfl⟩ | ⟨inTime, decided⟩
  · rw [Round.acts, if_pos late]
    exact .cons (.late late) (part rfl)
  · rw [Round.acts, if_neg (Nat.not_le.2 inTime)]
    rcases decided with ⟨result, rfl, rfl⟩ | ⟨rfl, rfl⟩ | ⟨sample, rfl, broken⟩
    · rw [Outcome.parting, Outcome.isBreach_ofResult]
      exact .cons (.early inTime) (.cons (.result result) .nil)
    · exact .cons (.early inTime) (.cons .disconnected .nil)
    · obtain ⟨_, _, -, -, -, rfl⟩ := Limits.breach?_eq_some_iff.1 broken
      exact .cons (.early inTime) (.cons .nothing (.cons (.beyond broken) (part rfl)))

/-- Acts are those of rounds of which only the last decides, and of the parting with its outcome. -/
def InRounds (limits : Limits) (baseline : Option Nat) (log : List (Act α)) (outcome : Outcome α) :
    Prop :=
  ∃ (rounds : List (Round α)) (last : Round α) (arrival : Arrival α),
    (∀ q ∈ rounds, limits.decide? baseline q = none) ∧
    limits.decide? baseline last = some outcome ∧
    log = rounds.flatMap (·.acts limits) ++ (last.acts limits ++ outcome.parting limits arrival)

theorem InRounds.last {q : Round α} (h : limits.decide? baseline q = some outcome)
    (arrival : Arrival α) :
    InRounds limits baseline (q.acts limits ++ outcome.parting limits arrival) outcome :=
  ⟨[], q, arrival, by simp, h, rfl⟩

theorem InRounds.cons {q : Round α} (h : limits.decide? baseline q = none)
    (rest : InRounds limits baseline log outcome) :
    InRounds limits baseline (q.acts limits ++ log) outcome := by
  obtain ⟨rounds, last, arrival, undecided, decided, rfl⟩ := rest
  exact ⟨q :: rounds, last, arrival, List.forall_mem_cons.2 ⟨h, undecided⟩, decided,
    by simp only [List.flatMap_cons, List.append_assoc]⟩

theorem follows_of_inRounds (h : InRounds limits baseline log outcome) :
    Follows limits baseline looking log (returned outcome) := by
  obtain ⟨rounds, last, arrival, undecided, decided, rfl⟩ := h
  induction rounds with
  | nil => exact follows_of_decide?_eq_some decided arrival
  | cons q rounds ih =>
    obtain ⟨first, later⟩ := List.forall_mem_cons.1 undecided
    rw [List.flatMap_cons, List.append_assoc]
    exact (follows_of_decide?_eq_none first).append (ih later)

/-- What is left of the rounds in each state. -/
def Completes (limits : Limits) (baseline : Option Nat) (outcome : Outcome α) :
    Supervisor α → List (Act α) → Prop
  | looking, log => InRounds limits baseline log outcome
  | waiting elapsed, log => elapsed.nanos < limits.deadline.nanos →
      InRounds limits baseline (.readClock elapsed :: log) outcome
  | measuring, log => ∀ elapsed : Duration, elapsed.nanos < limits.deadline.nanos →
      InRounds limits baseline
        (.readClock elapsed :: .receive (limits.wait elapsed) .nothing :: log) outcome
  | breached o, log => ∃ arrival, o = outcome ∧ log = [.trip, .receive limits.grace arrival]
  | parting o, log => ∃ arrival, o = outcome ∧ log = [.receive limits.grace arrival]
  | returned o, log => o = outcome ∧ log = []

/-- Each act leads the rounds on. The induction is on the acts from the state to the outcome. -/
theorem completes_of_follows (h : Follows limits baseline s log (returned outcome)) :
    Completes limits baseline outcome s log := by
  generalize ended : returned outcome = t at h
  induction h with
  | nil =>
    subst ended
    exact ⟨rfl, rfl⟩
  | cons step rest ih =>
    have ih := ih ended
    cases step with
    | @late elapsed reached =>
      obtain ⟨arrival, rfl, rfl⟩ := ih
      have decided : limits.decide? (α := α) baseline ⟨elapsed, .disconnected⟩ = some _ :=
        Limits.decide?_eq_some_iff.2 (.inl ⟨reached, rfl⟩)
      have round := InRounds.last decided arrival
      rw [Round.acts, if_pos reached] at round
      exact round
    | early inTime => exact ih inTime
    | @result elapsed result =>
      obtain ⟨rfl, rfl⟩ := ih
      intro inTime
      have decided : limits.decide? baseline ⟨elapsed, .result result⟩ = some _ :=
        Limits.decide?_eq_some_iff.2 (.inr ⟨inTime, .inl ⟨result, rfl, rfl⟩⟩)
      have round := InRounds.last decided .nothing
      simpa [Round.acts, Nat.not_le.2 inTime, Outcome.parting] using round
    | @disconnected elapsed =>
      obtain ⟨rfl, rfl⟩ := ih
      intro inTime
      have decided : limits.decide? (α := α) baseline ⟨elapsed, .disconnected⟩ = some _ :=
        Limits.decide?_eq_some_iff.2 (.inr ⟨inTime, .inr (.inl ⟨rfl, rfl⟩)⟩)
      have round := InRounds.last decided .nothing
      simpa [Round.acts, Nat.not_le.2 inTime, Outcome.parting, Outcome.isBreach] using round
    | nothing => exact fun inTime => ih _ inTime
    | @within sample kept =>
      intro elapsed inTime
      have undecided : limits.decide? (α := α) baseline ⟨elapsed, .silence sample⟩ = none := by
        rw [Limits.decide?, if_neg (Nat.not_le.2 inTime)]
        exact kept
      simpa [Round.acts, Nat.not_le.2 inTime] using ih.cons undecided
    | @beyond sample o broken =>
      obtain ⟨arrival, rfl, rfl⟩ := ih
      intro elapsed inTime
      have decided : limits.decide? baseline ⟨elapsed, .silence sample⟩ = some _ :=
        Limits.decide?_eq_some_iff.2 (.inr ⟨inTime, .inr (.inr ⟨sample, rfl, broken⟩)⟩)
      have round := InRounds.last decided arrival
      obtain ⟨_, _, -, -, -, rfl⟩ := Limits.breach?_eq_some_iff.1 broken
      simpa [Round.acts, Nat.not_le.2 inTime, Outcome.parting, Outcome.isBreach] using round
    | trip =>
      obtain ⟨arrival, rfl, rfl⟩ := ih
      exact ⟨arrival, rfl, rfl⟩
    | part arrival =>
      obtain ⟨rfl, rfl⟩ := ih
      exact ⟨arrival, rfl, rfl⟩

theorem follows_looking_iff :
    Follows limits baseline looking log (returned outcome) ↔
      InRounds limits baseline log outcome :=
  ⟨completes_of_follows, follows_of_inRounds⟩

/-! ## What holds in all states -/

/-- A wait has begun in time, and what is kept as a breach is one. -/
def Sound (limits : Limits) : Supervisor α → Prop
  | waiting elapsed => elapsed.nanos < limits.deadline.nanos
  | breached outcome | parting outcome => outcome.isBreach = true
  | _ => True

theorem Step.sound {act : Act α} (step : Step limits baseline s act t) (h : s.Sound limits) :
    t.Sound limits := by
  cases step with
  | late _ => rfl
  | early inTime => exact inTime
  | beyond broken =>
    obtain ⟨_, _, -, -, -, rfl⟩ := Limits.breach?_eq_some_iff.1 broken
    rfl
  | trip => exact h
  | _ => trivial

theorem Follows.sound (run : Follows limits baseline s log t) (h : s.Sound limits) :
    t.Sound limits := by
  induction run with
  | nil => exact h
  | cons step _ ih => exact ih (step.sound h)

theorem Reaches.sound (h : Reaches limits log s) : s.Sound limits := by
  obtain ⟨run⟩ := h
  exact run.sound trivial

/-! ## Breaches -/

theorem Follows.split (h : Follows limits baseline s (log ++ log') u) :
    ∃ t, Follows limits baseline s log t ∧ Follows limits baseline t log' u := by
  induction log generalizing s with
  | nil => exact ⟨s, .nil, h⟩
  | cons act log ih =>
    cases h with
    | cons step rest =>
      obtain ⟨t, front, back⟩ := ih rest
      exact ⟨t, .cons step front, back⟩

theorem eq_of_follows_parting
    (h : Follows limits baseline (parting outcome) log (returned outcome')) :
    outcome = outcome' := by
  obtain ⟨_, same, -⟩ := completes_of_follows h
  exact same

theorem eq_of_follows_breached
    (h : Follows limits baseline (breached outcome) log (returned outcome')) :
    outcome = outcome' := by
  obtain ⟨_, same, -⟩ := completes_of_follows h
  exact same

theorem trip_notMem_acts (q : Round α) : .trip ∉ q.acts limits := by
  unfold Round.acts
  split
  · simp
  · split <;> simp

/-- What the acts of a supervisor say for its outcome. -/
def Grounds (limits : Limits) (log : List (Act α)) : Outcome α → Prop
  | .completed value => ∃ elapsed : Duration, elapsed.nanos < limits.deadline.nanos ∧
      [.readClock elapsed, .receive (limits.wait elapsed) (.result (.ok value))] <:+ log
  | .faulted failure => ∃ elapsed : Duration, elapsed.nanos < limits.deadline.nanos ∧
      ([.readClock elapsed, .receive (limits.wait elapsed) (.result (.error failure))] <:+ log ∨
        [.readClock elapsed, .receive (limits.wait elapsed) .disconnected] <:+ log ∧
          failure = .ofText "limiter: worker exited without a result")
  | .deadlineExceeded deadline => deadline = limits.deadline ∧
      ∃ elapsed : Duration, .readClock elapsed ∈ log ∧ deadline.nanos ≤ elapsed.nanos
  | .memoryExceeded ceiling observed => ceiling = limits.memoryCeiling ∧ ceiling < observed ∧
      ∃ base later, log = .measure (some base) :: later ∧
        .measure (some (base + observed)) ∈ later

/-- The outcome of a supervisor, by what it did. -/
structure Accounts (limits : Limits) (log : List (Act α)) (outcome : Outcome α) : Prop where
  grounds : Grounds limits log outcome
  trip_mem_iff : .trip ∈ log ↔ outcome.isBreach = true
  /-- The token is tripped only once the outcome is fixed. -/
  breached_of_trip : ∀ front back, log = front ++ .trip :: back →
    Reaches limits front (breached outcome)
  /-- Nothing that comes after a breach changes the outcome. -/
  eq_of_breached : ∀ front back o, log = front ++ back → Reaches limits front (breached o) →
    o = outcome ∧ outcome.isBreach = true

theorem grounds_of_follows (h : Follows limits baseline looking log (returned outcome)) :
    Grounds limits (.measure baseline :: log) outcome := by
  obtain ⟨rounds, ⟨elapsed, event⟩, arrival, -, decided, rfl⟩ := follows_looking_iff.1 h
  have of_last {act : Act α} (among : act ∈ Round.acts limits ⟨elapsed, event⟩) :
      act ∈ rounds.flatMap (·.acts limits) ++
        (Round.acts limits ⟨elapsed, event⟩ ++ outcome.parting limits arrival) :=
    List.mem_append_right _ (List.mem_append_left _ among)
  rcases Limits.decide?_eq_some_iff.1 decided with ⟨late, rfl⟩ | ⟨inTime, how⟩
  · exact ⟨rfl, elapsed, .tail _ (of_last (.head _)), late⟩
  · have acts := Nat.not_le.2 inTime
    rcases how with ⟨failure | value, rfl, rfl⟩ | ⟨rfl, rfl⟩ | ⟨sample, rfl, broken⟩
    · refine ⟨elapsed, inTime, .inl ⟨.measure baseline :: rounds.flatMap (·.acts limits), ?_⟩⟩
      simp [Round.acts, acts, Outcome.parting, Outcome.ofResult, Outcome.isBreach]
    · refine ⟨elapsed, inTime, .measure baseline :: rounds.flatMap (·.acts limits), ?_⟩
      simp [Round.acts, acts, Outcome.parting, Outcome.ofResult, Outcome.isBreach]
    · refine ⟨elapsed, inTime, .inr ⟨?_, rfl⟩⟩
      refine ⟨.measure baseline :: rounds.flatMap (·.acts limits), ?_⟩
      simp [Round.acts, acts, Outcome.parting, Outcome.isBreach]
    · obtain ⟨base, observed, rfl, rfl, exceeds, rfl⟩ := Limits.breach?_eq_some_iff.1 broken
      exact ⟨rfl, exceeds, base, _, rfl, of_last (by simp [Round.acts, acts])⟩

theorem trip_mem_iff_of_follows (h : Follows limits baseline looking log (returned outcome)) :
    .trip ∈ log ↔ outcome.isBreach = true := by
  obtain ⟨rounds, last, arrival, -, -, rfl⟩ := follows_looking_iff.1 h
  simp only [List.mem_append, List.mem_flatMap, trip_notMem_acts, and_false, exists_false,
    false_or, Outcome.parting]
  split
  · next broken => simp [broken]
  · next kept => simp [kept]

/-- Whatever the clock, the channel and the probe say, the supervisor subtracts only what is less
than its deadline, it returns what the first round says that decides, and this outcome has its
grounds, which nothing takes away that comes after a breach. -/
theorem accounts_of_reaches (limits : Limits) :
    (∀ (log : List (Act α)) (elapsed : Duration), Reaches limits log (waiting elapsed) →
      elapsed.nanos < limits.deadline.nanos ∧
      elapsed.nanos + (limits.wait elapsed).nanos ≤ limits.deadline.nanos) ∧
    (∀ (baseline : Option Nat) (log : List (Act α)) (outcome : Outcome α),
      Reaches limits (.measure baseline :: log) (returned outcome) ↔
        InRounds limits baseline log outcome) ∧
    ∀ (log : List (Act α)) (outcome : Outcome α), Reaches limits log (returned outcome) →
      Accounts limits log outcome := by
  refine ⟨fun log elapsed h => ?_, fun baseline log outcome => ?_, fun log outcome h => ?_⟩
  · have inTime : elapsed.nanos < limits.deadline.nanos := h.sound
    refine ⟨inTime, ?_⟩
    simp only [Limits.wait]
    omega
  · rw [← follows_looking_iff]
    exact ⟨fun ⟨run⟩ => run, fun run => ⟨run⟩⟩
  · obtain ⟨run⟩ := h
    refine ⟨grounds_of_follows run, ?_, ?_, ?_⟩
    · simp [trip_mem_iff_of_follows run]
    · rintro (_ | ⟨first, front⟩) back same
      · cases same
      · obtain ⟨rfl, rfl⟩ := List.cons.inj same
        obtain ⟨t, front, back⟩ := run.split
        cases back with
        | cons step rest =>
          cases step with
          | trip =>
            cases eq_of_follows_parting rest
            exact ⟨front⟩
    · rintro front back o same ⟨reached⟩
      obtain ⟨⟨⟩, rfl⟩ := List.cons.inj same
      cases eq_of_follows_breached (run.rest reached)
      exact ⟨rfl, reached.sound trivial⟩

/-- A sample is missing, the next is too great, and the result comes within the grace. -/
theorem accounts_of_lateResult :
    let limits := Limits.ofDeadline (.ofMillis 30) 100
    let log : List (Act Nat) := [.measure (some 1000),
      .readClock ⟨0⟩, .receive (limits.wait ⟨0⟩) .nothing, .measure none,
      .readClock (.ofMillis 12), .receive (limits.wait (.ofMillis 12)) .nothing,
      .measure (some 1150), .trip, .receive limits.grace (.result (.ok 7))]
    Reaches limits log (returned (.memoryExceeded 100 150)) ∧
      Accounts limits log (.memoryExceeded 100 150) := by
  intro limits log
  have first : limits.breach? (α := Nat) (some 1000) none = none := rfl
  have second :
      limits.breach? (α := Nat) (some 1000) (some 1150) = some (.memoryExceeded 100 150) := rfl
  have run : Reaches limits log (returned (.memoryExceeded 100 150)) :=
    ⟨.cons (.early (by decide)) (.cons .nothing (.cons (.within first)
      (.cons (.early (by decide)) (.cons .nothing (.cons (.beyond second)
        (.cons .trip (.cons (.part (.result (.ok 7))) .nil)))))))⟩
  exact ⟨run, (accounts_of_reaches limits).2.2 log _ run⟩

end Supervisor

end SourceGate
