import SourceGate.Proofs.Run.Alike
import SourceGate.Proofs.Run.Supervisor
import SourceGate.Run.Course

/-! # Cancellation in the course of a run

A program is candid if it fails for being cancelled only after it was told that the run is given up.
The token is tripped once the outcome is a breach, so in every order of acts what a candid program
sends before that does not come from a cancellation, and what it sends later is not received.
-/

namespace SourceGate

variable {α β : Type}

/-! ## Candid programs -/

/-- Somewhere in a failure stands a cancellation. -/
def Failure.IsCancelled (f : Failure) : Prop := .refusal .cancelled ∈ f.causes

theorem Failure.not_isCancelled_of_plain {f : Failure} (h : f.refusal? = none) :
    ¬ f.IsCancelled := by
  intro cancelled
  cases List.findSome?_eq_none_iff.1 h _ cancelled

theorem Guardian.resolve_ne_cancelled (generation : Nat) (path : String) (g : Guardian) :
    (g.resolve generation path).1 ≠ .error .cancelled := by
  unfold Guardian.resolve
  dsimp only
  split
  · split <;> simp
  · simp

theorem Guardian.install_ne_cancelled (policy : Policy) (g : Guardian) :
    (g.install policy).1 ≠ .error .cancelled := by
  unfold Guardian.install
  split <;> simp

namespace Program

/-- A program that fails for being cancelled only if it is told so, be it before or by what it asks.
It does not trip the token, and no other answer that it gets is a cancellation. -/
def Candid : Bool → Program α → Prop
  | _, .done _ => True
  | told, .fail failure => failure.IsCancelled → told = true
  | _, .panic _ => True
  | told, .readToken next => ∀ tripped, (next tripped).Candid (told || tripped)
  | _, .tripToken _ => False
  | _, .awaitToken next => next.Candid true
  | told, .sleep _ next => next.Candid told
  | told, .resolve _ _ next => ∀ answer, answer ≠ .error .cancelled → (next answer).Candid told
  | told, .readSlot next => ∀ isInstalled, (next isInstalled).Candid told
  | told, .install _ next => ∀ answer, answer ≠ .error .cancelled → (next answer).Candid told
  | told, .release _ next => next.Candid told
  | told, .askGate next => ∀ answer, answer ≠ .cancelled → (next answer).Candid told

theorem Candid.mono {p : Program α} {told told' : Bool} (h : p.Candid told)
    (le : told = true → told' = true) : p.Candid told' := by
  induction p generalizing told told' with
  | done | panic => trivial
  | fail failure => exact fun cancelled => le (h cancelled)
  | readToken next ih =>
    intro tripped
    refine ih _ (h tripped) ?_
    cases tripped with
    | false => simpa using le
    | true => simp
  | tripToken => exact h
  | awaitToken next ih => exact h
  | sleep _ next ih | release _ next ih => exact ih h le
  | readSlot next ih => exact fun isInstalled => ih _ (h isInstalled) le
  | resolve _ _ next ih | install _ next ih | askGate next ih =>
    exact fun answer other => ih _ (h answer other) le

theorem Candid.bind {p : Program α} {f : α → Program β} {told : Bool} (h : p.Candid told)
    (hf : ∀ a, (f a).Candid false) : (p.bind f).Candid told := by
  induction p generalizing told with
  | done a => exact (hf a).mono (by simp)
  | fail failure => exact h
  | panic => trivial
  | tripToken => exact h
  | readToken next ih => exact fun tripped => ih _ (h tripped)
  | awaitToken next ih | sleep _ next ih | release _ next ih => exact ih h
  | readSlot next ih => exact fun isInstalled => ih _ (h isInstalled)
  | resolve _ _ next ih | install _ next ih | askGate next ih =>
    exact fun answer other => ih _ (h answer other)

/-- A candid program stays candid whatever it does next, and the token stays as it is. -/
theorem Candid.next {p p' : Program α} {w w' : Worker} (h : p.Candid w.tripped)
    (step : p.next? w = some (p', w')) : p'.Candid w'.tripped ∧ w'.tripped = w.tripped := by
  cases p with
  | done | fail | panic => cases step
  | tripToken => exact h.elim
  | readToken next =>
    cases step
    exact ⟨by simpa using h w.tripped, rfl⟩
  | awaitToken next =>
    obtain ⟨tripped, same⟩ := Option.ite_none_right_eq_some.1 step
    cases same
    exact ⟨tripped ▸ h, rfl⟩
  | sleep span next =>
    cases step
    exact ⟨h, rfl⟩
  | resolve generation path next =>
    cases step
    exact ⟨h _ (w.guardian.resolve_ne_cancelled generation path), rfl⟩
  | readSlot next =>
    cases step
    exact ⟨h _, rfl⟩
  | install policy next =>
    cases step
    exact ⟨h _ (w.guardian.install_ne_cancelled policy), rfl⟩
  | release generation next =>
    simp only [next?] at step
    split at step
    · cases step
      exact ⟨h, rfl⟩
    · cases step
      exact ⟨h, rfl⟩
  | askGate next =>
    cases step
    exact ⟨h _ (by simp), rfl⟩

theorem Candid.told {p : Program α} {told : Bool} (h : p.Candid told) {failure : Failure}
    (ended : p.result? = some (.error failure)) (cancelled : failure.IsCancelled) :
    told = true := by
  cases p with
  | fail =>
    cases ended
    exact h cancelled
  | panic payload =>
    cases ended
    exact absurd cancelled (Failure.not_isCancelled_of_plain rfl)
  | _ => cases ended

end Program

/-! ## The order of breach and cancellation -/

namespace Supervisor

variable {limits : Limits} {baseline : Option Nat} {s t : Supervisor α} {act : Act α}
  {outcome : Outcome α}

/-- The outcome, once it is fixed. -/
def outcome? : Supervisor α → Option (Outcome α)
  | breached outcome | parting outcome | returned outcome => some outcome
  | _ => none

theorem Step.outcome? (step : Step limits baseline s act t) (h : s.outcome? = some outcome) :
    t.outcome? = some outcome := by
  cases step with
  | trip | part => exact h
  | _ => cases h

/-- The supervisor is past a breach and has tripped the token. -/
def GivesUp (s : Supervisor α) : Prop :=
  ∃ outcome, outcome.isBreach = true ∧ (s = parting outcome ∨ s = returned outcome)

theorem GivesUp.outcome? (h : s.GivesUp) :
    ∃ breach, breach.isBreach = true ∧ s.outcome? = some breach := by
  obtain ⟨breach, broken, rfl | rfl⟩ := h
  · exact ⟨breach, broken, rfl⟩
  · exact ⟨breach, broken, rfl⟩

end Supervisor

namespace Course

variable {limits : Limits} {baseline : Option Nat} {c c' : Course α} {program : Program α}
  {guardian : Guardian}

/-- What holds all along the course of a candid program. -/
structure Honest (limits : Limits) (c : Course α) : Prop where
  sound : c.supervisor.Sound limits
  givesUp : c.worker.tripped = true → c.supervisor.GivesUp
  working : ∀ p, c.delivery = .working p → p.Candid c.worker.tripped
  sent : ∀ f, c.delivery = .sent (.error f) → f.IsCancelled → c.worker.tripped = true
  returned : ∀ f, c.supervisor = .returned (.faulted f) → ¬ f.IsCancelled

theorem Starts.honest (starts : Starts limits program guardian c) (candid : program.Candid false) :
    c.Honest limits := by
  cases starts with
  | spawned =>
    refine ⟨trivial, nofun, ?_, nofun, nofun⟩
    rintro p ⟨⟩
    exact candid
  | unfiltered _ plain =>
    refine ⟨trivial, nofun, nofun, ?_, nofun⟩
    rintro f ⟨⟩ cancelled
    exact absurd cancelled (Failure.not_isCancelled_of_plain plain)
  | unspawned cause =>
    refine ⟨trivial, nofun, nofun, nofun, ?_⟩
    rintro f ⟨⟩
    exact Failure.not_isCancelled_of_plain rfl

/-- An act of the supervisor. Only a result that came before the token was tripped is returned. -/
theorem Honest.supervise {s s' : Supervisor α} {d : Delivery α} {w : Program.Worker} {act : Act α}
    (h : Honest limits ⟨s, d, w⟩) (step : Supervisor.Step limits baseline s act s')
    (fits : act.Fits d) : Honest limits ⟨s', d, act.on w⟩ := by
  have sound := step.sound h.sound
  -- Before a breach the token is not tripped, so nothing that was sent is a cancellation.
  have untripped (undecided : s.outcome? = none) : w.tripped ≠ true := fun tripped => by
    obtain ⟨_, -, decided⟩ := (h.givesUp tripped).outcome?
    cases undecided.symm.trans decided
  cases step with
  | late | early | nothing | within | beyond =>
    exact ⟨sound, fun tripped => absurd tripped (untripped rfl), h.working, h.sent, nofun⟩
  | result result =>
    refine ⟨sound, fun tripped => absurd tripped (untripped rfl), h.working, h.sent, ?_⟩
    cases fits with
    | result =>
      intro f same cancelled
      cases result with
      | ok value => cases same
      | error failure =>
        cases same
        exact untripped rfl (h.sent _ rfl cancelled)
  | disconnected =>
    refine ⟨sound, fun tripped => absurd tripped (untripped rfl), h.working, h.sent, ?_⟩
    rintro f ⟨⟩
    exact Failure.not_isCancelled_of_plain rfl
  | @trip breach =>
    refine ⟨sound, fun _ => ⟨breach, h.sound, .inl rfl⟩, ?_, fun _ _ _ => rfl, nofun⟩
    exact fun p same => (h.working p same).mono fun _ => rfl
  | @part breach =>
    refine ⟨sound, fun _ => ⟨breach, h.sound, .inr rfl⟩, h.working, h.sent, ?_⟩
    rintro f ⟨⟩
    cases h.sound

theorem Step.honest (step : Step limits baseline c c') (h : c.Honest limits) :
    c'.Honest limits := by
  cases step with
  | supervise act step fits => exact h.supervise step fits
  | @work s p p' w w' next =>
    obtain ⟨candid, same⟩ := (h.working p rfl).next next
    refine ⟨h.sound, fun tripped => h.givesUp (same ▸ tripped), ?_, nofun, h.returned⟩
    rintro p ⟨⟩
    exact candid
  | @send s p r w ended =>
    refine ⟨h.sound, h.givesUp, nofun, ?_, h.returned⟩
    rintro f ⟨⟩ cancelled
    exact (h.working p rfl).told ended cancelled
  | vanish => exact ⟨h.sound, h.givesUp, nofun, nofun, h.returned⟩
  | others guardian => exact ⟨h.sound, h.givesUp, h.working, h.sent, h.returned⟩

theorem Reaches.honest (run : Reaches limits baseline c c') (h : c.Honest limits) :
    c'.Honest limits := by
  induction run with
  | refl => exact h
  | tail _ step ih => exact step.honest ih

theorem Step.outcome? {outcome : Outcome α} (step : Step limits baseline c c')
    (h : c.supervisor.outcome? = some outcome) : c'.supervisor.outcome? = some outcome := by
  cases step with
  | supervise act step _ => exact step.outcome? h
  | _ => exact h

theorem Reaches.outcome? {outcome : Outcome α} (run : Reaches limits baseline c c')
    (h : c.supervisor.outcome? = some outcome) : c'.supervisor.outcome? = some outcome := by
  induction run with
  | refl => exact h
  | tail _ step ih => exact step.outcome? ih

/-! ## Runs that nobody disturbs -/

/-- A worker that is left alone comes as far as its program runs. -/
theorem exists_reaches_runFrom (limits : Limits) (baseline : Option Nat) (p : Program α)
    (w : Program.Worker) (s : Supervisor α) :
    ∃ d, Reaches limits baseline ⟨s, .working p, w⟩ ⟨s, d, (p.runFrom w).2⟩ ∧
      ∀ r, (p.runFrom w).1 = some r → d = .sent r := by
  induction p generalizing w with
  | done | fail | panic =>
    refine ⟨_, .single (.send rfl), ?_⟩
    rintro r ⟨⟩
    rfl
  | readToken next ih | readSlot next ih | askGate next ih | resolve _ _ next ih
    | install _ next ih =>
    obtain ⟨d, run, sent⟩ := ih _ _
    exact ⟨d, .head (.work rfl) run, sent⟩
  | tripToken next ih | sleep _ next ih =>
    obtain ⟨d, run, sent⟩ := ih _
    exact ⟨d, .head (.work rfl) run, sent⟩
  | awaitToken next ih =>
    by_cases tripped : w.tripped = true
    · obtain ⟨d, run, sent⟩ := ih w
      rw [Program.runFrom, if_pos tripped]
      exact ⟨d, .head (.work (if_pos tripped)) run, sent⟩
    · rw [Program.runFrom, if_neg tripped]
      refine ⟨_, .refl, ?_⟩
      rintro r ⟨⟩
  | release generation next ih =>
    by_cases holds : w.held.contains generation = true
    · obtain ⟨d, run, sent⟩ := ih _
      rw [Program.runFrom, if_pos holds]
      exact ⟨d, .head (.work (if_pos holds)) run, sent⟩
    · obtain ⟨d, run, sent⟩ := ih w
      rw [Program.runFrom, if_neg holds]
      exact ⟨d, .head (.work (if_neg holds)) run, sent⟩

theorem exists_reaches_of_follows {s t : Supervisor α} {log : List (Act α)} {d : Delivery α}
    (acts : Supervisor.Follows limits baseline s log t) (fit : ∀ act ∈ log, act.Fits d)
    (w : Program.Worker) : ∃ w', Reaches limits baseline ⟨s, d, w⟩ ⟨t, d, w'⟩ := by
  induction acts generalizing w with
  | nil => exact ⟨w, .refl⟩
  | cons step _ ih =>
    obtain ⟨first, later⟩ := List.forall_mem_cons.1 fit
    obtain ⟨w', run⟩ := ih later _
    exact ⟨w', .head (.supervise _ step first) run⟩

theorem fits_acts {q : Round α} {d : Delivery α} (sent : ∀ r, q.event = .result r → d = .sent r)
    (connected : q.event ≠ .disconnected) : ∀ act ∈ q.acts limits, act.Fits d := by
  obtain ⟨elapsed, event⟩ := q
  unfold Round.acts
  split
  · simp [Act.Fits]
  · cases event with
    | silence sample => simp [Act.Fits, Delivery.Yields.nothing]
    | result r => simp [Act.Fits, sent r rfl, Delivery.Yields.result]
    | disconnected => exact absurd rfl connected

theorem fits_parting (outcome : Outcome α) (d : Delivery α) :
    ∀ act ∈ outcome.parting limits .nothing, act.Fits d := by
  unfold Outcome.parting
  split
  · simp [Act.Fits, Delivery.Yields.nothing]
  · simp

/-- What a round of a watch ends with fits what is sent at the ending. -/
theorem fits_acts_arrival (limits : Limits) {d : Delivery α} {ending : Option (Ending α)}
    (sent : ∀ e ∈ ending, d = .sent e.result) (elapsed : Duration) (probe : Probe) :
    ∀ act ∈ Round.acts limits ⟨elapsed, (limits.arrival ending elapsed probe).1⟩, act.Fits d := by
  rcases limits.arrival_eq ending elapsed probe with ⟨e, ended, came⟩ | ⟨sample, came⟩
  · rw [came]
    refine fits_acts ?_ nofun
    rintro r ⟨⟩
    exact sent e ended
  · rw [came]
    exact fits_acts nofun nofun

/-- A supervisor that watches a worker with a known ending acts so. -/
theorem exists_follows_watch (limits : Limits) (baseline : Option Nat) {d : Delivery α}
    (ending : Option (Ending α)) (elapsed : Duration) (probe : Probe)
    (sent : ∀ e ∈ ending, d = .sent e.result) :
    ∃ log, Supervisor.Follows limits baseline .looking log
        (.returned (limits.watch baseline ending elapsed probe).1) ∧
      ∀ act ∈ log, act.Fits d := by
  fun_induction Limits.watch limits baseline ending elapsed probe with
  | case1 elapsed probe late =>
    have decided : limits.decide? (α := α) baseline ⟨elapsed, .disconnected⟩ = some _ :=
      Limits.decide?_eq_some_iff.2 (.inl ⟨late, rfl⟩)
    have acts := Supervisor.follows_of_decide?_eq_some decided .nothing
    rw [Round.acts, if_pos late] at acts
    exact ⟨_, acts, List.forall_mem_cons.2 ⟨trivial, fits_parting _ d⟩⟩
  | case2 elapsed probe inTime wait event rest watched outcome decided =>
    have arrived : limits.arrival ending elapsed probe = (event, rest) := watched
    have fit := fits_acts_arrival limits sent elapsed probe
    rw [arrived] at fit
    exact ⟨_, Supervisor.follows_of_decide?_eq_some decided .nothing,
      List.forall_mem_append.2 ⟨fit, fits_parting outcome d⟩⟩
  | case3 elapsed probe inTime wait event rest watched undecided ih =>
    have arrived : limits.arrival ending elapsed probe = (event, rest) := watched
    have fit := fits_acts_arrival limits sent elapsed probe
    rw [arrived] at fit
    obtain ⟨log, acts, later⟩ := ih
    exact ⟨_, (Supervisor.follows_of_decide?_eq_none undecided).append acts,
      List.forall_mem_append.2 ⟨fit, later⟩⟩

/-- A worker comes as far as its program before its supervisor looks, and ends `delay` later. -/
theorem exists_reaches_watch (limits : Limits) (delay : Duration) (probe : Probe)
    (program : Program α) (guardian : Guardian) :
    ∃ c, Reaches limits probe.next.1
        ⟨.looking, .working program, ⟨⟨false, ⟨0⟩, guardian⟩, []⟩⟩ c ∧
      c.supervisor = .returned
        (limits.watch probe.next.1 (program.ending? delay guardian) ⟨0⟩ probe.next.2).1 := by
  let w : Program.Worker := ⟨⟨false, ⟨0⟩, guardian⟩, []⟩
  obtain ⟨d, work, sent⟩ := exists_reaches_runFrom limits probe.next.1 program w .looking
  have sent : ∀ e ∈ program.ending? delay guardian, d = .sent e.result := by
    intro e among
    obtain ⟨r, ended, rfl⟩ := Option.map_eq_some_iff.1 among
    exact sent r ended
  obtain ⟨log, acts, fit⟩ :=
    exists_follows_watch limits probe.next.1 (program.ending? delay guardian) ⟨0⟩ probe.next.2 sent
  obtain ⟨w', supervision⟩ := exists_reaches_of_follows acts fit (program.runFrom w).2
  exact ⟨_, work.trans supervision, rfl⟩

/-- A worker without its filter has sent its failure before its supervisor looks. -/
theorem exists_reaches_watch_fail (limits : Limits) (delay : Duration) (probe : Probe)
    (failure : Failure) (guardian : Guardian) :
    ∃ c, Reaches limits probe.next.1
        ⟨.looking, (.sent (.error failure) : Delivery α), ⟨⟨false, ⟨0⟩, guardian⟩, []⟩⟩ c ∧
      c.supervisor = .returned (limits.watch probe.next.1
        ((Program.fail failure : Program α).ending? delay guardian) ⟨0⟩ probe.next.2).1 := by
  have sent : ∀ e ∈ (Program.fail failure : Program α).ending? delay guardian,
      (.sent (.error failure) : Delivery α) = .sent e.result := by
    intro e among
    cases Option.mem_some.1 among
    rfl
  obtain ⟨log, acts, fit⟩ := exists_follows_watch limits probe.next.1 _ ⟨0⟩ probe.next.2 sent
  obtain ⟨w', supervision⟩ := exists_reaches_of_follows acts fit ⟨⟨false, ⟨0⟩, guardian⟩, []⟩
  exact ⟨_, supervision, rfl⟩

/-- A run that nobody disturbs is a course, whatever the conditions. -/
theorem exists_reaches_run (limits : Limits) (c : Conditions) (probe : Probe)
    (program : Program α) (guardian : Guardian) :
    ∃ baseline start course, Starts limits program guardian start ∧
      Reaches limits baseline start course ∧
      course.supervisor = .returned (limits.run c probe program guardian).1 := by
  cases spawned : c.spawnFault with
  | some cause =>
    rw [Limits.run_of_unspawned spawned]
    exact ⟨none, _, _, .unspawned cause, .refl, rfl⟩
  | none =>
    rw [Limits.run_of_spawned spawned]
    rcases limits.behindFilter_cases c program with same | ⟨failure, required, -, filtered⟩
    · rw [same]
      obtain ⟨course, run, returned⟩ :=
        exists_reaches_watch limits c.delay probe program guardian
      exact ⟨_, _, course, .spawned, run, returned⟩
    · rw [filtered]
      obtain ⟨course, run, returned⟩ :=
        exists_reaches_watch_fail (α := α) limits c.delay probe failure guardian
      exact ⟨_, _, course, .unfiltered required failure.2, run, returned⟩

end Course

end SourceGate
