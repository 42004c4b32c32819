import SourceGate.Proofs.Gate.Moment

/-! # Calls one at a time

A call that has ended leaves the process as it found it, but for what it has added to the counters
of its gate. Of calls that come one after another the counters therefore tell how each ended, except
for those that were refused because of a run or of a guard that was there. A session that could not
be opened is told among the installs, and not among the releases.
-/

namespace SourceGate

variable {γ α : Type} [DecidableEq γ]

/-! ## One call -/

namespace Solo

variable {s after : Premises γ} {k : γ} {deadline : Duration} {isInside : Bool}
  {body : List Tree.Stmt} {c d : Solo γ α} {exit : Exit α} {begun : List (Activity γ α)}

/-- A request at a moment of its call, whose run has begun nothing but calls from inside. -/
structure IsAt (s : Premises γ) (k : γ) (deadline : Duration) (isInside : Bool)
    (body : List Tree.Stmt) (c : Solo γ α) : Prop where
  moment : ∃ site isLocked, c.toPremises = s.during k site isLocked ∧
    (s.site k).Moment deadline s.isLocked isInside body site isLocked c.stage
  nested : ∀ a ∈ c.begun, a.IsNested

theorem isAt_ask (s : Premises γ) (k : γ) (deadline : Duration) (isInside : Bool)
    (body : List Tree.Stmt) : IsAt s k deadline isInside body (ask s isInside body : Solo γ α) :=
  ⟨⟨_, _, (s.during_self k).symm, .asked isInside body⟩, by simp [ask]⟩

theorem IsAt.step (at_c : IsAt s k deadline isInside body c) (h : Step k deadline c d) :
    IsAt s k deadline isInside body d := by
  obtain ⟨⟨site, isLocked, shared, moment⟩, nested⟩ := at_c
  cases h with
  | advance begun h =>
    cases shared
    exact ⟨moment.advance h, nested⟩
  | work generation before after deed inside =>
    cases shared
    cases moment with
    | running opens free log =>
      -- the slot is that of the session, so the run can do nothing to it but resolve
      simp only [List.forall_mem_append] at nested
      obtain ⟨⟨paths, rfl⟩, still⟩ := deed.of_nested rfl rfl nested.1.2 inside
      refine ⟨⟨_, _, ?_, .running opens free (log ++ paths)⟩, ?_⟩
      · rfl
      · simp only [List.forall_mem_append]
        exact ⟨⟨nested.1.1, still⟩, nested.2⟩

theorem IsAt.run (h : Reaches k deadline (ask s isInside body) c) :
    IsAt s k deadline isInside body c := by
  induction h with
  | refl => exact isAt_ask s k deadline isInside body
  | tail _ step ih => exact ih.step step

/-- What is shared after a call that has ended. -/
theorem ends_of_reaches
    (h : Reaches k deadline (ask s isInside body) ⟨after, .ended exit, begun⟩) :
    ∃ site, after = s.during k site s.isLocked ∧
      (s.site k).Ends deadline isInside body ((s.site k).fate isInside body exit.hasOpened) exit
        site := by
  obtain ⟨⟨site, isLocked, shared, moment⟩, -⟩ := IsAt.run h
  cases moment with
  | ended ends => exact ⟨site, shared, ends.fate_eq ▸ ends⟩

/-- However far a call has come, it can go on to its end. -/
theorem IsAt.completes (free : s.isLocked = false) (at_c : IsAt s k deadline isInside body c) :
    ∃ d, Reaches k deadline c d ∧ d.stage.isEnded = true := by
  induction left : c.stage.rank using Nat.strong_induction_on generalizing c with
  | _ n ih =>
    subst left
    cases ended : c.stage.isEnded with
    | true => exact ⟨c, .refl, ended⟩
    | false =>
      obtain ⟨shared, stage, begun⟩ := c
      obtain ⟨site, isLocked, rfl, moment⟩ := at_c.moment
      rw [free] at moment
      obtain ⟨s', stage', next⟩ := moment.progress (k := k) (s := s) ended
      have step : Step k deadline ⟨s.during k site isLocked, stage, begun⟩ ⟨s', stage', begun⟩ :=
        .advance begun next
      obtain ⟨d, onward, done⟩ := ih _ next.rank_lt (at_c.step step) rfl
      exact ⟨d, .head step onward, done⟩

end Solo

/-! ## Calls in a row -/

/-- A call that has ended. -/
structure Call (γ α : Type) where
  gate : γ
  fate : Fate
  exit : Exit α

namespace Call

def isAt (k : γ) (call : Call γ α) : Bool := call.gate = k

def endsAs (k : γ) (fate : Fate) (call : Call γ α) : Bool := call.isAt k && call.fate = fate

theorem endsAs_self (k : γ) (fate other : Fate) (exit : Exit α) :
    (⟨k, fate, exit⟩ : Call γ α).endsAs k other = decide (fate = other) := by
  simp [endsAs, isAt]

def isAdmittedAt (k : γ) (call : Call γ α) : Bool := call.isAt k && call.exit.isAdmitted

end Call

/-- Calls that come one at a time, the last first. Between two of them anyone uses the guard and the
session lock. -/
inductive History : Premises γ → List (Call γ α) → Premises γ → Prop where
  | start (s) : History s [] s
  | call {s calls now after} (earlier : History s calls now)
      {k deadline isInside body exit begun}
      (course : Solo.Reaches k deadline (.ask now isInside body) ⟨after, .ended exit, begun⟩) :
    History s (⟨k, (now.site k).fate isInside body exit.hasOpened, exit⟩ :: calls) after
  | byHand {s calls now after} (earlier : History s calls now) {involved involved'}
      (deed : Deed (α := α) now involved after involved')
      (hands : ∀ j deadline stage, .admission j deadline stage ∉ involved') :
    History s calls after

/-- The counters of a gate before some calls and after them: what has been added is one for each
call there, by how it ended, and nothing else. -/
structure Counters.Tally (k : γ) (calls : List (Call γ α)) (before after : Counters) : Prop where
  installs : after.installs = before.installs +
    (calls.countP (·.endsAs k .session) + calls.countP (·.endsAs k .unopened))
  releases : after.releases = before.releases + calls.countP (·.endsAs k .session)
  admitted : after.admitted = before.admitted + calls.countP (·.isAdmittedAt k)
  rejected : after.rejected = before.rejected + calls.countP (·.endsAs k .rejected)
  overloaded : after.overloaded = before.overloaded + calls.countP (·.endsAs k .crowded)
  sum : after.installs + after.rejected + after.overloaded +
      (calls.countP (·.endsAs k .nested) + calls.countP (·.endsAs k .occupied)) =
    before.installs + before.rejected + before.overloaded + calls.countP (·.isAt k)

/-- The counters with a call added that has ended. -/
def Counters.record (c : Counters) (fate : Fate) (exit : Exit α) : Counters where
  installs := c.installs + if fate = .session ∨ fate = .unopened then 1 else 0
  releases := c.releases + if fate = .session then 1 else 0
  admitted := c.admitted + if exit.isAdmitted then 1 else 0
  rejected := c.rejected + if fate = .rejected then 1 else 0
  overloaded := c.overloaded + if fate = .crowded then 1 else 0

theorem Site.Ends.counters_eq {s after : Site} {deadline : Duration} {isInside : Bool}
    {body : List Tree.Stmt} {fate : Fate} {exit : Exit α}
    (h : s.Ends deadline isInside body fate exit after) :
    after.gate.counters = s.gate.counters.record fate exit := by
  cases h with
  | session opens probe outcome =>
    cases value : (Exit.ofOutcome? outcome).isAdmitted <;>
      simp [Gate.afterSession, Counters.record, value]
  | _ => rfl

namespace Counters.Tally

variable {k j : γ} {calls : List (Call γ α)} {before now : Counters}

theorem nil (k : γ) (c : Counters) : c.Tally k ([] : List (Call γ α)) c := by
  constructor <;> rfl

theorem cons (earlier : before.Tally k calls now) (fate : Fate) (exit : Exit α) :
    before.Tally k (⟨k, fate, exit⟩ :: calls) (now.record fate exit) where
  installs := by
    have installs := earlier.installs
    cases fate <;> simp [record, Call.endsAs_self] <;> omega
  releases := by simp [record, earlier.releases, List.countP_cons, Call.endsAs_self, Nat.add_assoc]
  admitted := by
    simp [record, earlier.admitted, List.countP_cons, Call.isAdmittedAt, Call.isAt, Nat.add_assoc]
  rejected := by simp [record, earlier.rejected, List.countP_cons, Call.endsAs_self, Nat.add_assoc]
  overloaded := by
    simp [record, earlier.overloaded, List.countP_cons, Call.endsAs_self, Nat.add_assoc]
  sum := by
    have sum := earlier.sum
    cases fate <;> simp [record, Call.endsAs_self, Call.isAt] at sum ⊢ <;> omega

/-- A call at another gate adds nothing. -/
theorem cons_of_ne (earlier : before.Tally k calls now) (other : j ≠ k) (fate : Fate)
    (exit : Exit α) : before.Tally k (⟨j, fate, exit⟩ :: calls) now := by
  obtain ⟨installs, releases, admitted, rejected, overloaded, sum⟩ := earlier
  constructor <;> simpa [List.countP_cons, Call.endsAs, Call.isAdmittedAt, Call.isAt, other]

end Counters.Tally

theorem Deed.gates_eq_of_byHand {s s' : Premises γ} {involved involved' : List (Activity γ α)}
    (h : Deed s involved s' involved')
    (hands : ∀ j deadline stage, .admission j deadline stage ∉ involved') :
    s'.gates = s.gates := by
  cases h with
  | ask | advance => exact absurd List.mem_cons_self (hands _ _ _)
  | _ => rfl

namespace History

variable {s now : Premises γ} {calls : List (Call γ α)}

theorem tally (h : History s calls now) (k : γ) :
    (s.gates k).counters.Tally k calls (now.gates k).counters := by
  induction h with
  | start => exact .nil k _
  | @call _ now _ _ j _ _ _ exit _ course ih =>
    obtain ⟨site, rfl, ends⟩ := Solo.ends_of_reaches course
    by_cases own : j = k
    · subst own
      rw [Premises.during_gates_self, ends.counters_eq]
      exact ih.cons _ exit
    · rw [Premises.during_gates_of_ne (Ne.symm own)]
      exact ih.cons_of_ne own _ exit
  | byHand _ deed hands ih => rwa [deed.gates_eq_of_byHand hands]

/-- A gate has as many slots taken after calls as before them. -/
theorem pending_eq (h : History s calls now) (k : γ) :
    (now.gates k).pending = (s.gates k).pending := by
  induction h with
  | start => rfl
  | @call _ now _ _ j _ _ _ _ _ course ih =>
    obtain ⟨site, rfl, ends⟩ := Solo.ends_of_reaches course
    by_cases own : j = k
    · subst own
      rw [Premises.during_gates_self, ends.pending_eq]
      exact ih
    · rwa [Premises.during_gates_of_ne (Ne.symm own)]
  | byHand _ deed hands ih => rwa [deed.gates_eq_of_byHand hands]

end History

/-! ## The account -/

/-- What holds of calls that come one at a time, from a moment on at which `s` is shared. -/
structure Premises.AccountsForCalls (α : Type) (s : Premises γ) : Prop where
  /-- A call ends in exactly one way, with the answer and the site that belong to it. -/
  ends : ∀ {k deadline isInside body after exit begun},
    Solo.Reaches (α := α) k deadline (.ask s isInside body) ⟨after, .ended exit, begun⟩ →
      ∃! fate, (s.site k).Ends deadline isInside body fate exit (after.site k)
  /-- The guard slot, the slots of the gate and the session lock are as they were before the call,
  and no other gate has changed. -/
  restores : ∀ {k deadline isInside body after exit begun},
    Solo.Reaches (α := α) k deadline (.ask s isInside body) ⟨after, .ended exit, begun⟩ →
      after.guardian.live = s.guardian.live ∧ (after.gates k).pending = (s.gates k).pending ∧
        after.isLocked = s.isLocked ∧ ∀ j, j ≠ k → after.gates j = s.gates j
  /-- A call that has no session even if the clock can hold its deadline touches no guard at any
  moment, and its engine is not run. -/
  untouched : ∀ {k deadline isInside body} {c : Solo γ α},
    Solo.Reaches k deadline (.ask s isInside body) c →
      (s.site k).fate isInside body true ≠ .session →
        c.guardian = s.guardian ∧ c.stage.session? = none
  /-- Nor is it if the clock cannot hold the deadline, whenever that is added to it. -/
  unrun : ∀ {k deadline isInside body} {c : Solo γ α},
    Solo.Reaches k deadline (.ask s isInside body) c → deadline.IsEndless →
      ∀ generation, c.stage ≠ .inside (.running generation)
  /-- With a deadline that the clock always holds, a session is opened or none is to be. -/
  opened : ∀ {k deadline isInside body after exit begun},
    Solo.Reaches (α := α) k deadline (.ask s isInside body) ⟨after, .ended exit, begun⟩ →
      deadline.IsBrief → exit ≠ .unopened
  /-- A call from inside a run is refused. -/
  refuses : ∀ k deadline body,
    Solo.Reaches (α := α) k deadline (.ask s true body)
      ⟨s, .ended (.answered (.error .reentrancy)), []⟩
  /-- Any other call comes to an end, where the session lock is free. -/
  serves : s.isLocked = false → ∀ k body deadline ceiling (engine : Engine α) c,
    Solo.Reaches k deadline (.ask s false body)
      ⟨s.withSite k ((s.site k).serve body deadline ceiling engine c).2,
        .ended ((s.site k).serve body deadline ceiling engine c).1, []⟩
  /-- However its run goes on, a call that finds the session lock free is never without a way to its
  end. -/
  completes : s.isLocked = false → ∀ {k deadline isInside body} {c : Solo γ α},
    Solo.Reaches k deadline (.ask s isInside body) c →
      ∃ d, Solo.Reaches k deadline c d ∧ d.stage.isEnded = true
  /-- After any calls the counters of a gate tell how its calls have ended. -/
  tally : ∀ {calls : List (Call γ α)} {after}, History s calls after → ∀ k,
    (s.gates k).counters.Tally k calls (after.gates k).counters ∧
      (after.gates k).pending = (s.gates k).pending

/-- Whatever a gate is asked, whatever its engines do, and whatever guard was installed by hand. -/
theorem Premises.accounts_for_calls (s : Premises γ) : s.AccountsForCalls α where
  ends course := by
    obtain ⟨site, rfl, ends⟩ := Solo.ends_of_reaches course
    rw [during_site]
    exact ⟨_, ends, fun _ h => h.fate_eq.symm⟩
  restores course := by
    obtain ⟨site, rfl, ends⟩ := Solo.ends_of_reaches course
    exact ⟨ends.live_eq, (congrArg (·.pending) during_gates_self).trans ends.pending_eq, rfl,
      fun _ other => during_gates_of_ne other⟩
  untouched course none_open := by
    obtain ⟨⟨site, isLocked, shared, moment⟩, -⟩ := Solo.IsAt.run course
    obtain ⟨guardian, session⟩ := moment.untouched none_open
    exact ⟨(congrArg (·.guardian) shared).trans guardian, session⟩
  unrun course endless generation running := by
    obtain ⟨⟨site, isLocked, -, moment⟩, -⟩ := Solo.IsAt.run course
    rw [running] at moment
    exact moment.not_running endless
  opened course brief unopened := by
    subst unopened
    obtain ⟨site, -, ends⟩ := Solo.ends_of_reaches course
    exact ends.not_brief brief
  refuses _ _ body := .single (.advance [] (.refuseInside s body))
  serves free k body := Solo.reaches_served s k free body
  completes free _ _ _ _ _ course := (Solo.IsAt.run course).completes free
  tally history k := ⟨history.tally k, history.pending_eq k⟩

/-- One call at a new gate with the longest deadline, which no clock can hold: it has no answer, and
its install is counted and no release, though no guard is left. -/
theorem Premises.endlessCall_unaccounted :
    let before : Premises Unit := ⟨fun _ => .ofPolicy .standard .standard [], false, .start⟩
    ∃ after : Premises Unit,
      Solo.Reaches (α := Unit) () .longest (.ask before false []) ⟨after, .ended .unopened, []⟩ ∧
      (after.gates ()).counters = { Counters.zero with installs := 1 } ∧
      after.guardian.live = none := by
  intro before
  have overrun : Instant.start.canAdd .longest = false :=
    Duration.isEndless_iff.1 Duration.longest_isEndless _
  exact ⟨_, Solo.reaches_unopened rfl (by decide) rfl rfl overrun, rfl, rfl⟩

end SourceGate
