import SourceGate.Proofs.Gate.Undisturbed

/-! # The moments of a call

A call that nobody disturbs passes through the same moments, whatever its run does. At each of them
its gate, the guard slot and the session lock are as the call found them, but for what it has taken
since. When it has ended nothing of that is left, and the counters say how it ended; a session that
could not be opened is left among the installs.
-/

namespace SourceGate

/-- The ways in which a call of a gate can end. -/
inductive Fate where
  /-- It came from inside a run. -/
  | nested
  /-- It was judged and rejected. -/
  | rejected
  /-- There was no slot for it. -/
  | crowded
  /-- A guard was live that was not its own. -/
  | occupied
  /-- It had a session. -/
  | session
  /-- It had a guard of its own, and the clock could not hold the deadline of its session. -/
  | unopened
  deriving DecidableEq, Repr

namespace Exit

variable {α : Type}

/-- The answer is a value. -/
def isAdmitted (exit : Exit α) : Bool := exit.answer?.any (·.isOk)

/-- A session was opened if one was to be. -/
def hasOpened : Exit α → Bool
  | unopened => false
  | _ => true

/-- How a request leaves its session. -/
def ofOutcome? : Option (Outcome α) → Exit α
  | some outcome => answered outcome.answer
  | none => unwound

@[simp] theorem hasOpened_ofOutcome? (outcome : Option (Outcome α)) :
    (ofOutcome? outcome).hasOpened = true := by
  cases outcome <;> rfl

end Exit

/-- The gate after a session: one more install and release, and one more admission if it had a
value. -/
def Gate.afterSession {α : Type} (g : Gate) (probe : Probe) (exit : Exit α) : Gate :=
  { g with
    probe
    counters :=
      { g.counters with
        installs := g.counters.installs + 1
        releases := g.counters.releases + 1
        admitted := g.counters.admitted + exit.isAdmitted.toNat } }

/-- The gate after a session, once its value is counted. -/
theorem Gate.count_admitted {α : Type} (g : Gate) (probe : Probe) (outcome : Outcome α) :
    (g.afterSession (α := α) probe .unwound).raise.count (fun c =>
        { c with admitted := if outcome.isCompleted then c.admitted + 1 else c.admitted }) =
      (g.afterSession probe (.answered outcome.answer)).raise := by
  cases outcome <;> rfl

namespace Site

variable {α : Type}

/-- How a call ends that comes to the site, by whether its session can be opened. -/
def fate (s : Site) (isInside : Bool) (body : List Tree.Stmt) (canOpen : Bool) : Fate :=
  if isInside then .nested
  else if !Tree.accepts s.gate.policy body then .rejected
  else if s.gate.pending ≥ s.gate.limits.maxPending then .crowded
  else if s.guardian.isInstalled then .occupied
  else if canOpen then .session
  else .unopened

/-- A module that a slot is granted to. -/
structure Grants (s : Site) (body : List Tree.Stmt) : Prop where
  accepted : Tree.accepts s.gate.policy body = true
  room : s.gate.pending < s.gate.limits.maxPending

/-- A module that a guard is installed for. -/
structure Installs (s : Site) (body : List Tree.Stmt) : Prop extends s.Grants body where
  empty : s.guardian.live = none

/-- A module that a session is opened for: some clocks can hold its deadline. -/
structure Opens (s : Site) (deadline : Duration) (body : List Tree.Stmt) : Prop
    extends s.Installs body where
  inTime : ¬ deadline.IsEndless

/-- The ends of a call, each with what has to be so when the call comes, with the way in which it
leaves, and with the site after it. -/
inductive Ends (s : Site) (deadline : Duration) :
    Bool → List Tree.Stmt → Fate → Exit α → Site → Prop where
  | nested (body) : Ends s deadline true body .nested (.answered (.error .reentrancy)) s
  | rejected {body} (found : Tree.accepts s.gate.policy body = false) :
    Ends s deadline false body .rejected
      (.answered (.error (.rejected (Tree.violations s.gate.policy body))))
      (s.count fun c => { c with rejected := c.rejected + 1 })
  | crowded {body} (accepted : Tree.accepts s.gate.policy body = true)
      (full : s.gate.limits.maxPending ≤ s.gate.pending) :
    Ends s deadline false body .crowded
      (.answered (.error (.overloaded s.gate.limits.maxPending)))
      (s.count fun c => { c with overloaded := c.overloaded + 1 })
  | occupied {body} (granted : s.Grants body) (live : s.guardian.live.isSome = true) :
    Ends s deadline false body .occupied (.answered (.error .reentrancy)) s
  | session {body} (opens : s.Opens deadline body) (probe outcome) :
    Ends s deadline false body .session (.ofOutcome? outcome)
      ⟨s.gate.afterSession probe (.ofOutcome? outcome), ⟨none, s.guardian.issued + 1⟩⟩
  | unopened {body} (installs : s.Installs body) (overrun : ¬ deadline.IsBrief) :
    Ends s deadline false body .unopened .unopened
      ⟨s.gate.installed, ⟨none, s.guardian.issued + 1⟩⟩

/-- The site with a slot taken. -/
def raise (s : Site) : Site := ⟨s.gate.raise, s.guardian⟩

/-- The guard slot during a session, by what its run has resolved. -/
def guarded (s : Site) (log : List String) : Guardian :=
  ⟨some ⟨s.guardian.issued + 1, s.gate.policy, log⟩, s.guardian.issued + 1⟩

/-- The guard of a session is released by its number. -/
theorem release_guarded (s : Site) (log : List String) :
    (s.guarded log).release (s.guardian.issued + 1) = ⟨none, s.guardian.issued + 1⟩ :=
  Guardian.release_of_live (Guardian.liveAs_eq_some_iff.2 ⟨rfl, rfl⟩)

/-- The site before a call, and at a moment of it with the session lock and the stage of the
call. -/
inductive Moment (s : Site) (deadline : Duration) (wasLocked : Bool) :
    Bool → List Tree.Stmt → Site → Bool → Stage α → Prop where
  | asked (isInside body) :
    Moment s deadline wasLocked isInside body s wasLocked (.asked isInside body)
  | accepted {body} (accepted : Tree.accepts s.gate.policy body = true) :
    Moment s deadline wasLocked false body s wasLocked .accepted
  | raised {body} (accepted : Tree.accepts s.gate.policy body = true) :
    Moment s deadline wasLocked false body s.raise wasLocked (.raised s.gate.pending)
  | turnedAway {body} (accepted : Tree.accepts s.gate.policy body = true)
      (full : s.gate.limits.maxPending ≤ s.gate.pending) :
    Moment s deadline wasLocked false body s wasLocked .turnedAway
  | waiting {body} (granted : s.Grants body) :
    Moment s deadline wasLocked false body s.raise wasLocked .waiting
  -- From here on the call has the session lock, which it found free.
  | entered {body} (granted : s.Grants body) (free : wasLocked = false) :
    Moment s deadline wasLocked false body s.raise true (.inside .entered)
  | installed {body} (installs : s.Installs body) (free : wasLocked = false) :
    Moment s deadline wasLocked false body ⟨s.gate.raise, s.guarded []⟩ true
      (.inside (.installed (s.guardian.issued + 1)))
  | opening {body} (installs : s.Installs body) (free : wasLocked = false) :
    Moment s deadline wasLocked false body ⟨s.gate.opened, s.guarded []⟩ true
      (.inside (.opening (s.guardian.issued + 1)))
  | unopened {body} (installs : s.Installs body) (overrun : ¬ deadline.IsBrief)
      (free : wasLocked = false) :
    Moment s deadline wasLocked false body ⟨s.gate.opened, s.guarded []⟩ true
      (.inside (.unopened (s.guardian.issued + 1)))
  | running {body} (opens : s.Opens deadline body) (free : wasLocked = false) (log) :
    Moment s deadline wasLocked false body ⟨s.gate.opened, s.guarded log⟩ true
      (.inside (.running (s.guardian.issued + 1)))
  | stopped {body} (opens : s.Opens deadline body) (free : wasLocked = false)
      (log probe outcome) :
    Moment s deadline wasLocked false body ⟨s.gate.opened.probedTo probe, s.guarded log⟩ true
      (.inside (.stopped (s.guardian.issued + 1) outcome))
  | released {body} (opens : s.Opens deadline body) (free : wasLocked = false)
      (probe outcome) :
    Moment s deadline wasLocked false body
      ⟨s.gate.opened.probedTo probe, ⟨none, s.guardian.issued + 1⟩⟩ true
      (.inside (.released outcome))
  -- The session is counted as one without a value until its answer is known.
  | closed {body} (opens : s.Opens deadline body) (free : wasLocked = false) (probe outcome) :
    Moment s deadline wasLocked false body
      ⟨(s.gate.afterSession (α := α) probe .unwound).raise, ⟨none, s.guardian.issued + 1⟩⟩ true
      (.inside (.closed outcome))
  | leaving {body fate exit after} (ends : s.Ends deadline false body fate exit after)
      (free : wasLocked = false) :
    Moment s deadline wasLocked false body after.raise true (.inside (.leaving exit))
  | freeing {body fate exit after} (ends : s.Ends deadline false body fate exit after) :
    Moment s deadline wasLocked false body after.raise wasLocked (.freeing exit)
  | ended {isInside body fate exit after}
      (ends : s.Ends deadline isInside body fate exit after) :
    Moment s deadline wasLocked isInside body after wasLocked (.ended exit)

variable {s after : Site} {deadline : Duration} {isInside : Bool} {body : List Tree.Stmt}
  {fate : Fate} {exit : Exit α}

theorem Installs.fate_eq (installs : s.Installs body) (canOpen : Bool) :
    s.fate false body canOpen = if canOpen then .session else .unopened := by
  simp [Site.fate, installs.accepted, Nat.not_le.2 installs.room, Guardian.isInstalled,
    installs.empty]

/-- The call says how it ends when it comes, but for what the clock says of its deadline. -/
theorem Ends.fate_eq (h : s.Ends deadline isInside body fate exit after) :
    s.fate isInside body exit.hasOpened = fate := by
  cases h with
  | nested => rfl
  | rejected found => simp [Site.fate, found]
  | crowded accepted full => simp [Site.fate, accepted, full]
  | occupied granted live =>
    simp [Site.fate, granted.accepted, Nat.not_le.2 granted.room, Guardian.isInstalled, live]
  | session opens => simp [opens.fate_eq]
  | unopened installs => exact installs.fate_eq false

/-- A module is judged first, also where there is neither a slot nor a free guard. -/
example :
    (⟨.ofPolicy .standard { GateLimits.standard with maxPending := 0 } [],
      ⟨some ⟨1, .standard, []⟩, 1⟩⟩ : Site).fate false [.unsupported ⟨1, 1⟩] true = .rejected := by
  decide

/-- A call ends without a guard of its own if it would whatever the clock says. -/
theorem Ends.guardian_eq (h : s.Ends deadline isInside body fate exit after)
    (none_open : s.fate isInside body true ≠ .session) : after.guardian = s.guardian := by
  cases h with
  | session opens => exact absurd (opens.fate_eq true) none_open
  | unopened installs => exact absurd (installs.fate_eq true) none_open
  | _ => rfl

theorem Ends.not_brief (h : s.Ends (α := α) deadline isInside body fate .unopened after) :
    ¬ deadline.IsBrief := by
  generalize left : (Exit.unopened : Exit α) = exit at h
  cases h with
  | session =>
    have opened := congrArg Exit.hasOpened left
    rw [Exit.hasOpened_ofOutcome?] at opened
    cases opened
  | unopened _ overrun => exact overrun
  | _ => cases left

/-- A call leaves the guard slot as it found it. -/
theorem Ends.live_eq (h : s.Ends deadline isInside body fate exit after) :
    after.guardian.live = s.guardian.live := by
  cases h with
  | session opens => exact opens.empty.symm
  | unopened installs => exact installs.empty.symm
  | _ => rfl

/-- A call leaves as many slots taken as it found. -/
theorem Ends.pending_eq (h : s.Ends deadline isInside body fate exit after) :
    after.gate.pending = s.gate.pending := by
  cases h <;> rfl

/-- A call that is to have no session never changes the guard slot, and runs no engine. -/
theorem Moment.untouched {wasLocked isLocked : Bool} {site : Site} {stage : Stage α}
    (m : s.Moment deadline wasLocked isInside body site isLocked stage)
    (none_open : s.fate isInside body true ≠ .session) :
    site.guardian = s.guardian ∧ stage.session? = none := by
  cases m with
  | installed installs | opening installs | unopened installs =>
    exact absurd (installs.fate_eq true) none_open
  | running opens | stopped opens | released opens | closed opens =>
    exact absurd (opens.fate_eq true) none_open
  | leaving ends | freeing ends | ended ends => exact ⟨ends.guardian_eq none_open, rfl⟩
  | _ => exact ⟨rfl, rfl⟩

/-- A call with an endless deadline runs no engine. -/
theorem Moment.not_running {wasLocked isLocked : Bool} {site : Site} {generation : Nat}
    (m : s.Moment deadline wasLocked isInside body site isLocked
      (.inside (.running generation) : Stage α)) : ¬ deadline.IsEndless := by
  cases m with
  | running opens => exact opens.inTime

end Site

/-! ## Deeds of the call and of its run -/

section Deeds

variable {γ α : Type} [DecidableEq γ] {s : Premises γ} {k : γ} {deadline : Duration} {site : Site}
  {isLocked : Bool}

/-- What is shared when a gate is as in a site. -/
def Premises.during (s : Premises γ) (k : γ) (site : Site) (isLocked : Bool) : Premises γ :=
  { s.withSite k site with isLocked }

@[simp] theorem Premises.during_gates_self : (s.during k site isLocked).gates k = site.gate := by
  simp [during, withSite]

theorem Premises.during_gates_of_ne {j : γ} (h : j ≠ k) :
    (s.during k site isLocked).gates j = s.gates j := by
  simp [during, withSite, h]

@[simp] theorem Premises.during_site : (s.during k site isLocked).site k = site := by
  simp [during, withSite, Premises.site]

theorem Premises.during_atGate (f : Gate → Gate) :
    (s.during k site isLocked).atGate k f =
      s.during k ⟨f site.gate, site.guardian⟩ isLocked := by
  simp [during, withSite, atGate]

theorem Premises.during_self (s : Premises γ) (k : γ) :
    s.during k (s.site k) s.isLocked = s := by
  simp [during, withSite, Premises.site]

namespace Site

variable {start : Site} {wasLocked isInside : Bool} {body : List Tree.Stmt}
  {s' : Premises γ} {stage stage' : Stage α}

/-- Each deed of a call takes it to its next moment. -/
theorem Moment.advance (m : start.Moment deadline wasLocked isInside body site isLocked stage)
    (h : Advance k deadline (s.during k site isLocked) stage s' stage') :
    ∃ site' isLocked', s' = s.during k site' isLocked' ∧
      start.Moment deadline wasLocked isInside body site' isLocked' stage' := by
  cases m with
  | asked =>
    cases h with
    | refuseInside => exact ⟨_, _, rfl, .ended (.nested _)⟩
    | reject found =>
      rw [Premises.during_gates_self] at found
      refine ⟨_, _, Premises.during_atGate _, ?_⟩
      rw [Premises.during_gates_self]
      exact .ended (.rejected found)
    | accept silent =>
      rw [Premises.during_gates_self] at silent
      exact ⟨_, _, rfl, .accepted silent⟩
  | accepted accepted =>
    cases h with
    | raise =>
      refine ⟨_, _, Premises.during_atGate _, ?_⟩
      rw [Premises.during_gates_self]
      exact .raised accepted
  | raised accepted =>
    cases h with
    | grant room =>
      rw [Premises.during_gates_self] at room
      exact ⟨_, _, rfl, .waiting ⟨accepted, room⟩⟩
    | lower full =>
      rw [Premises.during_gates_self] at full
      exact ⟨_, _, Premises.during_atGate _, .turnedAway accepted full⟩
  | turnedAway accepted full =>
    cases h with
    | turnAway =>
      refine ⟨_, _, Premises.during_atGate _, ?_⟩
      rw [Premises.during_gates_self]
      exact .ended (.crowded accepted full)
  | waiting granted =>
    cases h with
    | enter free => exact ⟨_, _, rfl, .entered granted free⟩
  | entered granted free =>
    cases h with
    | install installed =>
      rw [Premises.during_gates_self] at installed
      have empty := (Guardian.live_of_install installed).1
      cases (Guardian.install_of_empty _ empty).symm.trans installed
      exact ⟨_, _, rfl, .installed ⟨granted, empty⟩ free⟩
    | refuseInstall refused =>
      obtain ⟨live, rfl, rfl⟩ := Guardian.live_of_refused_install refused
      exact ⟨_, _, rfl, .leaving (.occupied granted live) free⟩
  | installed installs free =>
    cases h with
    | countInstall => exact ⟨_, _, Premises.during_atGate _, .opening installs free⟩
  | opening installs free =>
    cases h with
    | begin _ inTime =>
      exact ⟨_, _, rfl, .running ⟨installs, Duration.not_isEndless inTime⟩ free []⟩
    | overrun _ overrun =>
      exact ⟨_, _, rfl, .unopened installs (Duration.not_isBrief overrun) free⟩
  | unopened installs overrun free =>
    cases h with
    | abandon =>
      refine ⟨_, _, ?_, .leaving (.unopened installs overrun) free⟩
      exact congrArg (fun guardian => s.during k ⟨start.gate.opened, guardian⟩ true)
        (start.release_guarded [])
  | running opens free log =>
    cases h with
    | stop => exact ⟨_, _, Premises.during_atGate _, .stopped opens free log _ _⟩
  | stopped opens free log probe outcome =>
    cases h with
    | release =>
      refine ⟨_, _, ?_, .released opens free probe outcome⟩
      exact congrArg (fun guardian => s.during k ⟨start.gate.opened.probedTo probe, guardian⟩ true)
        (start.release_guarded log)
  | released opens free probe outcome =>
    cases h with
    | countRelease => exact ⟨_, _, Premises.during_atGate _, .closed opens free probe outcome⟩
  | closed opens free probe outcome =>
    cases h with
    | unwind => exact ⟨_, _, rfl, .leaving (.session opens probe none) free⟩
    | answer outcome =>
      refine ⟨_, _, Premises.during_atGate _, ?_⟩
      have counted := Gate.count_admitted start.gate probe outcome
      rw [counted]
      exact .leaving (.session opens probe (some outcome)) free
  | leaving ends free =>
    cases h with
    | leave =>
      subst free
      exact ⟨_, _, rfl, .freeing ends⟩
  | freeing ends =>
    cases h with
    | free => exact ⟨_, _, Premises.during_atGate _, .ended ends⟩
  | ended => cases h

/-- A call that has not ended has a deed left, if it finds the session lock free. -/
theorem Moment.progress (m : start.Moment deadline false isInside body site isLocked stage)
    (under_way : stage.isEnded = false) :
    ∃ s' stage', Advance k deadline (s.during k site isLocked) stage s' stage' := by
  cases m with
  | asked =>
    cases isInside with
    | true => exact ⟨_, _, .refuseInside _ _⟩
    | false =>
      cases silent : Tree.accepts site.gate.policy body with
      | false => exact ⟨_, _, .reject (by rwa [Premises.during_gates_self])⟩
      | true => exact ⟨_, _, .accept (by rwa [Premises.during_gates_self])⟩
  | accepted => exact ⟨_, _, .raise _⟩
  | raised =>
    rcases Nat.lt_or_ge start.gate.pending start.gate.limits.maxPending with room | full
    · exact ⟨_, _, .grant (by rwa [Premises.during_gates_self])⟩
    · exact ⟨_, _, .lower (by rwa [Premises.during_gates_self])⟩
  | turnedAway => exact ⟨_, _, .turnAway _⟩
  | waiting => exact ⟨_, _, .enter rfl⟩
  | entered =>
    rcases installed : start.guardian.install start.gate.policy with
      ⟨refusal | generation, guardian⟩
    · exact ⟨_, _, .refuseInstall (by rwa [Premises.during_gates_self])⟩
    · exact ⟨_, _, .install (by rwa [Premises.during_gates_self])⟩
  | installed => exact ⟨_, _, .countInstall _ _⟩
  | opening =>
    cases inTime : Instant.start.canAdd deadline with
    | true => exact ⟨_, _, .begin _ _ inTime⟩
    | false => exact ⟨_, _, .overrun _ _ inTime⟩
  | unopened => exact ⟨_, _, .abandon _ _⟩
  | running => exact ⟨_, _, .stop _ _ none []⟩
  | stopped => exact ⟨_, _, .release _ _ _⟩
  | released => exact ⟨_, _, .countRelease _ _⟩
  | closed _ _ _ outcome =>
    cases outcome with
    | none => exact ⟨_, _, .unwind _⟩
    | some outcome => exact ⟨_, _, .answer _ outcome⟩
  | leaving => exact ⟨_, _, .leave _ _⟩
  | freeing => exact ⟨_, _, .free _ _⟩
  | ended => cases under_way

end Site

/-- The deeds that a request has left with the session lock, at most. -/
def Phase.rank : Phase α → Nat
  | entered => 9
  | installed _ => 8
  | opening _ => 7
  | running _ => 6
  | stopped _ _ => 5
  | released _ => 4
  | closed _ | unopened _ => 3
  | leaving _ => 2

/-- The deeds that a request has left, at most. -/
def Stage.rank : Stage α → Nat
  | asked _ _ => 13
  | accepted => 12
  | raised _ => 11
  | turnedAway | waiting => 10
  | inside phase => phase.rank
  | freeing _ => 1
  | ended _ => 0

theorem Advance.rank_lt {s' : Premises γ} {stage stage' : Stage α}
    (h : Advance k deadline s stage s' stage') : stage'.rank < stage.rank := by
  cases h <;> simp [Stage.rank, Phase.rank]

/-- A call from inside a run, before and after it is refused. -/
def Activity.IsNested : Activity γ α → Prop
  | admission _ _ (.asked isInside _) => isInside = true
  | admission _ _ (.ended exit) => exit = .answered (.error .reentrancy)
  | _ => False

/-- While a guard is live and the session lock is taken, one who holds neither resolves modules and
does nothing else to what is shared. -/
theorem Deed.of_nested {s' : Premises γ} {involved involved' : List (Activity γ α)}
    (h : Deed s involved s' involved') (locked : s.isLocked = true)
    (live : s.guardian.live.isSome = true) (own : ∀ a ∈ involved, a.IsNested)
    (inside : ∀ j deadline body, .admission j deadline (.asked false body) ∉ involved') :
    (∃ paths, s' = { s with guardian := s.guardian.noting paths }) ∧
      ∀ a ∈ involved', a.IsNested := by
  have same : ∃ paths, s = { s with guardian := s.guardian.noting paths } := ⟨[], by simp⟩
  cases h with
  | ask _ j deadline isInside body =>
    refine ⟨same, List.forall_mem_singleton.2 ?_⟩
    cases isInside with
    | true => rfl
    | false => exact absurd List.mem_cons_self (inside j deadline body)
  | @advance j _ _ stage _ stage' h =>
    have nested := own _ List.mem_cons_self
    cases h with
    | refuseInside => exact ⟨same, List.forall_mem_singleton.2 rfl⟩
    | reject | accept => cases nested
    | _ => exact nested.elim
  | resolve _ generation path =>
    refine ⟨?_, by simp⟩
    rcases s.guardian.resolve_cases generation path with unchanged | ⟨guard, live, noted⟩
    · rw [unchanged]
      exact same
    · exact ⟨[path], by simp [noted, Guardian.noting, live]⟩
  | install installed =>
    rw [(Guardian.live_of_install installed).1] at live
    cases live
  | refuseInstall refused =>
    rw [Guardian.eq_of_refused_install refused]
    exact ⟨same, by simp⟩
  | release => exact (own _ List.mem_cons_self).elim
  | lock free => exact absurd locked (by simp [free])
  | unlock => exact (own _ List.mem_cons_self).elim

end Deeds

end SourceGate
