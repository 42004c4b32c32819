import Mathlib.Logic.Function.Basic
import Mathlib.Logic.Relation
import SourceGate.Gate.Basic

/-! # Many requests at once

A process has any number of gates, one guard slot and one session lock. Whatever is under way in it
proceeds by deeds, each of which is a single change of what is shared: a counter that is raised or
lowered, the lock taken or given back, one call to the guard. Between two deeds of a request any
others may come.
-/

namespace SourceGate

/-- What everything under way in a process shares. -/
structure Premises (γ : Type) where
  gates : γ → Gate
  /-- Whether the session lock is taken. -/
  isLocked : Bool
  guardian : Guardian

/-- How far a request has come that has the session lock. -/
inductive Phase (α : Type) where
  | entered
  /-- Its guard is installed, and this is not counted yet. -/
  | installed (generation : Nat)
  /-- The install is counted, and the deadline is to be added to the clock. -/
  | opening (generation : Nat)
  /-- The opening unwinds, under its guard still. -/
  | unopened (generation : Nat)
  | running (generation : Nat)
  /-- The run has an outcome, or the thread that watches it unwinds. -/
  | stopped (generation : Nat) (outcome : Option (Outcome α))
  /-- Its guard is released, and this is not counted yet. -/
  | released (outcome : Option (Outcome α))
  | closed (outcome : Option (Outcome α))
  | leaving (exit : Exit α)

/-- How far a request has come. -/
inductive Stage (α : Type) where
  /-- Nothing is done yet; `isInside` when a run of this process asks. -/
  | asked (isInside : Bool) (body : List Tree.Stmt)
  | accepted
  /-- Counted among the pending requests, of which there were `previous` then. -/
  | raised (previous : Nat)
  /-- Not counted among them any more, since there were too many. -/
  | turnedAway
  /-- With a slot, before the session lock. -/
  | waiting
  | inside (phase : Phase α)
  /-- Behind the session lock, with the slot still. -/
  | freeing (exit : Exit α)
  | ended (exit : Exit α)

/-- The number of an open session: that of its guard, which is installed and not yet released. -/
def Phase.session? {α : Type} : Phase α → Option Nat
  | installed generation | opening generation | unopened generation | running generation
  | stopped generation _ => some generation
  | _ => none

namespace Stage

variable {α : Type}

def session? : Stage α → Option Nat
  | inside phase => phase.session?
  | _ => none

def holdsSlot : Stage α → Bool
  | waiting | inside _ | freeing _ => true
  | _ => false

def isEnded : Stage α → Bool
  | ended _ => true
  | _ => false

end Stage

/-- What can be under way in a process. -/
inductive Activity (γ α : Type) where
  | admission (gate : γ) (deadline : Duration) (stage : Stage α)
  /-- A guard that was installed by hand is held. -/
  | guard (generation : Nat) (policy : Policy)
  /-- The session lock was taken by hand and is held. -/
  | lock

namespace Activity

variable {γ α : Type}

/-- How far the request has come, if this is one at the gate. -/
def stageAt? [DecidableEq γ] (k : γ) : Activity γ α → Option (Stage α)
  | admission gate _ stage => if gate = k then some stage else none
  | _ => none

/-- The session that is open here: its gate, and the number of its guard. -/
def session? : Activity γ α → Option (γ × Nat)
  | admission gate _ stage => stage.session?.map (gate, ·)
  | _ => none

end Activity

namespace Gate

/-- The gate with one more pending request. -/
def raise (g : Gate) : Gate := { g with pending := g.pending + 1 }

/-- The gate with one pending request less. -/
def lower (g : Gate) : Gate := { g with pending := g.pending - 1 }

/-- The gate with other counters. -/
def count (g : Gate) (f : Counters → Counters) : Gate := { g with counters := f g.counters }

/-- The gate after a run has left its probe at `probe`. -/
def probedTo (g : Gate) (probe : Probe) : Gate := { g with probe }

end Gate

/-- The open sessions that a report tells, which looks at the installs first and at the releases
later. -/
def Counters.liveAcross (first later : Counters) : Nat := first.installs - later.releases

/-- One gate changed. -/
def Premises.atGate {γ : Type} [DecidableEq γ] (s : Premises γ) (k : γ) (f : Gate → Gate) :
    Premises γ :=
  { s with gates := Function.update s.gates k (f (s.gates k)) }

variable {γ α : Type} [DecidableEq γ]

open Stage Phase in
/-- What a request at a gate does next, that has so much time for its run. -/
inductive Advance (k : γ) (deadline : Duration) :
    Premises γ → Stage α → Premises γ → Stage α → Prop where
  -- It is judged.
  | refuseInside (s body) :
    Advance k deadline s (asked true body) s (ended (.answered (.error .reentrancy)))
  | reject {s body} (h : (Tree.violations (s.gates k).policy body).isEmpty = false) :
    Advance k deadline s (asked false body)
      (s.atGate k (·.count fun c => { c with rejected := c.rejected + 1 }))
      (ended (.answered (.error (.rejected (Tree.violations (s.gates k).policy body)))))
  | accept {s body} (h : (Tree.violations (s.gates k).policy body).isEmpty = true) :
    Advance k deadline s (asked false body) s accepted
  -- It asks for a slot.
  | raise (s) :
    Advance k deadline s accepted (s.atGate k (·.raise)) (raised (s.gates k).pending)
  | grant {s previous} (h : previous < (s.gates k).limits.maxPending) :
    Advance k deadline s (raised previous) s waiting
  | lower {s previous} (h : previous ≥ (s.gates k).limits.maxPending) :
    Advance k deadline s (raised previous) (s.atGate k (·.lower)) turnedAway
  | turnAway (s) :
    Advance k deadline s turnedAway
      (s.atGate k (·.count fun c => { c with overloaded := c.overloaded + 1 }))
      (ended (.answered (.error (.overloaded (s.gates k).limits.maxPending))))
  -- It opens a session.
  | enter {s} (h : s.isLocked = false) :
    Advance k deadline s waiting { s with isLocked := true } (inside entered)
  | install {s generation guardian}
      (h : s.guardian.install (s.gates k).policy = (.ok generation, guardian)) :
    Advance k deadline s (inside entered) { s with guardian } (inside (installed generation))
  | refuseInstall {s refusal guardian}
      (h : s.guardian.install (s.gates k).policy = (.error refusal, guardian)) :
    Advance k deadline s (inside entered) { s with guardian }
      (inside (leaving (.answered (.error refusal))))
  | countInstall (s generation) :
    Advance k deadline s (inside (installed generation))
      (s.atGate k (·.count fun c => { c with installs := c.installs + 1 }))
      (inside (opening generation))
  | begin (s generation) {now : Instant} (h : now.canAdd deadline = true) :
    Advance k deadline s (inside (opening generation)) s (inside (running generation))
  -- Or the clock cannot hold its deadline. Only what a session does at its end counts a release.
  | overrun (s generation) {now : Instant} (h : now.canAdd deadline = false) :
    Advance k deadline s (inside (opening generation)) s (inside (unopened generation))
  | abandon (s generation) :
    Advance k deadline s (inside (unopened generation))
      { s with guardian := s.guardian.release generation } (inside (leaving .unopened))
  -- It closes the session.
  | stop (s generation outcome probe) :
    Advance k deadline s (inside (running generation)) (s.atGate k (·.probedTo probe))
      (inside (stopped generation outcome))
  | release (s generation outcome) :
    Advance k deadline s (inside (stopped generation outcome))
      { s with guardian := s.guardian.release generation } (inside (released outcome))
  | countRelease (s outcome) :
    Advance k deadline s (inside (released outcome))
      (s.atGate k (·.count fun c => { c with releases := c.releases + 1 }))
      (inside (closed outcome))
  | unwind (s) : Advance k deadline s (inside (closed none)) s (inside (leaving .unwound))
  | answer (s outcome) :
    Advance k deadline s (inside (closed (some outcome)))
      (s.atGate k (·.count fun c =>
        { c with admitted := if outcome.isCompleted then c.admitted + 1 else c.admitted }))
      (inside (leaving (.answered outcome.answer)))
  | leave (s exit) :
    Advance k deadline s (inside (leaving exit)) { s with isLocked := false } (freeing exit)
  | free (s exit) : Advance k deadline s (freeing exit) (s.atGate k (·.lower)) (ended exit)

/-- A deed: what is shared and what takes part, before and after. -/
inductive Deed :
    Premises γ → List (Activity γ α) → Premises γ → List (Activity γ α) → Prop where
  | ask (s k deadline isInside body) :
    Deed s [] s [.admission k deadline (.asked isInside body)]
  | advance {k deadline s stage s' stage'} (h : Advance k deadline s stage s' stage') :
    Deed s [.admission k deadline stage] s' [.admission k deadline stage']
  -- Anyone uses the guard and the session lock.
  | resolve (s generation path) :
    Deed s [] { s with guardian := (s.guardian.resolve generation path).2 } []
  | install {s policy generation guardian}
      (h : s.guardian.install policy = (.ok generation, guardian)) :
    Deed s [] { s with guardian } [.guard generation policy]
  | refuseInstall {s policy refusal guardian}
      (h : s.guardian.install policy = (.error refusal, guardian)) :
    Deed s [] { s with guardian } []
  | release (s generation policy) :
    Deed s [.guard generation policy] { s with guardian := s.guardian.release generation } []
  | lock {s} (h : s.isLocked = false) : Deed s [] { s with isLocked := true } [.lock]
  | unlock (s) : Deed s [.lock] { s with isLocked := false } []

/-- A process at a moment. -/
structure Process (γ α : Type) extends Premises γ where
  underWay : List (Activity γ α)

namespace Process

/-- How far the requests at a gate have come. -/
def stages (p : Process γ α) (k : γ) : List (Stage α) := p.underWay.filterMap (·.stageAt? k)

/-- The sessions that are open. -/
def sessions (p : Process γ α) : List (γ × Nat) := p.underWay.filterMap (·.session?)

/-- A process with new gates, in which nothing has happened. -/
def start (gates : γ → Policy × GateLimits × Probe) : Process γ α :=
  ⟨⟨fun k => .ofPolicy (gates k).1 (gates k).2.1 (gates k).2.2, false, .start⟩, []⟩

/-- One deed, of whatever has its turn. -/
inductive Step : Process γ α → Process γ α → Prop where
  | turn {s s' : Premises γ} {involved involved' : List (Activity γ α)} (before after)
      (deed : Deed s involved s' involved') :
    Step ⟨s, before ++ involved ++ after⟩ ⟨s', before ++ involved' ++ after⟩

/-- The processes that come of a process, in any number of steps. -/
def Reaches : Process γ α → Process γ α → Prop := Relation.ReflTransGen Step

end Process

end SourceGate
