import SourceGate.Gate.Process
import SourceGate.Proofs.Guard.Slot

/-! # What entering comes to

A request is judged, then it needs a slot, then a free guard slot, and then a deadline that the
clock can hold. What is measured of the memory has no part in that. A request with a brief deadline
always leaves with an answer, which is that of the run if a session is opened.
-/

namespace SourceGate

/-- The longest duration whose seconds fit a word. -/
def Duration.longest : Duration := ⟨Word.count * 1000000000 - 1⟩

theorem Duration.longest_isEndless : longest.IsEndless := by decide

/-- The gate with one more install. -/
def Gate.installed (g : Gate) : Gate := g.count fun c => { c with installs := c.installs + 1 }

/-- The gate with one more session open. -/
def Gate.opened (g : Gate) : Gate := g.raise.installed

namespace Site

variable {s : Site} {body : List Tree.Stmt}

theorem enter_of_rejected (h : (Tree.violations s.gate.policy body).isEmpty = false)
    (deadline : Duration) (ceiling : Nat) (now : Instant) :
    s.enter body deadline ceiling now =
      (.refused (.rejected (Tree.violations s.gate.policy body)),
        s.count fun c => { c with rejected := c.rejected + 1 }) := by
  simp [enter, h]

section Accepted

variable (silent : (Tree.violations s.gate.policy body).isEmpty = true)

include silent

theorem enter_of_full (full : s.gate.limits.maxPending ≤ s.gate.pending) (deadline : Duration)
    (ceiling : Nat) (now : Instant) :
    s.enter body deadline ceiling now =
      (.refused (.overloaded s.gate.limits.maxPending),
        s.count fun c => { c with overloaded := c.overloaded + 1 }) := by
  simp [enter, silent, full]

variable (room : s.gate.pending < s.gate.limits.maxPending)

include room

theorem enter_of_refused {refusal : Refusal} {guardian : Guardian}
    (h : s.guardian.install s.gate.policy = (.error refusal, guardian))
    (deadline : Duration) (ceiling : Nat) (now : Instant) :
    s.enter body deadline ceiling now = (.refused refusal, s) := by
  simp [enter, silent, Nat.not_le.2 room, h]

variable {generation : Nat} {guardian : Guardian}
  (installed : s.guardian.install s.gate.policy = (.ok generation, guardian))
  {deadline : Duration} {now : Instant}

include installed

theorem enter_of_canAdd (inTime : now.canAdd deadline = true) (ceiling : Nat) :
    s.enter body deadline ceiling now =
      (.opened ⟨generation, body, s.gate.limits.forRun deadline ceiling⟩,
        ⟨s.gate.opened, guardian⟩) := by
  simp [enter, silent, Nat.not_le.2 room, installed, inTime, count, Gate.opened, Gate.installed,
    Gate.raise, Gate.count]

theorem enter_of_overrun (overrun : now.canAdd deadline = false) (ceiling : Nat) :
    s.enter body deadline ceiling now =
      (.unopened, ⟨s.gate.installed, guardian.release generation⟩) := by
  simp [enter, silent, Nat.not_le.2 room, installed, overrun, count, Gate.installed, Gate.count]

end Accepted

variable {deadline : Duration} {ceiling : Nat} {now : Instant} {entered : Site}

/-- What has to be so where a session is opened. -/
structure OpensAs (s : Site) (body : List Tree.Stmt) (deadline : Duration) (ceiling : Nat)
    (session : Session) (entered : Site) : Prop where
  silent : (Tree.violations s.gate.policy body).isEmpty = true
  room : s.gate.pending < s.gate.limits.maxPending
  installed : s.guardian.install s.gate.policy = (.ok session.generation, entered.guardian)
  session : session = ⟨session.generation, body, s.gate.limits.forRun deadline ceiling⟩
  gate : entered.gate = s.gate.opened

theorem opensAs_of_enter {session : Session}
    (h : s.enter body deadline ceiling now = (.opened session, entered)) :
    s.OpensAs body deadline ceiling session entered := by
  cases silent : (Tree.violations s.gate.policy body).isEmpty with
  | false => cases (enter_of_rejected silent deadline ceiling now).symm.trans h
  | true =>
    rcases Nat.lt_or_ge s.gate.pending s.gate.limits.maxPending with room | full
    · rcases installed : s.guardian.install s.gate.policy with ⟨refusal | generation, guardian⟩
      · cases (enter_of_refused silent room installed deadline ceiling now).symm.trans h
      · cases inTime : now.canAdd deadline with
        | false => cases (enter_of_overrun silent room installed inTime ceiling).symm.trans h
        | true =>
          cases (enter_of_canAdd silent room installed inTime ceiling).symm.trans h
          exact ⟨silent, room, installed, rfl, rfl⟩
    · cases (enter_of_full silent full deadline ceiling now).symm.trans h

/-- Only a deadline that the clock cannot hold keeps a session from being opened. -/
theorem canAdd_of_enter_unopened
    (h : s.enter body deadline ceiling now = (.unopened, entered)) :
    now.canAdd deadline = false := by
  simp only [enter] at h
  split at h
  · cases h
  · split at h
    · cases h
    · split at h
      · cases h
      · split at h
        · cases h
        · next overrun => simpa using overrun

/-- The site with other samples to come. -/
def probing (s : Site) (probe : Probe) : Site := { s with gate := { s.gate with probe } }

theorem OpensAs.probing {session : Session} (h : s.OpensAs body deadline ceiling session entered)
    (probe : Probe) :
    (s.probing probe).OpensAs body deadline ceiling session (entered.probing probe) where
  silent := h.silent
  room := h.room
  installed := h.installed
  session := h.session
  gate := by
    rw [Site.probing, h.gate]
    rfl

theorem OpensAs.enter_eq {session : Session} (h : s.OpensAs body deadline ceiling session entered)
    (inTime : now.canAdd deadline = true) :
    s.enter body deadline ceiling now = (.opened session, entered) := by
  rw [enter_of_canAdd h.silent h.room h.installed inTime ceiling, ← h.gate, ← h.session]

end Site

/-! ## Serving -/

variable {α : Type}

/-- No run says that a gate is full. -/
theorem Outcome.answer_ne_overloaded (o : Outcome α) (maxPending : Nat) :
    o.answer ≠ .error (.overloaded maxPending) := by
  cases o with
  | faulted failure =>
    intro h
    cases told : (failure.causes.filterMap (·.refusal?)).find? (·.surfaces) with
    | none => simp [answer, Failure.surface, told] at h
    | some r =>
      have surfaces := List.find?_some told
      simp only [answer, Failure.surface, told, Option.getD_some, Except.error.injEq] at h
      rw [h] at surfaces
      cases surfaces
  | _ => nofun

/-- The program of an open session. -/
def Session.program (session : Session) (e : Engine α) : Program α :=
  (Namespace.load session.generation session.body).bind e

namespace Site

variable {s entered : Site} {body : List Tree.Stmt} {deadline : Duration} {ceiling : Nat}
  {e : Engine α} {c : Conditions}

/-- The run of an open session. -/
def running (s : Site) (session : Session) (e : Engine α) (c : Conditions) :
    Outcome α × Guardian × Probe :=
  session.limits.run c s.gate.probe (session.program e) s.guardian

theorem serve_of_enter {session : Session}
    (h : s.enter body deadline ceiling c.now = (.opened session, entered)) :
    (s.serve body deadline ceiling e c).1 = .answered (entered.running session e c).1.answer := by
  rw [serve, h]
  rfl

/-- A value comes from a run. -/
theorem opened_of_serve {value : α}
    (h : (s.serve body deadline ceiling e c).1 = .answered (.ok value)) :
    ∃ session entered, s.enter body deadline ceiling c.now = (.opened session, entered) ∧
      (entered.running session e c).1.answer = .ok value := by
  unfold serve at h
  split at h
  · cases h
  · cases h
  · next session entered opened => exact ⟨session, entered, opened, Exit.answered.inj h⟩

/-- A request is overloaded only where no slot is free. -/
theorem full_of_serve_overloaded {maxPending : Nat}
    (h : (s.serve body deadline ceiling e c).1 = .answered (.error (.overloaded maxPending))) :
    s.gate.limits.maxPending ≤ s.gate.pending := by
  by_contra room
  unfold serve at h
  split at h
  · next refusal entered refused =>
    cases h
    simp only [enter, ge_iff_le, room, if_false] at refused
    split at refused
    · cases refused
    · split at refused
      · next installed =>
        obtain ⟨-, rfl, -⟩ := Guardian.live_of_refused_install installed
        cases refused
      · split at refused <;> cases refused
  · cases h
  · exact Outcome.answer_ne_overloaded _ _ (Exit.answered.inj h)

/-- A request with a brief deadline is answered. -/
theorem exists_answered_of_isBrief (brief : deadline.IsBrief) (s : Site) (body : List Tree.Stmt)
    (ceiling : Nat) (e : Engine α) (c : Conditions) :
    ∃ answer, (s.serve body deadline ceiling e c).1 = .answered answer := by
  unfold serve
  split
  · exact ⟨_, rfl⟩
  · next h => exact absurd brief (Duration.not_isBrief (canAdd_of_enter_unopened h))
  · exact ⟨_, rfl⟩

/-! ## Analyzing -/

variable {source target : String}

theorem analyze_of_malformed {fault : SyntaxError} (h : Tree.ofText source = .error fault) :
    s.analyze source target c =
      (.answered (.error (.malformed fault.cause.message fault.place)), s) := by
  unfold analyze serveText
  rw [h]

theorem analyze_of_parsed (h : Tree.ofText source = .ok body) :
    s.analyze source target c = s.serve body s.gate.limits.deadline s.gate.limits.memoryCeiling
      (.inventory target) c := by
  unfold analyze serveText
  rw [h]

/-- What is answered to a source that is not malformed comes of its tree. -/
theorem exists_parsed_of_analyze {answer : Except Refusal Inventory}
    (h : (s.analyze source target c).1 = .answered answer)
    (sound : ∀ message place, answer ≠ .error (.malformed message place)) :
    ∃ body, Tree.ofText source = .ok body ∧
      (s.serve body s.gate.limits.deadline s.gate.limits.memoryCeiling (.inventory target) c).1 =
        .answered answer := by
  cases parsed : Tree.ofText source with
  | error fault =>
    rw [analyze_of_malformed parsed] at h
    exact absurd (Exit.answered.inj h).symm (sound _ _)
  | ok body => exact ⟨body, rfl, analyze_of_parsed parsed ▸ h⟩

theorem exists_answered_of_analyze (brief : s.gate.limits.deadline.IsBrief)
    (source target : String) (c : Conditions) :
    ∃ answer, (s.analyze source target c).1 = .answered answer := by
  cases parsed : Tree.ofText source with
  | error fault => exact ⟨_, congrArg Prod.fst (analyze_of_malformed parsed)⟩
  | ok body =>
    rw [analyze_of_parsed parsed]
    exact exists_answered_of_isBrief brief _ _ _ _ _

end Site

end SourceGate
