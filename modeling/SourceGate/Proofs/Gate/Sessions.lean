import SourceGate.Proofs.Gate.Undisturbed

/-! # One session at a time

Whoever has an open session has the session lock, so there is one session at most, and the live
guard is its own. The counters of a gate therefore never tell of more than one session beside those
that could not be opened, also to a reader who looks at one of them earlier than at the other. What
could not be opened stays among the installs for good; only deadlines that are not brief do that.
-/

namespace SourceGate

namespace Process

variable {γ α : Type} [DecidableEq γ] {p : Process γ α}

/-- The requests at a gate that were left, or are about to be, by an opening that unwound. -/
def unopened (p : Process γ α) (k : γ) : Nat := (p.stages k).countP Stage.isUnopened

/-- What holds of a process at every moment. -/
structure Guarded (p : Process γ α) : Prop where
  one_session : p.sessions.length ≤ 1
  /-- The live guard is that of the open session, with the policy of the session's gate. -/
  own_guard : ∀ k generation, (k, generation) ∈ p.sessions → ∃ guard,
    p.guardian.live = some guard ∧ guard.generation = generation ∧
      guard.policy = (p.gates k).policy
  slots : ∀ k, (p.stages k).countP Stage.holdsSlot ≤ (p.gates k).limits.maxPending
  counters : ∀ k,
    (p.gates k).counters.releases + p.unopened k ≤ (p.gates k).counters.installs ∧
    (p.gates k).counters.installs ≤ (p.gates k).counters.releases + p.unopened k + 1
  /-- A report that begins now tells of one session or of none, beside those that unwound. -/
  report : ∀ q, Reaches p q → ∀ k,
    (p.gates k).counters.liveAcross (q.gates k).counters ≤ p.unopened k + 1
  /-- When no admission is in progress at a gate, nothing is left of those before but installs of
  sessions that could not be opened. -/
  quiet : ∀ k, (∀ stage ∈ p.stages k, stage.isEnded = true) →
    (p.gates k).counters.installs = (p.gates k).counters.releases + p.unopened k ∧
      (p.gates k).pending = 0
  /-- There are none of those at a gate that is asked with brief deadlines alone. -/
  opened : ∀ k,
    (∀ deadline stage, .admission k deadline stage ∈ p.underWay → deadline.IsBrief) →
      p.unopened k = 0

/-! ## Who has the session lock -/

namespace Balanced

theorem countP_holdsLock_le (balanced : p.Balanced) :
    p.underWay.countP Activity.holdsLock ≤ 1 := by
  rw [← balanced.lock]
  exact p.isLocked.toNat_le

theorem one_session (balanced : p.Balanced) : p.sessions.length ≤ 1 := by
  have holds_lock (a : Activity γ α) (open_here : a.session?.isSome = true) :
      a.holdsLock = true := by
    cases a with
    | admission k deadline stage =>
      cases stage with
      | inside phase => rfl
      | _ => cases open_here
    | guard | lock => cases open_here
  rw [sessions, List.length_filterMap_eq_countP]
  exact Nat.le_trans (List.countP_mono_left fun a _ => holds_lock a) balanced.countP_holdsLock_le

theorem countP_isCounted_le (balanced : p.Balanced) (k : γ) :
    (p.stages k).countP Stage.isCounted ≤ 1 := by
  rw [stages, List.countP_filterMap]
  refine Nat.le_trans (List.countP_mono_left fun a _ counted => ?_) balanced.countP_holdsLock_le
  cases a with
  | admission gate _ stage =>
    simp only [Activity.stageAt?] at counted
    split at counted
    · cases stage with
      | inside phase => rfl
      | _ => cases counted
    · cases counted
  | guard | lock => cases counted

theorem own_guard (balanced : p.Balanced) {k : γ} {generation : Nat}
    (h : (k, generation) ∈ p.sessions) :
    ∃ guard, p.guardian.live = some guard ∧ guard.generation = generation ∧
      guard.policy = (p.gates k).policy := by
  obtain ⟨a, under_way, open_here⟩ := List.mem_filterMap.1 h
  have held : a.held? p.policies = some (generation, (p.gates k).policy) := by
    cases a with
    | admission gate _ stage =>
      obtain ⟨number, session, same⟩ := Option.map_eq_some_iff.1 open_here
      cases same
      simp [Activity.held?, session, Premises.policies]
    | guard | lock => cases open_here
  have member := List.mem_filterMap.2 ⟨a, under_way, held⟩
  rw [← balanced.guard, Guardian.held, Option.mem_toList, Option.map_eq_some_iff] at member
  obtain ⟨guard, live, same⟩ := member
  exact ⟨guard, live, congrArg Prod.fst same, congrArg Prod.snd same⟩

theorem slots (balanced : p.Balanced) (k : γ) :
    (p.stages k).countP Stage.holdsSlot ≤ (p.gates k).limits.maxPending := by
  refine Nat.le_trans (List.countP_mono_left fun stage _ slot => ?_) (balanced.gates k).room
  cases stage <;> first | exact slot | cases slot

theorem counters (balanced : p.Balanced) (k : γ) :
    (p.gates k).counters.releases + p.unopened k ≤ (p.gates k).counters.installs ∧
      (p.gates k).counters.installs ≤ (p.gates k).counters.releases + p.unopened k + 1 := by
  have installs := (balanced.gates k).installs
  have one := balanced.countP_isCounted_le k
  rw [unopened]
  omega

theorem countP_eq_zero_of_isEnded {stages : List (Stage α)} {test : Stage α → Bool}
    (ended : ∀ stage ∈ stages, stage.isEnded = true) (h : ∀ exit, test (.ended exit) = false) :
    stages.countP test = 0 := by
  rw [List.countP_eq_zero]
  intro stage member
  have ended := ended stage member
  cases stage with
  | ended exit => simp [h exit]
  | _ => cases ended

theorem quiet (balanced : p.Balanced) {k : γ} (h : ∀ stage ∈ p.stages k, stage.isEnded = true) :
    (p.gates k).counters.installs = (p.gates k).counters.releases + p.unopened k ∧
      (p.gates k).pending = 0 := by
  obtain ⟨pending, -, installs⟩ := balanced.gates k
  rw [countP_eq_zero_of_isEnded h fun _ => rfl] at pending
  rw [countP_eq_zero_of_isEnded h fun _ => rfl, Nat.zero_add] at installs
  exact ⟨installs, pending⟩

end Balanced

/-! ## Deadlines that a clock did not hold -/

end Process

variable {γ α : Type} [DecidableEq γ]

/-- In or after an opening that unwinds. -/
def Stage.isOverrun : Stage α → Bool
  | inside (.unopened _) => true
  | stage => stage.isUnopened

/-- If its opening unwinds, the deadline is not one that every clock holds. -/
def Activity.OverrunsRightly : Activity γ α → Prop
  | admission _ deadline stage => stage.isOverrun = true → ¬ deadline.IsBrief
  | _ => True

theorem Advance.overruns_rightly {s s' : Premises γ} {k : γ} {deadline : Duration}
    {stage stage' : Stage α} (h : Advance k deadline s stage s' stage')
    (rightly : stage.isOverrun = true → ¬ deadline.IsBrief)
    (overrun : stage'.isOverrun = true) : ¬ deadline.IsBrief := by
  cases h with
  | overrun _ late => exact Duration.not_isBrief late
  | abandon => exact rightly rfl
  | leave exit | free exit =>
    cases exit with
    | unopened => exact rightly rfl
    | _ => cases overrun
  | _ => cases overrun

theorem Deed.overruns_rightly {s s' : Premises γ} {involved involved' : List (Activity γ α)}
    (h : Deed s involved s' involved') (rightly : ∀ a ∈ involved, a.OverrunsRightly) :
    ∀ a ∈ involved', a.OverrunsRightly := by
  cases h with
  | advance h =>
    exact List.forall_mem_singleton.2 (h.overruns_rightly (rightly _ List.mem_cons_self))
  | _ => simp [Activity.OverrunsRightly, Stage.isOverrun, Stage.isUnopened]

namespace Process

variable {p q : Process γ α}

theorem overruns_rightly_of_reaches {gates : γ → Policy × GateLimits × Probe}
    (h : Reaches (start gates) p) : ∀ a ∈ p.underWay, a.OverrunsRightly := by
  induction h with
  | refl => simp [start]
  | tail _ step ih =>
    obtain ⟨before, after, deed⟩ := step
    simp only [List.forall_mem_append] at ih ⊢
    exact ⟨⟨ih.1.1, deed.overruns_rightly ih.1.2⟩, ih.2⟩

theorem unopened_eq_zero {k : γ} (rightly : ∀ a ∈ p.underWay, a.OverrunsRightly)
    (brief : ∀ deadline stage, .admission k deadline stage ∈ p.underWay → deadline.IsBrief) :
    p.unopened k = 0 := by
  rw [unopened, List.countP_eq_zero]
  intro stage member unopened
  obtain ⟨a, under_way, here⟩ := List.mem_filterMap.1 member
  cases a with
  | admission gate deadline other =>
    obtain ⟨rfl, same⟩ := Option.ite_none_right_eq_some.1 here
    cases same
    have overrun : stage.isOverrun = true := by
      unfold Stage.isOverrun
      split
      · rfl
      · exact unopened
    exact rightly _ under_way overrun (brief _ _ under_way)
  | _ => cases here

/-- Whatever requests come to whatever gates, and however their deeds and those of others follow one
another. -/
theorem guarded_of_reaches {gates : γ → Policy × GateLimits × Probe}
    (h : Reaches (start gates) p) : Guarded p := by
  have balanced := (balanced_start gates).run h
  refine ⟨balanced.one_session, fun _ _ => balanced.own_guard, balanced.slots, balanced.counters,
    fun q later k => ?_, fun k => balanced.quiet,
    fun k => unopened_eq_zero (overruns_rightly_of_reaches h)⟩
  have now := (balanced.counters k).2
  have grown := releases_le later k
  rw [Counters.liveAcross]
  omega

/-- Two gates, the first of which lets a single request wait or run. -/
def twoGates (k : Bool) : Policy × GateLimits × Probe :=
  (.standard, { GateLimits.standard with maxPending := if k then 1 else 16 }, [])

/-- A run is on at the first gate, and a second request there is about to be turned away: for now
both are counted among the pending. -/
def crowded : Process Bool Unit :=
  ⟨⟨Function.update (start (α := Unit) twoGates).gates true
      ⟨.standard, (twoGates true).2.1, [], 2, { Counters.zero with installs := 1 }⟩,
    true, ⟨some ⟨1, .standard, []⟩, 1⟩⟩,
    [.admission true (.ofMillis 1000) (.inside (.running 1)),
      .admission true (.ofMillis 1000) (.raised 1)]⟩

theorem reaches_crowded : Reaches (start twoGates) crowded := by
  have silent : (Tree.violations .standard []).isEmpty = true := rfl
  have inTime : Instant.start.canAdd (.ofMillis 1000) = true := by decide
  have first := reaches_running (p := (start twoGates : Process Bool Unit)) (k := true) silent
    (by decide) rfl rfl inTime
  have second := first.trans (reaches_raised (k := true) silent (.ofMillis 1000))
  simp only [withLast, Premises.atGate, Premises.withSite, Function.update_self,
    Function.update_idem] at second
  exact second

theorem crowded_guarded :
    Reaches (start twoGates) crowded ∧ crowded.sessions = [(true, 1)] ∧ Guarded crowded :=
  ⟨reaches_crowded, rfl, guarded_of_reaches reaches_crowded⟩

/-- After two requests with a deadline that no clock can hold, one after the other, no request is
under way and no guard is live, and the counters tell of two open sessions. -/
theorem endlessSessions_unreleased :
    ∃ p : Process Bool Unit, Reaches (start twoGates) p ∧
      (∀ stage ∈ p.stages true, stage.isEnded = true) ∧ p.sessions = [] ∧
      p.guardian.live = none ∧
      (p.gates true).counters = { Counters.zero with installs := 2 } ∧
      (p.gates true).counters.live = 2 := by
  have silent : (Tree.violations .standard []).isEmpty = true := rfl
  have overrun : Instant.start.canAdd .longest = false :=
    Duration.isEndless_iff.1 Duration.longest_isEndless _
  have first := reaches_unopened (p := (start twoGates : Process Bool Unit)) (k := true) silent
    (by decide) rfl rfl overrun
  have second := first.trans (reaches_unopened (k := true) silent (by decide) rfl rfl overrun)
  exact ⟨_, second, by decide, rfl, rfl, rfl, rfl⟩

end Process

end SourceGate
