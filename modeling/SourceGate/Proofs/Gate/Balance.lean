import SourceGate.Gate.Process
import SourceGate.Proofs.Guard.Slot

/-! # What is under way accounts for what is shared

Whatever is counted or taken in a process is counted or taken by something that is under way in it.
A deed changes both sides alike, so the account holds after every run of deeds, in whatever order
they come.
-/

namespace SourceGate

/-! ## What is counted and taken -/

section Measures

variable {γ α : Type}

/-- Counted among the pending requests. -/
def Stage.isPending : Stage α → Bool
  | raised _ | waiting | inside _ | freeing _ => true
  | _ => false

/-- With a slot, or certain of one where the maximum is `max`. -/
def Stage.isGranted (max : Nat) : Stage α → Bool
  | raised previous => previous < max
  | stage => stage.holdsSlot

/-- Under the session lock, and counted among the installs of a gate and not among its releases. -/
def Stage.isCounted : Stage α → Bool
  | inside (.opening _) | inside (.unopened _) | inside (.running _) | inside (.stopped _ _)
  | inside (.released _) => true
  | _ => false

/-- Left by an opening that unwound: its install is counted, and its release will not be. -/
def Stage.isUnopened : Stage α → Bool
  | inside (.leaving .unopened) | freeing .unopened | ended .unopened => true
  | _ => false

def Stage.holdsLock : Stage α → Bool
  | inside _ => true
  | _ => false

def Activity.holdsLock : Activity γ α → Bool
  | admission _ _ stage => stage.holdsLock
  | guard _ _ => false
  | lock => true

/-- The guard that is held here, by its number and its policy. -/
def Activity.held? (policies : γ → Policy) : Activity γ α → Option (Nat × Policy)
  | admission gate _ stage => stage.session?.map (·, policies gate)
  | guard generation policy => some (generation, policy)
  | lock => none

/-- The live guard, by its number and its policy. -/
def Guardian.held (g : Guardian) : List (Nat × Policy) :=
  (g.live.map fun guard => (guard.generation, guard.policy)).toList

def Premises.policies (s : Premises γ) (k : γ) : Policy := (s.gates k).policy

end Measures

namespace Guardian

variable {g after : Guardian} {policy : Policy} {generation : Nat}

theorem held_resolve (g : Guardian) (generation : Nat) (path : String) :
    (g.resolve generation path).2.held = g.held := by
  rcases g.resolve_cases generation path with same | ⟨guard, live, noted⟩
  · rw [same]
  · simp [noted, held, live]

/-- A guard is installed where none is held. -/
theorem held_install {before rest : List (Nat × Policy)}
    (h : g.install policy = (.ok generation, after)) (balance : g.held = before ++ [] ++ rest) :
    after.held = before ++ [(generation, policy)] ++ rest := by
  obtain ⟨empty, live⟩ := live_of_install h
  simp only [held, empty, Option.map_none, Option.toList_none, List.append_nil, List.nil_eq,
    List.append_eq_nil_iff] at balance
  obtain ⟨rfl, rfl⟩ := balance
  simp [held, live]

/-- Whoever holds the live guard is the only one who holds a guard. -/
theorem held_release {before rest : List (Nat × Policy)}
    (balance : g.held = before ++ [(generation, policy)] ++ rest) :
    (g.release generation).held = before ++ [] ++ rest := by
  cases live : g.live with
  | none => simp [held, live] at balance
  | some guard =>
    simp only [held, live, Option.map_some, Option.toList_some, List.append_assoc,
      List.cons_append, List.nil_append] at balance
    cases before with
    | cons => simp at balance
    | nil =>
      simp only [List.nil_append, List.cons.injEq, Prod.mk.injEq] at balance
      obtain ⟨⟨same, -⟩, rfl⟩ := balance
      have found : g.liveAs generation = some guard := liveAs_eq_some_iff.2 ⟨live, same⟩
      rw [release_of_live found]
      rfl

end Guardian

/-! ## One deed of a request -/

namespace Premises

variable {γ : Type} [DecidableEq γ] {s : Premises γ} {k j : γ} {f : Gate → Gate}

@[simp] theorem atGate_gates_self : (s.atGate k f).gates k = f (s.gates k) := by
  simp [atGate]

theorem atGate_gates_of_ne (h : j ≠ k) : (s.atGate k f).gates j = s.gates j := by
  simp [atGate, h]

end Premises

namespace Advance

variable {γ α : Type} [DecidableEq γ] {s s' : Premises γ} {k j : γ} {deadline : Duration}
  {stage stage' : Stage α} {rest : Nat}

/-- A request changes no gate but its own. -/
theorem gates_of_ne (h : Advance k deadline s stage s' stage') (other : j ≠ k) :
    s'.gates j = s.gates j := by
  cases h <;> first | rfl | exact Premises.atGate_gates_of_ne other

/-- What a gate was built with stays. -/
theorem settings (h : Advance k deadline s stage s' stage') :
    (s'.gates k).policy = (s.gates k).policy ∧ (s'.gates k).limits = (s.gates k).limits := by
  cases h <;> simp [Gate.raise, Gate.lower, Gate.count, Gate.probedTo]

theorem pending (h : Advance k deadline s stage s' stage')
    (balance : (s.gates k).pending = rest + stage.isPending.toNat) :
    (s'.gates k).pending = rest + stage'.isPending.toNat := by
  cases h with
  | raise => simpa [Stage.isPending, Gate.raise] using balance
  | lower | free => simp [Stage.isPending, Gate.lower, balance]
  | _ => simpa [Stage.isPending, Gate.count, Gate.probedTo] using balance

/-- A slot is granted to a request that found fewer than the maximum pending, and whoever has a slot
was pending then. -/
theorem granted {max : Nat} (h : Advance k deadline s stage s' stage')
    (limit : (s.gates k).limits.maxPending = max)
    (pending : rest + (stage.isGranted max).toNat ≤ (s.gates k).pending)
    (bound : rest + (stage.isGranted max).toNat ≤ max) :
    rest + (stage'.isGranted max).toNat ≤ max := by
  cases h with
  | raise =>
    -- `rest` counts those who are certain of a slot already, each of whom is pending
    have held : rest ≤ (s.gates k).pending := pending
    rcases Nat.lt_or_ge (s.gates k).pending max with room | full
    · have certain : ((Stage.raised (s.gates k).pending : Stage α).isGranted max).toNat = 1 := by
        simp [Stage.isGranted, room]
      rw [certain]
      exact Nat.lt_of_le_of_lt held room
    · simpa [Stage.isGranted, Stage.holdsSlot, Nat.not_lt.2 full] using bound
  | grant room => simpa [Stage.isGranted, Stage.holdsSlot, limit ▸ room] using bound
  | lower | free => exact Nat.le_trans (Nat.le_add_right _ _) bound
  | _ => simpa [Stage.isGranted, Stage.holdsSlot] using bound

theorem counters (h : Advance k deadline s stage s' stage')
    (balance : (s.gates k).counters.installs = (s.gates k).counters.releases +
      (rest + (stage.isCounted.toNat + stage.isUnopened.toNat))) :
    (s'.gates k).counters.installs = (s'.gates k).counters.releases +
      (rest + (stage'.isCounted.toNat + stage'.isUnopened.toNat)) := by
  cases h with
  | countInstall =>
    simp only [Stage.isCounted, Stage.isUnopened, Bool.toNat_false, Bool.toNat_true] at *
    simp [Gate.count, balance, Nat.add_assoc]
  | countRelease =>
    simp only [Stage.isCounted, Stage.isUnopened, Bool.toNat_false, Bool.toNat_true] at *
    simp only [Premises.atGate_gates_self, Gate.count, balance]
    omega
  | leave exit | free exit =>
    cases exit <;>
      simpa [Stage.isCounted, Stage.isUnopened, Gate.lower] using balance
  | _ =>
    simpa [Stage.isCounted, Stage.isUnopened, Gate.raise, Gate.lower, Gate.count, Gate.probedTo]
      using balance

theorem releases (h : Advance k deadline s stage s' stage') :
    (s.gates k).counters.releases ≤ (s'.gates k).counters.releases := by
  cases h <;> simp [Gate.raise, Gate.lower, Gate.count, Gate.probedTo]

theorem locks (h : Advance k deadline s stage s' stage')
    (balance : s.isLocked.toNat = rest + stage.holdsLock.toNat) :
    s'.isLocked.toNat = rest + stage'.holdsLock.toNat := by
  cases h with
  | enter free => simp_all [Stage.holdsLock]
  | leave =>
    have one := s.isLocked.toNat_le
    simp_all [Stage.holdsLock]
  | _ => exact balance

end Advance

/-! ## The requests at a gate -/

/-- A gate and how far its requests have come: the pending ones are counted, there is room for those
with a slot, and an install that is not matched by a release is that of a session, which is open or
could not be opened. -/
structure Gate.Balanced {α : Type} (g : Gate) (stages : List (Stage α)) : Prop where
  pending : g.pending = stages.countP Stage.isPending
  room : stages.countP (Stage.isGranted g.limits.maxPending) ≤ g.limits.maxPending
  installs : g.counters.installs = g.counters.releases +
    (stages.countP Stage.isCounted + stages.countP Stage.isUnopened)

section Balanced

variable {γ α : Type} [DecidableEq γ] {s s' : Premises γ} {k : γ} {deadline : Duration}
  {stage stage' : Stage α} {before after : List (Stage α)}

theorem countP_amid (test : Stage α → Bool) :
    (before ++ [stage] ++ after).countP test =
      before.countP test + after.countP test + (test stage).toNat := by
  rw [List.countP_append, List.countP_append, List.countP_singleton]
  cases test stage <;> exact Nat.add_right_comm _ _ _

theorem Stage.isPending_of_isGranted {max : Nat} (h : stage.isGranted max = true) :
    stage.isPending = true := by
  cases stage <;> first | rfl | cases h

theorem countP_isGranted_le (max : Nat) (stages : List (Stage α)) :
    stages.countP (Stage.isGranted max) ≤ stages.countP Stage.isPending :=
  List.countP_mono_left fun _ _ => Stage.isPending_of_isGranted

theorem Gate.Balanced.advance (balanced : (s.gates k).Balanced (before ++ [stage] ++ after))
    (h : Advance k deadline s stage s' stage') :
    (s'.gates k).Balanced (before ++ [stage'] ++ after) := by
  obtain ⟨pending, room, installs⟩ := balanced
  have granted_pending :=
    countP_isGranted_le (s.gates k).limits.maxPending (before ++ [stage] ++ after)
  rw [← pending] at granted_pending
  rw [countP_amid] at pending room granted_pending
  rw [countP_amid, countP_amid, Nat.add_add_add_comm] at installs
  refine ⟨?_, ?_, ?_⟩
  · rw [countP_amid]
    exact h.pending pending
  · rw [countP_amid, h.settings.2]
    exact h.granted rfl granted_pending room
  · rw [countP_amid, countP_amid, Nat.add_add_add_comm]
    exact h.counters installs

/-- A request that is only asked for counts nowhere. -/
theorem Gate.Balanced.ask {g : Gate} (balanced : g.Balanced (before ++ [] ++ after))
    (isInside : Bool) (body : List Tree.Stmt) :
    g.Balanced (before ++ [Stage.asked isInside body] ++ after) := by
  obtain ⟨pending, room, installs⟩ := balanced
  simp only [List.append_nil, List.countP_append] at *
  exact ⟨by simpa [Stage.isPending], by simpa [Stage.isGranted, Stage.holdsSlot],
    by simpa [Stage.isCounted, Stage.isUnopened]⟩

end Balanced

/-! ## One deed -/

namespace Deed

variable {γ α : Type} [DecidableEq γ] {s s' : Premises γ} {involved involved' : List (Activity γ α)}

/-- What a deed is at one gate: it takes a request there further, asks for one, or leaves the gate
as it is. -/
theorem at_gate (h : Deed s involved s' involved') (k : γ) :
    (∃ deadline stage stage', Advance k deadline s stage s' stage' ∧
      involved.filterMap (·.stageAt? k) = [stage] ∧
        involved'.filterMap (·.stageAt? k) = [stage']) ∨
    (s'.gates k = s.gates k ∧ involved.filterMap (·.stageAt? k) = [] ∧
      ∃ isInside body, involved'.filterMap (·.stageAt? k) = [.asked isInside body]) ∨
    (s'.gates k = s.gates k ∧
      involved'.filterMap (·.stageAt? k) = involved.filterMap (·.stageAt? k)) := by
  cases h with
  | ask _ gate _ isInside body =>
    by_cases own : gate = k
    · exact .inr (.inl ⟨rfl, rfl, isInside, body, by simp [Activity.stageAt?, own]⟩)
    · exact .inr (.inr ⟨rfl, by simp [Activity.stageAt?, own]⟩)
  | @advance gate deadline _ stage _ stage' h =>
    by_cases own : gate = k
    · subst own
      exact .inl
        ⟨deadline, stage, stage', h, by simp [Activity.stageAt?], by simp [Activity.stageAt?]⟩
    · exact .inr (.inr ⟨h.gates_of_ne (Ne.symm own), by simp [Activity.stageAt?, own]⟩)
  | _ => exact .inr (.inr ⟨rfl, rfl⟩)

theorem policies (h : Deed s involved s' involved') : s'.policies = s.policies := by
  funext k
  rcases h.at_gate k with ⟨_, _, _, h, -⟩ | ⟨same, -⟩ | ⟨same, -⟩
  · exact h.settings.1
  · exact congrArg _ same
  · exact congrArg _ same

/-- The releases of a gate only grow. -/
theorem releases (h : Deed s involved s' involved') (k : γ) :
    (s.gates k).counters.releases ≤ (s'.gates k).counters.releases := by
  rcases h.at_gate k with ⟨_, _, _, h, -⟩ | ⟨same, -⟩ | ⟨same, -⟩
  · exact h.releases
  · exact Nat.le_of_eq (congrArg (·.counters.releases) same.symm)
  · exact Nat.le_of_eq (congrArg (·.counters.releases) same.symm)

theorem locks {rest : Nat} (h : Deed s involved s' involved')
    (balance : s.isLocked.toNat = rest + involved.countP Activity.holdsLock) :
    s'.isLocked.toNat = rest + involved'.countP Activity.holdsLock := by
  cases h with
  | @advance gate deadline _ stage _ stage' h =>
    have alone (stage : Stage α) :
        [Activity.admission gate deadline stage].countP Activity.holdsLock =
          stage.holdsLock.toNat := by
      cases lock : stage.holdsLock <;> simp [Activity.holdsLock, lock]
    rw [alone] at *
    exact h.locks balance
  | lock free => simp_all [Activity.holdsLock]
  | unlock =>
    have one := s.isLocked.toNat_le
    simp_all [Activity.holdsLock]
  | _ => simpa [Activity.holdsLock, Stage.holdsLock] using balance

/-- What a request holds of the guard is what the guard says of it. -/
theorem held_of_advance {k : γ} {deadline : Duration} {stage stage' : Stage α}
    {before rest : List (Nat × Policy)}
    (h : Advance k deadline s stage s' stage')
    (balance : s.guardian.held =
      before ++ (stage.session?.map (·, s.policies k)).toList ++ rest) :
    s'.guardian.held = before ++ (stage'.session?.map (·, s.policies k)).toList ++ rest := by
  cases h with
  | install installed => exact Guardian.held_install installed balance
  | refuseInstall refused => rwa [Guardian.eq_of_refused_install refused]
  | release | abandon => exact Guardian.held_release balance
  | _ => exact balance

theorem held {before rest : List (Nat × Policy)} (h : Deed s involved s' involved')
    (balance : s.guardian.held =
      before ++ involved.filterMap (·.held? s.policies) ++ rest) :
    s'.guardian.held = before ++ involved'.filterMap (·.held? s.policies) ++ rest := by
  cases h with
  | @advance gate deadline _ stage _ stage' h =>
    have alone (stage : Stage α) :
        [Activity.admission gate deadline stage].filterMap (·.held? s.policies) =
          (stage.session?.map (·, s.policies gate)).toList := by
      cases session : stage.session? <;> simp [Activity.held?, session]
    rw [alone] at *
    exact held_of_advance h balance
  | resolve _ generation path => exact (Guardian.held_resolve _ generation path).trans balance
  | install installed => exact Guardian.held_install installed balance
  | refuseInstall refused => rwa [Guardian.eq_of_refused_install refused]
  | release => exact Guardian.held_release balance
  | _ => exact balance

end Deed

/-! ## Every run -/

namespace Process

variable {γ α : Type} [DecidableEq γ] {p q : Process γ α}

/-- Everything that is counted or taken is accounted for by what is under way. -/
structure Balanced (p : Process γ α) : Prop where
  gates : ∀ k, (p.gates k).Balanced (p.stages k)
  lock : p.isLocked.toNat = p.underWay.countP Activity.holdsLock
  guard : p.guardian.held = p.underWay.filterMap (·.held? p.policies)

theorem balanced_start (gates : γ → Policy × GateLimits × Probe) :
    (start gates : Process γ α).Balanced :=
  ⟨fun _ => ⟨rfl, Nat.zero_le _, rfl⟩, rfl, rfl⟩

theorem Balanced.step (balanced : p.Balanced) (h : Step p q) : q.Balanced := by
  obtain ⟨before, after, deed⟩ := h
  obtain ⟨gates, lock, guard⟩ := balanced
  refine ⟨fun k => ?_, ?_, ?_⟩
  · have gate := gates k
    simp only [stages, List.filterMap_append] at gate ⊢
    rcases deed.at_gate k with
      ⟨_, stage, stage', h, from_stage, to_stage⟩ | ⟨same, from_none, isInside, body, to_asked⟩ |
        ⟨same, same_stages⟩
    · rw [from_stage] at gate
      rw [to_stage]
      exact gate.advance h
    · rw [from_none] at gate
      rw [to_asked]
      exact same ▸ gate.ask isInside body
    · rw [same_stages]
      exact same ▸ gate
  · simp only [List.countP_append] at lock ⊢
    have := deed.locks (lock.trans (Nat.add_right_comm _ _ _))
    exact this.trans (Nat.add_right_comm _ _ _)
  · simp only [List.filterMap_append] at guard ⊢
    rw [deed.policies]
    exact deed.held guard

theorem Balanced.run (balanced : p.Balanced) (h : Reaches p q) : q.Balanced := by
  induction h with
  | refl => exact balanced
  | tail _ step ih => exact ih.step step

/-- In the course of a run the releases of a gate only grow. -/
theorem releases_le (h : Reaches p q) (k : γ) :
    (p.gates k).counters.releases ≤ (q.gates k).counters.releases := by
  induction h with
  | refl => exact Nat.le_refl _
  | tail _ step ih =>
    obtain ⟨before, after, deed⟩ := step
    exact Nat.le_trans ih (deed.releases k)

end Process

end SourceGate
