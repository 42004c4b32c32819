import SourceGate.Proofs.Gate.Discretion
import SourceGate.Proofs.Gate.Focus
import SourceGate.Proofs.Gate.Sessions

/-! # Requests that are turned away

A request is turned away for the number of pending requests that it found when it was counted
itself. Those are the requests with a slot, and those that are to be turned away and are still
counted. So where none of the latter was there all slots were taken; but where some were, there may
have been slots left, and for every maximum there is an order of deeds in which that happens.
-/

namespace SourceGate

variable {γ α : Type}

/-! ## Who is counted -/

/-- Counted among the pending requests, and certain to be turned away where the maximum is `max`. -/
def Stage.isDoomed (max : Nat) : Stage α → Bool
  | raised previous => max ≤ previous
  | _ => false

/-- Who is pending has a slot, or is certain of one, or is to be turned away. -/
inductive Stage.Standing (max : Nat) (stage : Stage α) : Prop where
  | absent (h : stage.isPending = false) (ungranted : stage.isGranted max = false)
      (undoomed : stage.isDoomed max = false)
  | granted (h : stage.isPending = true) (granted : stage.isGranted max = true)
      (undoomed : stage.isDoomed max = false)
  | doomed (h : stage.isPending = true) (ungranted : stage.isGranted max = false)
      (doomed : stage.isDoomed max = true)

theorem Stage.standing (max : Nat) (stage : Stage α) : stage.Standing max := by
  cases stage with
  | asked | accepted | turnedAway | ended => exact .absent rfl rfl rfl
  | waiting | inside | freeing => exact .granted rfl rfl rfl
  | raised previous =>
    by_cases room : previous < max
    · exact .granted rfl (by simp [isGranted, room]) (by simp [isDoomed, room])
    · exact .doomed rfl (by simp [isGranted, room]) (by simpa [isDoomed] using room)

theorem countP_isPending (max : Nat) (stages : List (Stage α)) :
    stages.countP Stage.isPending =
      stages.countP (Stage.isGranted max) + stages.countP (Stage.isDoomed max) := by
  induction stages with
  | nil => rfl
  | cons stage rest ih =>
    cases stage.standing max with
    | absent h ungranted undoomed => simp [h, ungranted, undoomed, ih]
    | granted h granted undoomed =>
      rw [List.countP_cons_of_pos h, List.countP_cons_of_pos granted,
        List.countP_cons_of_neg (by simp [undoomed]), ih]
      omega
    | doomed h ungranted doomed =>
      rw [List.countP_cons_of_pos h, List.countP_cons_of_pos doomed,
        List.countP_cons_of_neg (by simp [ungranted]), ih]
      omega

/-! ## One deed -/

/-- The answer that a request has got and not given yet, or has given. -/
def Stage.answer? : Stage α → Option (Except Refusal α)
  | inside (.leaving exit) | freeing exit | ended exit => exit.answer?
  | _ => none

/-- A request whose answer is that there are too many. -/
def Stage.Tells (max : Nat) (stage : Stage α) : Prop :=
  stage.answer? = some (.error (.overloaded max))

/-- Not counted yet. -/
def Stage.isEarly : Stage α → Bool
  | asked _ _ | accepted => true
  | _ => false

/-- Counted, and on the way to the answer that there are too many as far as is known. -/
inductive Stage.MayTell : Stage α → Prop where
  | raised (previous) : MayTell (.raised previous)
  | turnedAway : MayTell .turnedAway
  | told {stage max} (h : Tells max stage) : MayTell stage

namespace Advance

variable [DecidableEq γ] {s s' : Premises γ} {k : γ} {deadline : Duration}
  {stage stage' : Stage α} {previous max : Nat}

theorem of_raised (h : Advance k deadline s stage s' (.raised previous)) :
    stage = .accepted ∧ s' = s.atGate k (·.raise) ∧ previous = (s.gates k).pending := by
  cases h
  exact ⟨rfl, rfl, rfl⟩

theorem of_turnedAway (h : Advance k deadline s stage s' .turnedAway) :
    ∃ previous, stage = .raised previous ∧ (s.gates k).limits.maxPending ≤ previous := by
  cases h with
  | lower full => exact ⟨_, rfl, full⟩

/-- That there are too many is told of a request that has been turned away, and of no run. -/
theorem of_tells (h : Advance k deadline s stage s' stage') (told : stage'.Tells max) :
    stage.Tells max ∨ stage = .turnedAway ∧ max = (s.gates k).limits.maxPending := by
  cases h with
  | turnAway =>
    cases told
    exact .inr ⟨rfl, rfl⟩
  | answer outcome => exact absurd (Option.some.inj told) (outcome.answer_ne_overloaded max)
  | refuseInstall refused =>
    obtain ⟨-, rfl, -⟩ := Guardian.live_of_refused_install refused
    cases told
  | leave | free => exact .inl told
  | _ => cases told

theorem isEarly_eq_false (h : Advance k deadline s stage s' stage') (late : stage.isEarly = false) :
    stage'.isEarly = false := by
  cases h <;> first | rfl | cases late

theorem of_mayTell (h : Advance k deadline s stage s' stage') (may : stage'.MayTell) :
    stage.MayTell ∨ stage = .accepted ∧ s' = s.atGate k (·.raise) ∧
      stage' = .raised (s.gates k).pending := by
  cases may with
  | raised previous =>
    obtain ⟨rfl, rfl, rfl⟩ := h.of_raised
    exact .inr ⟨rfl, rfl, rfl⟩
  | turnedAway =>
    obtain ⟨previous, rfl, -⟩ := h.of_turnedAway
    exact .inl (.raised previous)
  | told told =>
    rcases h.of_tells told with told | ⟨rfl, -⟩
    · exact .inl (.told told)
    · exact .inl .turnedAway

end Advance

theorem Deed.limits [DecidableEq γ] {s s' : Premises γ} {involved involved' : List (Activity γ α)}
    (h : Deed s involved s' involved') (k : γ) : (s'.gates k).limits = (s.gates k).limits := by
  rcases h.at_gate k with ⟨_, _, _, h, -⟩ | ⟨same, -⟩ | ⟨same, -⟩
  · exact h.settings.2
  · exact congrArg _ same
  · exact congrArg _ same

theorem Process.limits_of_reaches [DecidableEq γ] {p q : Process γ α} (h : Reaches p q) (k : γ) :
    (q.gates k).limits = (p.gates k).limits := by
  induction h with
  | refl => rfl
  | tail _ step ih =>
    obtain ⟨before, after, deed⟩ := step
    exact (deed.limits k).trans ih

/-! ## The increment of a request -/

namespace Focus

variable [DecidableEq γ] {gates : γ → Policy × GateLimits × Probe} {k : γ} {e f g : Focus γ α}
  {max : Nat}

/-- The requests beside the one that is followed that have a slot or are certain of one. -/
def granted (max : Nat) (k : γ) (f : Focus γ α) : Nat :=
  (f.others k).countP (Stage.isGranted max)

/-- The requests beside the one that is followed that are counted and are to be turned away. -/
def doomed (max : Nat) (k : γ) (f : Focus γ α) : Nat :=
  (f.others k).countP (Stage.isDoomed max)

/-- The next moment, when the request is counted. -/
def raise (k : γ) (f : Focus γ α) : Focus γ α :=
  ⟨f.toPremises.atGate k (·.raise), f.before, f.deadline, .raised (f.gates k).pending, f.after⟩

/-- A request of a process with new gates was counted at `e` and has come to `g`. -/
structure CountedAt (gates : γ → Policy × GateLimits × Probe) (k : γ) (e g : Focus γ α) : Prop where
  reached : Process.Reaches (.start gates) (e.process k)
  accepted : e.stage = .accepted
  onward : Reaches k (e.raise k) g

theorem Reaches.own {s s' : Premises γ} {before after : List (Activity γ α)} {deadline : Duration}
    {stage stage' : Stage α} (h : Reaches k f ⟨s, before, deadline, stage, after⟩)
    (next : Advance k deadline s stage s' stage') :
    Reaches k f ⟨s', before, deadline, stage', after⟩ :=
  h.tail (.own before after next)

theorem CountedAt.step (counted : CountedAt gates k e f) (h : Step k f g) : CountedAt gates k e g :=
  ⟨counted.reached, counted.accepted, counted.onward.tail h⟩

theorem CountedAt.now (reached : Process.Reaches (.start gates) (e.process k))
    (accepted : e.stage = .accepted) : CountedAt gates k e (e.raise k) :=
  ⟨reached, accepted, .refl⟩

/-- A request that may be told so has been counted. -/
theorem exists_countedAt (h : Process.Reaches (.start gates) (g.process k))
    (may : g.stage.MayTell) : ∃ e, CountedAt gates k e g := by
  generalize same : g.process k = q at h
  induction h generalizing g with
  | refl =>
    have none := congrArg (·.underWay) same
    simp [process, Process.start] at none
  | tail reached step ih =>
    subst same
    rcases exists_step step with ⟨f, rfl, followed⟩ | ⟨isInside, body, asked⟩
    · have before_it (may : f.stage.MayTell) : ∃ e, CountedAt gates k e g := by
        obtain ⟨e, counted⟩ := ih may rfl
        exact ⟨e, counted.step followed⟩
      cases followed with
      | before | after => exact before_it may
      | own before after h =>
        rcases h.of_mayTell may with may | ⟨rfl, rfl, rfl⟩
        · exact before_it may
        · exact ⟨_, .now reached rfl⟩
    · rw [asked] at may
      cases may with
      | told told => cases told

/-- How a request goes on that was counted at `e`. -/
structure Since (max : Nat) (k : γ) (e g : Focus γ α) : Prop where
  late : g.stage.isEarly = false
  raised {previous : Nat} (h : g.stage = .raised previous) : previous = (e.gates k).pending
  turnedAway (h : g.stage = .turnedAway) : max ≤ (e.gates k).pending
  told {limit : Nat} (h : g.stage.Tells limit) : limit = max ∧ max ≤ (e.gates k).pending

theorem Since.step (since : Since max k e f) (limit : (f.gates k).limits.maxPending = max)
    (h : Step k f g) : Since max k e g := by
  cases h with
  | before | after => exact ⟨since.late, since.raised, since.turnedAway, since.told⟩
  | own before after h =>
    refine ⟨h.isEarly_eq_false since.late, fun at_g => ?_, fun at_g => ?_, fun at_g => ?_⟩
    · cases at_g
      obtain ⟨rfl, -⟩ := h.of_raised
      cases since.late
    · cases at_g
      obtain ⟨previous, rfl, full⟩ := h.of_turnedAway
      rw [← since.raised rfl, ← limit]
      exact full
    · rcases h.of_tells at_g with told | ⟨rfl, rfl⟩
      · exact since.told told
      · exact ⟨limit, since.turnedAway rfl⟩

theorem CountedAt.limits (counted : CountedAt gates k e g) :
    (e.gates k).limits = (gates k).2.1 ∧ (g.gates k).limits = (gates k).2.1 := by
  have start : (e.gates k).limits = (gates k).2.1 := Process.limits_of_reaches counted.reached k
  have raised : ((e.raise k).gates k).limits = (e.gates k).limits := by simp [raise, Gate.raise]
  have onward : (g.gates k).limits = ((e.raise k).gates k).limits :=
    Process.limits_of_reaches (reaches_process counted.onward) k
  exact ⟨start, (onward.trans raised).trans start⟩

theorem CountedAt.since (counted : CountedAt gates k e g) :
    Since (gates k).2.1.maxPending k e g := by
  obtain ⟨reached, accepted, onward⟩ := counted
  induction onward with
  | refl =>
    refine ⟨rfl, fun at_e => ?_, fun at_e => ?_, fun at_e => ?_⟩
    · cases at_e
      rfl
    · cases at_e
    · cases at_e
  | tail onward step ih =>
    have limits := (CountedAt.mk reached accepted onward).limits.2
    exact ih.step (congrArg (·.maxPending) limits) step

/-! ## Who was there -/

theorem countP_stages (test : Stage α → Bool) (f : Focus γ α) :
    ((f.process k).stages k).countP test = (f.others k).countP test + (test f.stage).toNat := by
  have own : [Activity.admission k f.deadline f.stage].filterMap (·.stageAt? k) = [f.stage] := by
    simp [Activity.stageAt?]
  rw [Process.stages, process, others, List.filterMap_append, List.filterMap_append, own,
    countP_amid, List.filterMap_append, List.countP_append]

/-- Whom a request finds that is about to be counted. -/
structure Finds (max : Nat) (k : γ) (e : Focus γ α) : Prop where
  pending : (e.gates k).pending = e.granted max k + e.doomed max k
  granted_le : e.granted max k ≤ max

theorem CountedAt.finds (counted : CountedAt gates k e g) :
    Finds (gates k).2.1.maxPending k e := by
  obtain ⟨pending, room, -⟩ := ((Process.balanced_start gates).run counted.reached).gates k
  have limit : ((e.process k).gates k).limits = (gates k).2.1 := counted.limits.1
  rw [limit, countP_stages, counted.accepted] at room
  rw [countP_isPending (gates k).2.1.maxPending, countP_stages, countP_stages, counted.accepted]
    at pending
  exact ⟨pending, room⟩

/-- What the answer comes from that there are too many: wherever the request was counted, the others
with a slot and the others that were still to be turned away were as many as the maximum. -/
structure Overload (gates : γ → Policy × GateLimits × Probe) (k : γ) (g : Focus γ α) (max : Nat) :
    Prop where
  limit : max = (gates k).2.1.maxPending
  counted : ∃ e, CountedAt gates k e g
  crowded {e : Focus γ α} (counted : CountedAt gates k e g) :
    max ≤ e.granted max k + e.doomed max k ∧ e.granted max k ≤ max
  /-- All slots were taken if nobody else was still to be turned away. -/
  rightful {e : Focus γ α} (counted : CountedAt gates k e g) (none : e.doomed max k = 0) :
    e.granted max k = max

/-- Whatever the maximum, the number of requests and the order of their deeds. -/
theorem overload_of_reaches (h : Process.Reaches (.start gates) (g.process k))
    (told : g.stage = .ended (.answered (.error (.overloaded max)))) : Overload gates k g max := by
  have tells : g.stage.Tells max := by
    rw [told]
    rfl
  obtain ⟨e, counted⟩ := exists_countedAt h (.told tells)
  obtain ⟨rfl, -⟩ := counted.since.told tells
  have crowded {e : Focus γ α} (counted : CountedAt gates k e g) :
      (gates k).2.1.maxPending ≤ e.granted (gates k).2.1.maxPending k +
        e.doomed (gates k).2.1.maxPending k := by
    rw [← counted.finds.pending]
    exact (counted.since.told tells).2
  refine ⟨rfl, ⟨e, counted⟩, fun counted => ⟨crowded counted, counted.finds.granted_le⟩, ?_⟩
  intro e counted none
  have full := crowded counted
  have least := counted.finds.granted_le
  omega

/-- The second request at a gate with one slot, while the run of the first is on. -/
theorem crowded_overload : ∃ g : Focus Bool Unit,
    Process.Reaches (.start Process.twoGates) (g.process true) ∧
      g.stage = .ended (.answered (.error (.overloaded 1))) ∧
      Overload Process.twoGates true g 1 := by
  let crowded : Focus Bool Unit :=
    ⟨Process.crowded.toPremises, [.admission true (.ofMillis 1000) (.inside (.running 1))],
      .ofMillis 1000, .raised 1, []⟩
  have lowered : Reaches true crowded ⟨_, crowded.before, crowded.deadline, .turnedAway, []⟩ :=
    Reaches.own .refl (.lower (by decide))
  have told := lowered.own (.turnAway _)
  have reached := Process.reaches_crowded.trans (reaches_process told)
  exact ⟨_, reached, rfl, overload_of_reaches reached rfl⟩

end Focus

/-! ## Slots that nobody has -/

section Spurious

variable [DecidableEq γ] {gates : γ → Policy × GateLimits × Probe} {k : γ} {p : Process γ α}

theorem isEmpty_violations_nil (policy : Policy) :
    (Tree.violations policy []).isEmpty = true := rfl

/-- A request with a slot can run and leave where nobody has the lock or a guard. -/
theorem Focus.exists_ended {s : Premises γ} (before after : List (Activity γ α))
    (deadline : Duration) (inTime : Instant.start.canAdd deadline = true)
    (free : s.isLocked = false) (empty : s.guardian.live = none) :
    ∃ s', Focus.Reaches k ⟨s, before, deadline, .waiting, after⟩
      ⟨s', before, deadline, .ended .unwound, after⟩ := by
  have entered : Focus.Reaches k ⟨s, before, deadline, .waiting, after⟩
      ⟨{ s with isLocked := true }, before, deadline, .inside .entered, after⟩ :=
    Reaches.own .refl (.enter free)
  have installed := entered.own (.install (Guardian.install_of_empty _ empty))
  have running := (installed.own (.countInstall _ _)).own (.begin _ _ inTime)
  have stopped := running.own (.stop _ _ none [])
  have closed := (stopped.own (.release _ _ _)).own (.countRelease _ _)
  exact ⟨_, ((closed.own (.unwind _)).own (.leave _ _)).own (.free _ _)⟩

namespace Process

theorem Balanced.isLocked_eq_false (balanced : p.Balanced)
    (none : ∀ a ∈ p.underWay, a.holdsLock = false) : p.isLocked = false := by
  have locks : p.underWay.countP Activity.holdsLock = 0 := by
    rw [List.countP_eq_zero]
    intro a member
    simp [none a member]
  rw [← Bool.toNat_eq_zero, balanced.lock, locks]

theorem Balanced.live_eq_none (balanced : p.Balanced)
    (none : ∀ a ∈ p.underWay, a.held? p.policies = .none) : p.guardian.live = .none := by
  have held := balanced.guard
  rw [List.filterMap_eq_nil_iff.2 none, Guardian.held] at held
  simpa using held

theorem reaches_waiting (room : (p.gates k).pending < (p.gates k).limits.maxPending)
    (deadline : Duration) :
    Reaches p (withLast (p.atGate k (·.raise)) p.underWay k deadline .waiting) := by
  apply (reaches_raised (isEmpty_violations_nil _) deadline).trans
  apply reaches_of_solo
  exact Solo.Reaches.advance .refl (.grant (by simpa [Gate.raise]))

theorem Balanced.pending_replicate {s : Premises γ} {n : Nat} {rest : List (Activity γ α)}
    {deadline : Duration}
    (balanced : Balanced ⟨s, List.replicate n (.admission k deadline .waiting) ++ rest⟩) :
    (s.gates k).pending = n + (rest.filterMap (·.stageAt? k)).countP Stage.isPending := by
  have waiting : (List.replicate n (Activity.admission (α := α) k deadline .waiting)).filterMap
      (·.stageAt? k) = List.replicate n .waiting :=
    List.filterMap_replicate_of_some (by simp [Activity.stageAt?])
  rw [(balanced.gates k).pending, stages, List.filterMap_append, waiting]
  simp [List.countP_replicate, Stage.isPending]

/-- As many requests can have a slot as the maximum allows. -/
theorem exists_all_waiting (gates : γ → Policy × GateLimits × Probe) (k : γ)
    (deadline : Duration) {n : Nat} (h : n ≤ (gates k).2.1.maxPending) :
    ∃ s, Reaches (start gates)
      ⟨s, List.replicate n (.admission k deadline (.waiting : Stage α))⟩ := by
  induction n with
  | zero => exact ⟨_, .refl⟩
  | succ n ih =>
    obtain ⟨s, reached⟩ := ih (by omega)
    have limits : (s.gates k).limits = (gates k).2.1 := limits_of_reaches reached k
    have pending : (s.gates k).pending = n := by
      have balanced := (balanced_start gates).run reached
      rw [← List.append_nil (List.replicate n _)] at balanced
      exact balanced.pending_replicate
    rw [List.replicate_succ']
    exact ⟨_, reached.trans (reaches_waiting (by rw [pending, limits]; omega) deadline)⟩

/-- Requests with a slot, one that has had one, and one that is still to be turned away; their
deadlines are of no account. -/
def afterCrowd (k : γ) (n : Nat) : List (Activity γ α) :=
  List.replicate n (.admission k ⟨0⟩ .waiting) ++
    [.admission k ⟨0⟩ (.ended .unwound), .admission k ⟨0⟩ (.raised (n + 1))]

/-- With all slots taken let another request be counted, and let then one with a slot leave. -/
theorem exists_afterCrowd (gates : γ → Policy × GateLimits × Probe) (k : γ) {n : Nat}
    (h : (gates k).2.1.maxPending = n + 1) :
    ∃ s, Reaches (start gates) ⟨s, afterCrowd (α := α) k n⟩ := by
  obtain ⟨s, all_taken⟩ := exists_all_waiting (α := α) gates k ⟨0⟩ h.ge
  have pending : (s.gates k).pending = n + 1 := by
    have balanced := (balanced_start gates).run all_taken
    rw [← List.append_nil (List.replicate (n + 1) _)] at balanced
    exact balanced.pending_replicate
  let crowd : Focus γ α :=
    ⟨s.atGate k (·.raise), List.replicate n (.admission k ⟨0⟩ .waiting), ⟨0⟩, .waiting,
      [.admission k ⟨0⟩ (.raised (n + 1))]⟩
  have counted : Reaches (start gates) (crowd.process k) := by
    have last : withLast (s.atGate k (·.raise))
        (List.replicate (n + 1) (.admission k ⟨0⟩ .waiting)) k ⟨0⟩
        (.raised (s.gates k).pending) = crowd.process k := by
      simp [withLast, pending, crowd, Focus.process, List.replicate_succ']
    exact last ▸ all_taken.trans (reaches_raised (isEmpty_violations_nil _) _)
  have members (a : Activity γ α) (member : a ∈ (crowd.process k).underWay) :
      a = .admission k ⟨0⟩ .waiting ∨ a = .admission k ⟨0⟩ (.raised (n + 1)) := by
    simp only [crowd, Focus.process, List.mem_append, List.mem_replicate, List.mem_singleton]
      at member
    grind
  have balanced := (balanced_start gates).run counted
  have free : crowd.isLocked = false := balanced.isLocked_eq_false fun a member => by
    rcases members a member with rfl | rfl <;> rfl
  have empty : crowd.guardian.live = none := balanced.live_eq_none fun a member => by
    rcases members a member with rfl | rfl <;> rfl
  obtain ⟨s', left⟩ :=
    Focus.exists_ended (k := k) crowd.before crowd.after ⟨0⟩ (by decide) free empty
  have same : afterCrowd k n = crowd.before ++ [.admission k ⟨0⟩ (.ended .unwound)] ++
      crowd.after := by
    simp [afterCrowd, crowd]
  rw [same]
  exact ⟨s', counted.trans (Focus.reaches_process left)⟩

end Process

namespace Focus

/-- With a slot for one request or more, let all be taken, and let another request be counted. Then
let a request with a slot leave: whoever is counted next is turned away too. -/
theorem exists_spurious (gates : γ → Policy × GateLimits × Probe) (k : γ) {n : Nat}
    (h : (gates k).2.1.maxPending = n + 1) :
    ∃ e g : Focus γ α, CountedAt gates k e g ∧
      g.stage = .ended (.answered (.error (.overloaded (n + 1)))) ∧
      e.granted (n + 1) k = n ∧ (e.others k).countP Stage.holdsSlot = n := by
  obtain ⟨s, reached⟩ := Process.exists_afterCrowd (α := α) gates k h
  have limits : (s.gates k).limits.maxPending = n + 1 :=
    (congrArg (·.maxPending) (Process.limits_of_reaches reached k)).trans h
  have pending : (s.gates k).pending = n + 1 := by
    have balanced := (Process.balanced_start gates).run reached
    rw [balanced.pending_replicate]
    simp [Activity.stageAt?, Stage.isPending]
  let e : Focus γ α := ⟨s, Process.afterCrowd k n, ⟨0⟩, .accepted, []⟩
  have others : e.others k = List.replicate n .waiting ++ [.ended .unwound, .raised (n + 1)] := by
    simp [e, Focus.others, Process.afterCrowd, Activity.stageAt?]
  have accepted : Process.Reaches (.start gates) (e.process k) := by
    have last : Process.withLast s (Process.afterCrowd k n) k ⟨0⟩ (.asked false []) =
        process k (⟨s, Process.afterCrowd k n, ⟨0⟩, .asked false [], []⟩ : Focus γ α) := by
      simp [Process.withLast, process]
    have asked := reached.trans (Process.reaches_asked ⟨s, Process.afterCrowd k n⟩ k ⟨0⟩ [])
    rw [last] at asked
    exact asked.trans (reaches_process (Reaches.own .refl (.accept (isEmpty_violations_nil _))))
  have lowered : Reaches k (e.raise k) ⟨_, e.before, e.deadline, .turnedAway, []⟩ :=
    Reaches.own .refl (.lower (by simp [e, Gate.raise, limits, pending]))
  refine ⟨e, _, ⟨accepted, rfl, lowered.own (.turnAway _)⟩, ?_, ?_, ?_⟩
  · simp [e, Gate.raise, Gate.lower, limits]
  · rw [granted, others]
    simp [List.countP_replicate, Stage.isGranted, Stage.holdsSlot]
  · rw [others]
    simp [List.countP_replicate, Stage.holdsSlot]

/-- A gate with one slot, which is free when a request finds that there are too many. -/
theorem overload_with_free_slot :
    ∃ e g : Focus Bool Unit, CountedAt Process.twoGates true e g ∧
      g.stage = .ended (.answered (.error (.overloaded 1))) ∧
      (e.others true).countP Stage.holdsSlot = 0 ∧ e.granted 1 true = 0 := by
  obtain ⟨e, g, counted, told, granted, held⟩ :=
    exists_spurious (α := Unit) Process.twoGates true rfl
  exact ⟨e, g, counted, told, held, granted⟩

end Focus

end Spurious

end SourceGate
