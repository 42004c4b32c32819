import SourceGate.Proofs.Gate.Balance
import SourceGate.Proofs.Gate.Entering
import SourceGate.Proofs.Run.Alike
import SourceGate.Proofs.Run.Worker

/-! # A request that nobody disturbs

The deeds of one request and of its run in a row, with none of others in between, are the request as
a site serves it. A run that is over a guard resolves modules and does nothing else to the guard.
-/

namespace SourceGate

/-! ## What a run does to the guard -/

/-- The slots that come of a slot by resolving alone. -/
def Guardian.Resolves : Guardian → Guardian → Prop :=
  Relation.ReflTransGen fun g g' => ∃ generation path, g' = (g.resolve generation path).2

namespace Program

variable {α : Type}

/-- While a guard is live that is not its own, a program cannot install one and holds none to
release. -/
theorem runFrom_resolves (p : Program α) (w : Worker) (empty_handed : w.held = [])
    (live : w.guardian.live.isSome = true) :
    w.guardian.Resolves (p.runFrom w).2.guardian := by
  induction p generalizing w with
  | done | fail | panic => exact .refl
  | readToken next ih => exact ih _ w empty_handed live
  | tripToken next ih => exact ih { w with tripped := true } empty_handed live
  | awaitToken next ih =>
    rw [runFrom]
    split
    · exact ih w empty_handed live
    · exact .refl
  | sleep span next ih =>
    exact ih { w with elapsed := ⟨w.elapsed.nanos + span.nanos⟩ } empty_handed live
  | resolve generation path next ih =>
    let answered := w.guardian.resolve generation path
    have still_live : answered.2.live.isSome = true := by
      rcases w.guardian.resolve_cases generation path with same | ⟨guard, -, noted⟩
      · exact (congrArg (·.live.isSome) same).trans live
      · exact congrArg (·.live.isSome) noted
    exact .head ⟨generation, path, rfl⟩
      (ih answered.1 { w with guardian := answered.2 } empty_handed still_live)
  | readSlot next ih => exact ih _ w empty_handed live
  | install policy next ih =>
    obtain ⟨guard, live_guard⟩ := Option.isSome_iff_exists.1 live
    simp only [runFrom, Guardian.install_of_live policy live_guard]
    exact ih _ _ empty_handed live
  | release generation next ih =>
    rw [runFrom, if_neg (by simp [empty_handed])]
    exact ih w empty_handed live
  | askGate next ih => exact ih _ w empty_handed live

end Program

theorem Limits.run_resolves {α : Type} (limits : Limits) (c : Conditions) (probe : Probe)
    (program : Program α) {guardian : Guardian} (live : guardian.live.isSome = true) :
    guardian.Resolves (limits.run c probe program guardian).2.1 := by
  cases spawned : c.spawnFault with
  | some cause =>
    rw [run_of_unspawned spawned]
    exact .refl
  | none =>
    rw [run_of_spawned spawned]
    exact (limits.behindFilter c program).runFrom_resolves ⟨⟨false, ⟨0⟩, guardian⟩, []⟩ rfl live

/-! ## A gate as a site -/

namespace Premises

variable {γ : Type} [DecidableEq γ]

/-- A gate of the process, with the guard slot. -/
def site (s : Premises γ) (k : γ) : Site := ⟨s.gates k, s.guardian⟩

/-- What is shared after a site at one of the gates has changed. -/
def withSite (s : Premises γ) (k : γ) (site : Site) : Premises γ :=
  { s with gates := Function.update s.gates k site.gate, guardian := site.guardian }

end Premises

/-! ## One request and its run -/

/-- A request in a process where nothing else happens: what is shared, how far the request has come,
and what its run has begun. -/
structure Solo (γ α : Type) extends Premises γ where
  stage : Stage α
  begun : List (Activity γ α)

namespace Solo

variable {γ α : Type} [DecidableEq γ]

/-- A deed of the request, or of its run while that is on. The run does what anyone can do, with
what it has itself begun; only that its calls of a gate come from inside. -/
inductive Step (k : γ) (deadline : Duration) : Solo γ α → Solo γ α → Prop where
  | advance (begun) {s stage s' stage'} (h : Advance k deadline s stage s' stage') :
    Step k deadline ⟨s, stage, begun⟩ ⟨s', stage', begun⟩
  | work (generation before after) {s involved s' involved'} (deed : Deed s involved s' involved')
      (inside : ∀ j other body, .admission j other (.asked false body) ∉ involved') :
    Step k deadline ⟨s, .inside (.running generation), before ++ involved ++ after⟩
      ⟨s', .inside (.running generation), before ++ involved' ++ after⟩

/-- How a request and its run go on, in any number of deeds. -/
def Reaches (k : γ) (deadline : Duration) : Solo γ α → Solo γ α → Prop :=
  Relation.ReflTransGen (Step k deadline)

variable {s s' : Premises γ} {k : γ} {deadline : Duration} {stage stage' : Stage α}

/-- A request that is asked for. -/
def ask (s : Premises γ) (isInside : Bool) (body : List Tree.Stmt) : Solo γ α :=
  ⟨s, .asked isInside body, []⟩

theorem Reaches.advance {c : Solo γ α} {begun : List (Activity γ α)}
    (h : Reaches k deadline c ⟨s, stage, begun⟩) (next : Advance k deadline s stage s' stage') :
    Reaches k deadline c ⟨s', stage', begun⟩ :=
  h.tail (.advance begun next)

theorem reaches_of_resolves {generation : Nat} {guardian : Guardian}
    (h : s.guardian.Resolves guardian) :
    Reaches (α := α) k deadline ⟨s, .inside (.running generation), []⟩
      ⟨{ s with guardian }, .inside (.running generation), []⟩ := by
  induction h with
  | refl => exact .refl
  | tail _ resolved ih =>
    obtain ⟨number, path, rfl⟩ := resolved
    exact ih.tail (.work generation [] [] (.resolve { s with guardian := _ } number path) (by simp))

/-- From a run on, the deeds of a request are those of a session that is left. -/
theorem reaches_left (session : Session) (engine : Engine α) (c : Conditions)
    (live : s.guardian.live.isSome = true) :
    Reaches k deadline ⟨s, .inside (.running session.generation), []⟩
      ⟨{ s.withSite k ((s.site k).leave session engine c).2 with isLocked := false },
        .ended (.answered ((s.site k).leave session engine c).1), []⟩ := by
  let program := (Namespace.load session.generation session.body).bind engine
  let ran := session.limits.run c (s.gates k).probe program s.guardian
  have worked : Reaches (α := α) k deadline ⟨s, .inside (.running session.generation), []⟩
      ⟨{ s with guardian := ran.2.1 }, .inside (.running session.generation), []⟩ :=
    reaches_of_resolves (session.limits.run_resolves c _ program live)
  have stopped := worked.advance (.stop _ _ (some ran.1) ran.2.2)
  have released := (stopped.advance (.release _ _ _)).advance (.countRelease _ _)
  have answered := (released.advance (.answer _ ran.1)).advance (.leave _ _)
  have freed := answered.advance (.free _ _)
  -- each deed changed the same gate, so the changes are one change of it
  simp only [Premises.atGate, Function.update_self, Function.update_idem] at freed
  exact freed

section Serve

variable {body : List Tree.Stmt}

theorem reaches_raised (silent : (Tree.violations (s.gates k).policy body).isEmpty = true)
    (deadline : Duration) : Reaches (α := α) k deadline (ask s false body)
      ⟨s.atGate k (·.raise), .raised (s.gates k).pending, []⟩ :=
  (Reaches.advance .refl (.accept silent)).advance (.raise _)

theorem reaches_entered (silent : (Tree.violations (s.gates k).policy body).isEmpty = true)
    (room : (s.gates k).pending < (s.gates k).limits.maxPending) (free : s.isLocked = false)
    (deadline : Duration) :
    Reaches (α := α) k deadline (ask s false body)
      ⟨{ s.atGate k (·.raise) with isLocked := true }, .inside .entered, []⟩ :=
  ((reaches_raised silent deadline).advance (.grant (by simpa [Gate.raise]))).advance (.enter free)

section Installed

variable (silent : (Tree.violations (s.gates k).policy body).isEmpty = true)
  (room : (s.gates k).pending < (s.gates k).limits.maxPending) (free : s.isLocked = false)
  {generation : Nat} {guardian : Guardian}
  (installed : s.guardian.install (s.gates k).policy = (.ok generation, guardian)) {now : Instant}

include silent room free installed

theorem reaches_opening (deadline : Duration) :
    Reaches (α := α) k deadline (ask s false body)
      ⟨{ s.withSite k ⟨(s.gates k).opened, guardian⟩ with isLocked := true },
        .inside (.opening generation), []⟩ := by
  have entered := reaches_entered (α := α) silent room free deadline
  have opening := (entered.advance (.install (by simpa [Gate.raise]))).advance (.countInstall _ _)
  simp only [Premises.atGate, Function.update_self, Function.update_idem] at opening
  exact opening

theorem reaches_running (inTime : now.canAdd deadline = true) :
    Reaches (α := α) k deadline (ask s false body)
      ⟨{ s.withSite k ⟨(s.gates k).opened, guardian⟩ with isLocked := true },
        .inside (.running generation), []⟩ :=
  (reaches_opening silent room free installed deadline).advance (.begin _ _ inTime)

/-- An opening that unwinds gives back the guard, the session lock and the slot. -/
theorem reaches_unopened (overrun : now.canAdd deadline = false) :
    Reaches (α := α) k deadline (ask s false body)
      ⟨{ s.withSite k ⟨(s.gates k).installed, guardian.release generation⟩ with
          isLocked := false }, .ended .unopened, []⟩ := by
  have opening := reaches_opening (α := α) silent room free installed deadline
  have abandoned := (opening.advance (.overrun _ _ overrun)).advance (.abandon _ _)
  have freed := (abandoned.advance (.leave _ _)).advance (.free _ _)
  simp only [Premises.atGate, Premises.withSite, Function.update_self, Function.update_idem]
    at freed
  exact freed

end Installed

/-- Where the session lock is free, a request whose deeds come in a row does to the process what
serving it does to the site of its gate, and leaves it alike. -/
theorem reaches_served (s : Premises γ) (k : γ) (free : s.isLocked = false)
    (body : List Tree.Stmt) (deadline : Duration) (ceiling : Nat) (engine : Engine α)
    (c : Conditions) :
    Reaches k deadline (ask s false body)
      ⟨s.withSite k ((s.site k).serve body deadline ceiling engine c).2,
        .ended ((s.site k).serve body deadline ceiling engine c).1, []⟩ := by
  have unlocked (site : Site) :
      { s.withSite k site with isLocked := false } = s.withSite k site := by
    simp [Premises.withSite, free]
  cases silent : (Tree.violations (s.gates k).policy body).isEmpty with
  | false =>
    rw [Site.serve, Site.enter_of_rejected silent]
    exact Reaches.advance .refl (.reject silent)
  | true =>
    rcases Nat.lt_or_ge (s.gates k).pending (s.gates k).limits.maxPending with room | full
    · rcases installed : s.guardian.install (s.gates k).policy with ⟨refusal | generation, guardian⟩
      · obtain rfl := Guardian.eq_of_refused_install installed
        have refused := ((reaches_entered (α := α) silent room free deadline).advance
          (.refuseInstall (by simpa [Gate.raise]))).advance (.leave _ _)
        have freed := refused.advance (.free _ _)
        simp only [Premises.atGate, Function.update_self, Function.update_idem] at freed
        rw [Site.serve, Site.enter_of_refused silent room installed, ← unlocked]
        exact freed
      · cases inTime : c.now.canAdd deadline with
        | false =>
          rw [Site.serve, Site.enter_of_overrun silent room installed inTime, ← unlocked]
          exact reaches_unopened silent room free installed inTime
        | true =>
          have live := congrArg (·.isSome) (Guardian.live_of_install installed).2
          have left := (reaches_running silent room free installed inTime).trans (reaches_left
            ⟨generation, body, (s.gates k).limits.forRun deadline ceiling⟩ engine c live)
          simp only [Premises.withSite, Premises.site, Function.update_self, Function.update_idem]
            at left
          rw [Site.serve, Site.enter_of_canAdd silent room installed inTime, ← unlocked]
          exact left
    · rw [Site.serve, Site.enter_of_full silent full]
      have lowered := (reaches_raised (α := α) silent deadline).advance
        (.lower (by simpa [Gate.raise] using full))
      have turned := lowered.advance (.turnAway _)
      simp only [Premises.atGate, Function.update_self, Function.update_idem] at turned
      exact turned

end Serve

end Solo

/-! ## Among others -/

namespace Process

variable {γ α : Type} [DecidableEq γ] {s s' : Premises γ} {k : γ} {deadline : Duration}
  {stage stage' : Stage α}

/-- A process in which the request that was asked for last is at a stage. -/
def withLast (s : Premises γ) (others : List (Activity γ α)) (k : γ) (deadline : Duration)
    (stage : Stage α) : Process γ α :=
  ⟨s, others ++ [.admission k deadline stage]⟩

/-- A process in which nothing has happened lately but a request and its run. -/
def withSolo (others : List (Activity γ α)) (k : γ) (deadline : Duration) (c : Solo γ α) :
    Process γ α :=
  ⟨c.toPremises, others ++ [.admission k deadline c.stage] ++ c.begun⟩

theorem step_of_solo (others : List (Activity γ α)) {c d : Solo γ α}
    (h : Solo.Step k deadline c d) :
    Step (withSolo others k deadline c) (withSolo others k deadline d) := by
  cases h with
  | advance begun h => exact Step.turn others begun (.advance h)
  | work generation before after deed =>
    simpa [withSolo] using
      Step.turn (others ++ .admission k deadline (.inside (.running generation)) :: before) after
        deed

theorem reaches_of_solo (others : List (Activity γ α))
    (h : Solo.Reaches k deadline ⟨s, stage, []⟩ ⟨s', stage', []⟩) :
    Reaches (withLast s others k deadline stage) (withLast s' others k deadline stage') := by
  have reaches : Reaches (withSolo others k deadline ⟨s, stage, []⟩)
      (withSolo others k deadline ⟨s', stage', []⟩) :=
    Relation.ReflTransGen.lift (withSolo others k deadline) (fun _ _ => step_of_solo others) _ _ h
  simpa [withSolo, withLast] using reaches

section Serve

variable {p : Process γ α} {body : List Tree.Stmt}

theorem reaches_asked (p : Process γ α) (k : γ) (deadline : Duration) (body : List Tree.Stmt) :
    Reaches p (withLast p.toPremises p.underWay k deadline (.asked false body)) := by
  refine .single ?_
  simpa [withLast] using Step.turn p.underWay [] (Deed.ask p.toPremises k deadline false body)

theorem reaches_raised (silent : (Tree.violations (p.gates k).policy body).isEmpty = true)
    (deadline : Duration) :
    Reaches p
      (withLast (p.atGate k (·.raise)) p.underWay k deadline (.raised (p.gates k).pending)) :=
  (reaches_asked p k deadline body).trans (reaches_of_solo _ (Solo.reaches_raised silent deadline))

theorem reaches_running (silent : (Tree.violations (p.gates k).policy body).isEmpty = true)
    (room : (p.gates k).pending < (p.gates k).limits.maxPending) (free : p.isLocked = false)
    {generation : Nat} {guardian : Guardian}
    (installed : p.guardian.install (p.gates k).policy = (.ok generation, guardian))
    {now : Instant} (inTime : now.canAdd deadline = true) :
    Reaches p
      (withLast { p.withSite k ⟨(p.gates k).opened, guardian⟩ with isLocked := true } p.underWay k
        deadline (.inside (.running generation))) :=
  (reaches_asked p k deadline body).trans
    (reaches_of_solo _ (Solo.reaches_running silent room free installed inTime))

theorem reaches_unopened (silent : (Tree.violations (p.gates k).policy body).isEmpty = true)
    (room : (p.gates k).pending < (p.gates k).limits.maxPending) (free : p.isLocked = false)
    {generation : Nat} {guardian : Guardian}
    (installed : p.guardian.install (p.gates k).policy = (.ok generation, guardian))
    {now : Instant} (overrun : now.canAdd deadline = false) :
    Reaches p
      (withLast { p.withSite k ⟨(p.gates k).installed, guardian.release generation⟩ with
        isLocked := false } p.underWay k deadline (.ended .unopened)) :=
  (reaches_asked p k deadline body).trans
    (reaches_of_solo _ (Solo.reaches_unopened silent room free installed overrun))

theorem reaches_served (p : Process γ α) (k : γ) (free : p.isLocked = false)
    (body : List Tree.Stmt) (deadline : Duration) (ceiling : Nat) (engine : Engine α)
    (c : Conditions) :
    Reaches p
      (withLast (p.withSite k ((p.site k).serve body deadline ceiling engine c).2) p.underWay k
        deadline (.ended ((p.site k).serve body deadline ceiling engine c).1)) :=
  (reaches_asked p k deadline body).trans
    (reaches_of_solo _ (Solo.reaches_served p.toPremises k free body deadline ceiling engine c))

end Serve

end Process

end SourceGate
