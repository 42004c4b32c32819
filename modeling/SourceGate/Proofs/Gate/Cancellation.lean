import SourceGate.Gate.Basic
import SourceGate.Proofs.Run.Course

/-! # A cancellation is never an answer

Loading a module is candid, so a request with a candid engine is never answered by a cancellation,
in whatever order its supervisor and its worker proceed. Where the token is tripped the answer is a
breach already.
-/

namespace SourceGate

variable {α : Type}

theorem Failure.surface_ne_cancelled {f : Failure} (h : ¬ f.IsCancelled) :
    f.surface ≠ .cancelled := by
  unfold surface
  cases found : (f.causes.filterMap (·.refusal?)).find? (·.surfaces) with
  | none => simp
  | some r =>
    rintro rfl
    obtain ⟨cause, among, told⟩ := List.mem_filterMap.1 (List.mem_of_find?_eq_some found)
    cases cause with
    | text message => cases told
    | refusal r =>
      cases told
      exact h among

/-! ## Candid loading -/

namespace Program

theorem candid_ofAnswer {answer : Except Refusal α} (h : answer ≠ .error .cancelled) :
    (ofAnswer answer).Candid false := by
  cases answer with
  | ok value => trivial
  | error refusal =>
    intro cancelled
    cases List.mem_singleton.1 cancelled
    exact absurd rfl h

/-- What a checkpoint refuses is told by it. -/
theorem candid_checkpoint_bind {next : Program α} (h : next.Candid false) :
    (do ofAnswer (← checkpoint); next : Program α).Candid false := by
  intro tripped
  cases tripped with
  | false => exact h
  | true => exact fun _ => rfl

end Program

namespace Namespace

theorem candid_importAll (generation : Nat) (paths : List String) :
    (importAll generation paths).Candid false := by
  induction paths with
  | nil => trivial
  | cons path rest ih =>
    intro answer other
    exact (Program.candid_ofAnswer other).bind fun _ => ih.bind fun _ => trivial

theorem candid_loadFrom (n : Namespace) (body : List Tree.Stmt) :
    (loadFrom n body).Candid false := by
  induction body generalizing n with
  | nil => trivial
  | cons s rest ih =>
    exact Program.candid_checkpoint_bind ((candid_importAll n.generation _).bind fun _ => ih _)

end Namespace

/-- The engine that lists what was loaded is candid. -/
theorem Engine.candid_inventory (target : String) (n : Namespace) :
    (Engine.inventory target n).Candid false :=
  Program.candid_checkpoint_bind trivial

/-! ## Answers -/

namespace Site

variable {s : Site} {body : List Tree.Stmt} {deadline : Duration} {memoryCeiling : Nat}
  {engine : Engine α}

/-- A state of the run behind a request that is let in. -/
inductive Comes (s : Site) (body : List Tree.Stmt) (deadline : Duration) (memoryCeiling : Nat)
    (engine : Engine α) : Limits → Option Nat → Course α → Prop where
  | intro {now session s' start baseline c}
      (entered : s.enter body deadline memoryCeiling now = (.opened session, s'))
      (starts : Course.Starts session.limits
        ((Namespace.load session.generation session.body).bind engine) s'.guardian start)
      (run : Course.Reaches session.limits baseline start c) :
      Comes s body deadline memoryCeiling engine session.limits baseline c

/-- An answer to a request in some order of what its supervisor, its worker and others do. -/
inductive MayAnswer (s : Site) (body : List Tree.Stmt) (deadline : Duration) (memoryCeiling : Nat)
    (engine : Engine α) : Except Refusal α → Prop where
  /-- A run of this process asks. -/
  | nested : MayAnswer s body deadline memoryCeiling engine (.error .reentrancy)
  | refused {now refusal s'}
      (entered : s.enter body deadline memoryCeiling now = (.refused refusal, s')) :
      MayAnswer s body deadline memoryCeiling engine (.error refusal)
  | returned {limits baseline c outcome}
      (comes : s.Comes body deadline memoryCeiling engine limits baseline c)
      (returned : c.supervisor = .returned outcome) :
      MayAnswer s body deadline memoryCeiling engine outcome.answer

theorem enter_ne_cancelled {now : Instant} {refusal : Refusal} {s' : Site}
    (h : s.enter body deadline memoryCeiling now = (.refused refusal, s')) :
    refusal ≠ .cancelled := by
  simp only [enter] at h
  split at h
  · cases h
    simp
  · split at h
    · cases h
      simp
    · split at h
      · next found =>
        cases h
        rintro rfl
        exact Guardian.install_ne_cancelled s.gate.policy s.guardian (congrArg (·.1) found)
      · split at h <;> cases h

theorem Comes.honest {limits : Limits} {baseline : Option Nat} {c : Course α}
    (comes : s.Comes body deadline memoryCeiling engine limits baseline c)
    (candid : ∀ n, (engine n).Candid false) : c.Honest limits := by
  obtain ⟨entered, starts, run⟩ := comes
  exact run.honest (starts.honest ((Namespace.candid_loadFrom _ _).bind candid))

/-- The answer where nobody disturbs a request is one that it may get. -/
theorem mayAnswer_of_serve {c : Conditions} {answer : Except Refusal α}
    (h : (s.serve body deadline memoryCeiling engine c).1 = .answered answer) :
    s.MayAnswer body deadline memoryCeiling engine answer := by
  unfold serve at h
  split at h
  · next entered =>
    cases h
    exact .refused entered
  · cases h
  · next session s' entered =>
    cases h
    obtain ⟨baseline, start, course, starts, run, returned⟩ :=
      Course.exists_reaches_run session.limits c s'.gate.probe
        ((Namespace.load session.generation session.body).bind engine) s'.guardian
    exact .returned ⟨entered, starts, run⟩ returned

/-- No order of acts makes a cancellation the answer, and the order in which a request is served that
nobody disturbs is one of them. Once the token is tripped a breach is the outcome, and whatever the
worker does then, it is the outcome that is returned. -/
theorem answer_ne_cancelled (s : Site) (body : List Tree.Stmt) (deadline : Duration)
    (memoryCeiling : Nat) {engine : Engine α} (candid : ∀ n, (engine n).Candid false) :
    (∀ answer, s.MayAnswer body deadline memoryCeiling engine answer →
      answer ≠ .error .cancelled) ∧
    (∀ c answer, (s.serve body deadline memoryCeiling engine c).1 = .answered answer →
      s.MayAnswer body deadline memoryCeiling engine answer) ∧
    ∀ limits baseline c, s.Comes body deadline memoryCeiling engine limits baseline c →
      c.worker.tripped = true →
      ∃ breach : Outcome α, breach.isBreach = true ∧ c.supervisor.outcome? = some breach ∧
        ∀ c' outcome, Course.Reaches limits baseline c c' → c'.supervisor = .returned outcome →
          outcome = breach := by
  refine ⟨?_, fun _ _ => mayAnswer_of_serve, ?_⟩
  · rintro answer (_ | entered | ⟨comes, returned⟩)
    · simp
    · simpa using enter_ne_cancelled entered
    · next outcome =>
      cases outcome with
      | faulted f =>
        have uncancelled := (comes.honest candid).returned f returned
        simpa [Outcome.answer] using Failure.surface_ne_cancelled uncancelled
      | _ => simp [Outcome.answer]
  · intro limits baseline c comes tripped
    obtain ⟨breach, broken, fixed⟩ := ((comes.honest candid).givesUp tripped).outcome?
    refine ⟨breach, broken, fixed, fun c' outcome run returned => ?_⟩
    have kept := run.outcome? fixed
    rw [returned] at kept
    exact Option.some.inj kept

/-- The worker fails for being cancelled, and is told so by a run whose deadline is at its start. -/
theorem answer_ne_cancelled_of_grace :
    let engine : Engine Nat := fun _ =>
      .awaitToken (.fail ((Failure.ofRefusal .cancelled).saying "stopped"))
    let s : Site := ⟨Gate.ofPolicy .standard .standard [], .start⟩
    (∀ n, (engine n).Candid false) ∧
    s.MayAnswer [] ⟨0⟩ 0 engine (.error (.deadlineExceeded ⟨0⟩)) ∧
    ∀ answer, s.MayAnswer [] ⟨0⟩ 0 engine answer → answer ≠ .error .cancelled := by
  intro engine s
  have candid (n : Namespace) : (engine n).Candid false := fun _ => rfl
  have answer : s.MayAnswer [] ⟨0⟩ 0 engine (.error (.deadlineExceeded ⟨0⟩)) := by
    let limits := GateLimits.standard.forRun ⟨0⟩ 0
    let s' : Site := (s.enter [] ⟨0⟩ 0 .start).2
    let stopped := (Failure.ofRefusal .cancelled).saying "stopped"
    have entered : s.enter [] ⟨0⟩ 0 .start = (.opened ⟨1, [], limits⟩, s') := rfl
    have late : limits.deadline.nanos ≤ (⟨0⟩ : Duration).nanos := Nat.le_refl 0
    have run : Course.Reaches limits none
        ⟨.looking, .working ((Namespace.load 1 []).bind engine), ⟨⟨false, ⟨0⟩, s'.guardian⟩, []⟩⟩
        ⟨.returned (.deadlineExceeded ⟨0⟩), .sent (.error stopped),
          ⟨⟨true, ⟨0⟩, s'.guardian⟩, []⟩⟩ := by
      refine .head (.supervise (.readClock ⟨0⟩) (.late late) trivial) ?_
      refine .head (.supervise .trip .trip trivial) ?_
      refine .head (.work rfl) ?_
      refine .head (.send rfl) ?_
      exact .single (.supervise (.receive limits.grace (.result _)) (.part _) (.result _))
    exact .returned ⟨entered, .spawned, run⟩ rfl
  exact ⟨candid, answer, (answer_ne_cancelled s [] ⟨0⟩ 0 candid).1⟩

end Site

end SourceGate
