import SourceGate.Gate.Report
import SourceGate.Proofs.Gate.Entering
import SourceGate.Proofs.Run.Alike

/-! # Nothing that is said in a run is told outside

A run that fails is told by its outermost signal: a blocked import, a second guard, or that it was
given up. Every other failure is told as an internal fault, which carries nothing. So two runs that
differ in what their failures say get the same answer and the same report, and no failure can pass
for a parse error, a verdict, an overload or a limit that was not reached.
-/

namespace SourceGate

/-- The refusals by which a run makes itself heard. -/
inductive Refusal.IsSignal : Refusal → Prop where
  | importBlocked (path root) : IsSignal (.importBlocked path root)
  | reentrancy : IsSignal .reentrancy
  | cancelled : IsSignal .cancelled

theorem Refusal.surfaces_iff {r : Refusal} : r.surfaces = true ↔ r.IsSignal := by
  constructor
  · intro h
    cases r with
    | importBlocked path root => exact .importBlocked path root
    | reentrancy => exact .reentrancy
    | cancelled => exact .cancelled
    | _ => cases h
  · rintro (_ | _ | _) <;> rfl

/-- No signal is among some causes. -/
def Silent (causes : List Cause) : Prop := ∀ r, .refusal r ∈ causes → ¬ r.IsSignal

/-- What a failure is told as: its outermost signal, however deep, or nothing but that it is one. -/
inductive Failure.ToldAs (f : Failure) : Refusal → Prop where
  | signal {before r after} (causes : f.causes = before ++ .refusal r :: after)
      (isSignal : r.IsSignal) (outermost : Silent before) : ToldAs f r
  | silent (h : Silent f.causes) : ToldAs f .internalFault

theorem Silent.find?_eq_none {causes : List Cause} (h : Silent causes) :
    (causes.filterMap (·.refusal?)).find? (·.surfaces) = none := by
  rw [List.find?_eq_none]
  intro r hr surfaces
  obtain ⟨c, hc, same⟩ := List.mem_filterMap.1 hr
  cases c with
  | text message => cases same
  | refusal r' =>
    cases same
    exact h r hc (Refusal.surfaces_iff.1 surfaces)

/-- Causes are silent, or some signal is the outermost of them. -/
theorem silent_or_exists_outermost (causes : List Cause) :
    Silent causes ∨ ∃ before r after,
      causes = before ++ .refusal r :: after ∧ r.IsSignal ∧ Silent before := by
  induction causes with
  | nil => exact .inl (by simp [Silent])
  | cons c rest ih =>
    by_cases h : ∃ r, c = .refusal r ∧ r.IsSignal
    · obtain ⟨r, rfl, isSignal⟩ := h
      exact .inr ⟨[], r, rest, rfl, isSignal, by simp [Silent]⟩
    have silent {causes : List Cause} (later : Silent causes) : Silent (c :: causes) := by
      intro r hr isSignal
      rcases List.mem_cons.1 hr with rfl | hr
      · exact h ⟨r, rfl, isSignal⟩
      · exact later r hr isSignal
    rcases ih with later | ⟨before, r, after, rfl, isSignal, outermost⟩
    · exact .inl (silent later)
    · exact .inr ⟨c :: before, r, after, rfl, isSignal, silent outermost⟩

namespace Failure

variable {f : Failure} {r : Refusal}

theorem ToldAs.eq_surface (h : f.ToldAs r) : r = f.surface := by
  cases h with
  | signal causes isSignal outermost =>
    rw [surface, causes, List.filterMap_append, List.find?_append, outermost.find?_eq_none]
    simp [Cause.refusal?, Refusal.surfaces_iff.2 isSignal]
  | silent h => rw [surface, h.find?_eq_none, Option.getD_none]

theorem ToldAs.isSignal_or (h : f.ToldAs r) : r.IsSignal ∨ r = .internalFault := by
  cases h with
  | signal _ isSignal _ => exact .inl isSignal
  | silent _ => exact .inr rfl

theorem exists_toldAs (f : Failure) : ∃ r, f.ToldAs r := by
  rcases silent_or_exists_outermost f.causes with silent | ⟨_, r, _, causes, isSignal, outermost⟩
  · exact ⟨_, .silent silent⟩
  · exact ⟨r, .signal causes isSignal outermost⟩

theorem toldAs_iff : f.ToldAs r ↔ r = f.surface := by
  refine ⟨ToldAs.eq_surface, ?_⟩
  rintro rfl
  obtain ⟨r, told⟩ := f.exists_toldAs
  rwa [← told.eq_surface]

end Failure

variable {α : Type}

/-- Why an outcome is refused: a limit was reached, or the run failed. -/
inductive Outcome.RefusedAs : Outcome α → Refusal → Prop where
  | deadline (deadline) : RefusedAs (.deadlineExceeded deadline) (.deadlineExceeded deadline)
  | memory (ceiling observed) :
      RefusedAs (.memoryExceeded ceiling observed) (.memoryExceeded ceiling observed)
  | fault {failure r} (told : failure.ToldAs r) : RefusedAs (.faulted failure) r

theorem Outcome.answer_eq_error_iff {o : Outcome α} {r : Refusal} :
    o.answer = .error r ↔ o.RefusedAs r := by
  constructor
  · intro h
    cases o with
    | completed value => cases h
    | deadlineExceeded deadline =>
      cases h
      exact .deadline deadline
    | memoryExceeded ceiling observed =>
      cases h
      exact .memory ceiling observed
    | faulted failure =>
      cases h
      exact .fault (Failure.toldAs_iff.2 rfl)
  · rintro (_ | _ | told)
    · rfl
    · rfl
    · rw [answer, told.eq_surface]

/-- Two engines that do the same with every module and fail at the same points, with the same
signals. -/
def Engine.Alike (e e' : Engine α) : Prop := ∀ n, (e n).Alike (e' n)

theorem Session.program_alike {e e' : Engine α} (alike : e.Alike e') (session : Session) :
    (session.program e).Alike (session.program e') :=
  (Program.Alike.refl _).bind alike

namespace Site

variable (s : Site) (body : List Tree.Stmt) (deadline : Duration) (ceiling : Nat)

/-- The report on a request that is answered. -/
def report? (e : Engine α) (c : Conditions) : Option (Report α) :=
  (s.serve body deadline ceiling e c).1.answer?.map (.ofAnswer s.gate.policy)

/-- The site after a session, by whether its run was completed and what the run left behind. -/
def closed (session : Session) (isCompleted : Bool) (left : Guardian × Probe) : Site :=
  (Site.mk { s.gate with probe := left.2, pending := s.gate.pending - 1 }
    (left.1.release session.generation)).count fun c =>
      { c with
        releases := c.releases + 1
        admitted := if isCompleted then c.admitted + 1 else c.admitted }

theorem leave_eq (session : Session) (e : Engine α) (c : Conditions) :
    s.leave session e c =
      ((s.running session e c).1.answer,
        s.closed session (s.running session e c).1.isCompleted (s.running session e c).2) :=
  rfl

theorem leave_alike {e e' : Engine α} (alike : e.Alike e') (session : Session) (c : Conditions) :
    s.leave session e c = s.leave session e' c := by
  have runs : (s.running session e c).1.Alike (s.running session e' c).1 ∧
      (s.running session e c).2 = (s.running session e' c).2 :=
    (session.program_alike alike).run session.limits c s.gate.probe s.guardian
  rw [leave_eq, leave_eq, runs.1.answer_eq, runs.1.isCompleted_eq, runs.2]

theorem serve_alike {e e' : Engine α} (alike : e.Alike e') (c : Conditions) :
    s.serve body deadline ceiling e c = s.serve body deadline ceiling e' c := by
  unfold serve
  split
  · rfl
  · rfl
  · next session entered _ => rw [entered.leave_alike alike session c]

end Site

/-- What is told of a request to a gate when one of two engines runs behind it. -/
structure Discreet (s : Site) (body : List Tree.Stmt) (deadline : Duration) (ceiling : Nat)
    (c : Conditions) (e e' : Engine α) : Prop where
  served : s.serve body deadline ceiling e c = s.serve body deadline ceiling e' c
  report : s.report? body deadline ceiling e c = s.report? body deadline ceiling e' c
  rendered : (s.report? body deadline ceiling e c).map (·.render) =
    (s.report? body deadline ceiling e' c).map (·.render)
  exitCode : (s.report? body deadline ceiling e c).map (·.exitCode) =
    (s.report? body deadline ceiling e' c).map (·.exitCode)
  /-- Whatever the clock and the memory say and whenever the results come. -/
  supervised : ∀ (limits : Limits) (baseline : Option Nat) {rounds rounds' : List (Round α)},
    List.Forall₂ Round.Alike rounds rounds' →
      (limits.supervise baseline rounds).map (·.answer) =
        (limits.supervise baseline rounds').map (·.answer)
  /-- No refusal stands for an outcome but its own. -/
  answers : ∀ (outcome : Outcome α) {r}, outcome.answer = .error r ↔ outcome.RefusedAs r
  unforged : ∀ {failure r}, (Outcome.faulted failure : Outcome α).answer = .error r →
    r.IsSignal ∨ r = .internalFault
  refused : ∀ {session entered r},
    s.enter body deadline ceiling c.now = (.opened session, entered) →
      ((s.serve body deadline ceiling e c).1 = .answered (.error r) ↔
        (entered.running session e c).1.RefusedAs r)
  /-- What is told of is the failure in which the program ended, or what kept the run from it. -/
  faults : ∀ {session entered failure},
    s.enter body deadline ceiling c.now = (.opened session, entered) →
      (entered.running session e c).1 = .faulted failure →
        c.Prevents session.limits failure ∨
          ((session.program e).run ⟨false, ⟨0⟩, entered.guardian⟩).1 = some (.error failure)

theorem discreet_of_alike (s : Site) (body : List Tree.Stmt) (deadline : Duration) (ceiling : Nat)
    (c : Conditions) {e e' : Engine α} (alike : e.Alike e') :
    Discreet s body deadline ceiling c e e' := by
  have served := s.serve_alike body deadline ceiling alike c
  have report : s.report? body deadline ceiling e c = s.report? body deadline ceiling e' c := by
    rw [Site.report?, served, Site.report?]
  exact {
    served
    report
    rendered := by rw [report]
    exitCode := by rw [report]
    supervised := fun limits baseline _ _ h => by
      have same := limits.supervise_alike baseline h
      generalize limits.supervise baseline _ = o at same
      generalize limits.supervise baseline _ = o' at same
      cases same with
      | none => rfl
      | some same => exact congrArg some same.answer_eq
    answers := fun _ => Outcome.answer_eq_error_iff
    unforged := fun h => by
      cases Outcome.answer_eq_error_iff.1 h with
      | fault told => exact told.isSignal_or
    refused := fun h => by
      rw [Site.serve_of_enter h, Exit.answered.injEq, Outcome.answer_eq_error_iff]
    faults := fun _ h => Program.run_of_faulted h }

/-- An engine that fails with a text and what was being done, and one that panics with another. -/
def talking : Engine Unit := fun n =>
  .fail ((Failure.ofText "no entry for 'token'").saying s!"reading the cache of {n.generation}")

def panicking : Engine Unit := fun _ => .panic (.text "index out of bounds")

theorem talking_discreet :
    Engine.Alike talking panicking ∧
      Discreet ⟨.ofPolicy .standard .standard [], .start⟩ [.imports ⟨1, 1⟩ ["math"]]
        (.ofMillis 1000) 1024 .calm talking panicking := by
  have alike : Engine.Alike talking panicking := fun _ => .failing rfl rfl rfl
  exact ⟨alike, discreet_of_alike _ _ _ _ _ alike⟩

/-- A blocked import is told, and not what was said about it. -/
example : ((Failure.ofRefusal (.importBlocked "os.path" "os")).saying "loading helpers").surface =
    .importBlocked "os.path" "os" :=
  rfl

end SourceGate
