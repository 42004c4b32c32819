import SourceGate.CommandLine.Check
import SourceGate.Proofs.CommandLine.Variables
import SourceGate.Proofs.Config.InPlace
import SourceGate.Proofs.Gate.Entering
import SourceGate.Proofs.Run.Shortage

/-! # The status of a check

A request that gets as far as its gate is answered, and ends with the status of the answer: 0 if the
source is admitted, 2 if the source is at fault, 1 if anything else is. Before that, a request for
help ends with 0, a request that is not understood with 2, and one that fails with 1. So 2 does not
say that a source was looked at, and a variable that the configuration reads may be why.
-/

namespace SourceGate

/-- The refusals that put the fault on the source. -/
inductive Refusal.BlamesSource : Refusal → Prop where
  | malformed (message place) : BlamesSource (.malformed message place)
  | rejected (found) : BlamesSource (.rejected found)
  | importBlocked (module root) : BlamesSource (.importBlocked module root)

theorem Refusal.status_of_blamesSource {r : Refusal} (h : r.BlamesSource) :
    r.status = .rejected := by
  cases h <;> rfl

theorem Refusal.status_of_not_blamesSource {r : Refusal} (h : ¬ r.BlamesSource) :
    r.status = .failed := by
  cases r with
  | malformed message place => exact absurd (.malformed message place) h
  | rejected found => exact absurd (.rejected found) h
  | importBlocked module root => exact absurd (.importBlocked module root) h
  | _ => rfl

namespace Config

theorem fitsMillis_of_load {env : Environment} {read : Readable} {c : Config}
    (h : load env read = .ok c) : c.FitsMillis := by
  obtain ⟨unchecked, layers, valid⟩ := bind_eq_ok_iff.1 h
  obtain ⟨-, policy, -, rfl⟩ := validate_eq_ok_iff.1 valid
  have fits := fitsMillis_layered layers
  exact ⟨fits.deadline, fits.pollInterval, fits.grace⟩

theorem Sound.isBrief {c : Config} (h : c.Sound) : c.deadline.IsBrief := by
  obtain ⟨n, same, -, high⟩ := h.deadline
  have small : 2 * (n * 1000000) ≤ Word.signedCount * 1000000000 := by
    simp only [Word.signedCount]
    omega
  rw [same]
  exact small

theorem Sound.deadline_pos {c : Config} (h : c.Sound) : 0 < c.deadline.nanos := by
  obtain ⟨n, same, low, -⟩ := h.deadline
  have positive : 0 < n * 1000000 := by omega
  rw [same]
  exact positive

/-- The samples are taken over as they are. -/
theorem gate_probing {c : Config} {probe : Probe} {gate : Gate} (h : c.gate probe = .ok gate)
    (probe' : Probe) : c.gate probe' = .ok { gate with probe := probe' } := by
  obtain ⟨policy, made, h⟩ := bind_eq_ok_iff.1 h
  obtain ⟨limits, within, ⟨⟩⟩ := bind_eq_ok_iff.1 h
  exact bind_eq_ok_iff.2 ⟨policy, made, bind_eq_ok_iff.2 ⟨limits, within, rfl⟩⟩

end Config

namespace CommandLine

/-- The arguments are not understood. -/
def Request.Misused (request : Request) : Prop :=
  Order.ofList? request.vars request.arguments = none

def Request.AsksHelp (request : Request) : Prop :=
  Order.ofList? request.vars request.arguments = some .help

/-- A request asks for a check, and has a configuration and a source for it. -/
structure Request.Brings (request : Request) (a : Arguments) (config : Config) (source : String) :
    Prop where
  order : Order.ofList? request.vars request.arguments = some (.check a)
  config : ∃ loaded, Config.load request.environment request.read = .ok loaded ∧
    (a.upon loaded).validate = .ok config
  source : readSource request a.file = .ok source

/-- The gate that a request configures answers the source that it names. -/
inductive Request.Answered (request : Request) : Except Refusal Inventory → Prop where
  | intro {a config source gate answer} (brings : request.Brings a config source)
      (made : config.gate request.memory = .ok gate)
      (answers : ((Site.mk gate .start).analyze source a.function request.conditions).1 =
        .answered answer) : Answered request answer

/-- A check is asked for that does not get as far as an answer. -/
def Request.Fails (request : Request) : Prop :=
  (∃ a, Order.ofList? request.vars request.arguments = some (.check a)) ∧
    ∀ answer, ¬ request.Answered answer

variable {request : Request}

theorem Request.Answered.order {answer : Except Refusal Inventory} (h : request.Answered answer) :
    ∃ a, Order.ofList? request.vars request.arguments = some (.check a) :=
  match h with
  | .intro brings _ _ => ⟨_, brings.order⟩

/-! ## The way to an answer -/

namespace Request.Brings

variable {a : Arguments} {config : Config} {source : String} {gate : Gate}

/-- The numbers of the arguments keep the bounds like those of any layer. -/
theorem sound (h : request.Brings a config source) : config.Sound := by
  obtain ⟨loaded, load, valid⟩ := h.config
  obtain ⟨kept, policy, -, rfl⟩ := Config.validate_eq_ok_iff.1 valid
  have fits := Config.fitsMillis_of_load load
  have deadline : (a.upon loaded).deadline.FitsMillis := by
    have small := deadlineMs_lt h.order
    unfold Arguments.upon
    cases given : a.deadlineMs with
    | none => exact fits.deadline
    | some n => exact ⟨n, small n given, rfl⟩
  exact Config.sound_withLists ⟨deadline, fits.pollInterval, fits.grace⟩ kept policy

theorem exists_makes (h : request.Brings a config source) :
    ∃ gate, config.Makes request.memory gate := by
  obtain ⟨loaded, load, valid⟩ := h.config
  obtain ⟨kept, policy, -, rfl⟩ := Config.validate_eq_ok_iff.1 valid
  exact Config.makes_withLists kept policy request.memory

theorem makes (h : request.Brings a config source)
    (made : config.gate request.memory = .ok gate) : config.Makes request.memory gate := by
  obtain ⟨gate', makes⟩ := h.exists_makes
  cases made.symm.trans makes.made
  exact makes

theorem deadline_eq (h : request.Brings a config source)
    (made : config.gate request.memory = .ok gate) : gate.limits.deadline = config.deadline := by
  rw [(h.makes made).limits]

theorem config_eq (h : request.Brings a config source) {a' : Arguments} {config' : Config}
    {source' : String} (h' : request.Brings a' config' source') : config = config' := by
  obtain ⟨loaded, load, valid⟩ := h.config
  obtain ⟨loaded', load', valid'⟩ := h'.config
  cases h.order.symm.trans h'.order
  cases load.symm.trans load'
  exact Except.ok.inj (valid.symm.trans valid')

theorem room (h : request.Brings a config source)
    (made : config.gate request.memory = .ok gate) :
    gate.pending < gate.limits.maxPending := by
  rw [(h.makes made).unused.1, (h.makes made).limits]
  exact h.sound.maxPending.1

theorem isBrief (h : request.Brings a config source)
    (made : config.gate request.memory = .ok gate) : gate.limits.deadline.IsBrief :=
  h.deadline_eq made ▸ h.sound.isBrief

/-- What gets as far as a gate is answered. -/
theorem exists_answered (h : request.Brings a config source)
    (made : config.gate request.memory = .ok gate) :
    ∃ answer, ((Site.mk gate .start).analyze source a.function request.conditions).1 =
      .answered answer :=
  Site.exists_answered_of_analyze (h.isBrief made) _ _ _

end Request.Brings

theorem judge_eq_ok_iff {a : Arguments} {policy : Policy} {exit : Exit Inventory}
    (order : Order.ofList? request.vars request.arguments = some (.check a)) :
    judge request a = .ok (policy, exit) ↔ ∃ config source gate, request.Brings a config source ∧
      config.gate request.memory = .ok gate ∧ policy = gate.policy ∧
      exit = ((Site.mk gate .start).analyze source a.function request.conditions).1 := by
  simp only [judge, bind_eq_ok_iff, mapError_eq_ok_iff]
  constructor
  · rintro ⟨loaded, load, config, valid, source, read, gate, made, ⟨⟩⟩
    exact ⟨config, source, gate, ⟨order, ⟨loaded, load, valid⟩, read⟩, made, rfl, rfl⟩
  · rintro ⟨config, source, gate, ⟨-, ⟨loaded, load, valid⟩, read⟩, made, rfl, rfl⟩
    exact ⟨loaded, load, config, valid, source, read, gate, made, rfl⟩

/-- A check either ends without a judgement or with an answer. -/
theorem answered_of_judge {a : Arguments} {policy : Policy} {exit : Exit Inventory}
    (order : Order.ofList? request.vars request.arguments = some (.check a))
    (h : judge request a = .ok (policy, exit)) :
    ∃ answer, exit = .answered answer ∧ request.Answered answer := by
  obtain ⟨config, source, gate, brings, made, -, rfl⟩ := (judge_eq_ok_iff order).1 h
  obtain ⟨answer, answers⟩ := brings.exists_answered made
  exact ⟨answer, answers, .intro brings made answers⟩

/-! ## The status of each ending -/

theorem status_of_misused (h : request.Misused) : (run request).status = 2 := by
  rw [run, h]

theorem status_of_asksHelp (h : request.AsksHelp) : (run request).status = 0 := by
  rw [run, h]

theorem status_of_fails (h : request.Fails) : (run request).status = 1 := by
  obtain ⟨⟨a, order⟩, unanswered⟩ := h
  simp only [run, order]
  split
  · next policy exit told =>
    obtain ⟨answer, -, answered⟩ := answered_of_judge order told
    exact absurd answered (unanswered answer)
  · rfl

theorem status_of_answered {answer : Except Refusal Inventory} (h : request.Answered answer) :
    ∃ r : Report Inventory, r.answer = answer ∧ (run request).status = r.exitCode := by
  obtain @⟨a, config, source, gate, _, brings, made, answers⟩ := h
  have judged : judge request a = .ok (gate.policy, .answered answer) :=
    (judge_eq_ok_iff brings.order).2 ⟨config, source, gate, brings, made, rfl, answers.symm⟩
  exact ⟨.ofAnswer gate.policy answer, rfl, by simp [run, brings.order, judged, Result.ofExit,
    Exit.answer?]⟩

theorem status_of_admitted {i : Inventory} (h : request.Answered (.ok i)) :
    (run request).status = 0 := by
  obtain ⟨r, same, status⟩ := status_of_answered h
  rw [status, Report.exitCode, Report.status, same]
  rfl

theorem status_of_refused {refusal : Refusal} (h : request.Answered (.error refusal)) :
    (run request).status = refusal.status.exitCode := by
  obtain ⟨r, same, status⟩ := status_of_answered h
  rw [status, Report.exitCode, Report.status, same]

theorem status_of_blamed {refusal : Refusal} (h : request.Answered (.error refusal))
    (blamed : refusal.BlamesSource) : (run request).status = 2 := by
  rw [status_of_refused h, Refusal.status_of_blamesSource blamed]
  rfl

theorem status_of_not_blamed {refusal : Refusal} (h : request.Answered (.error refusal))
    (cleared : ¬ refusal.BlamesSource) : (run request).status = 1 := by
  rw [status_of_refused h, Refusal.status_of_not_blamesSource cleared]
  rfl

/-! ## The status of all requests -/

/-- A request for help, or a source that is admitted. -/
def Request.EndsWell (request : Request) : Prop :=
  request.AsksHelp ∨ ∃ i, request.Answered (.ok i)

/-- A request that is not understood, or a refusal that puts the fault on the source. -/
def Request.EndsRejected (request : Request) : Prop :=
  request.Misused ∨ ∃ refusal, request.Answered (.error refusal) ∧ refusal.BlamesSource

/-- No answer to a request that is understood, or a refusal with the fault elsewhere. -/
def Request.EndsFailed (request : Request) : Prop :=
  request.Fails ∨ ∃ refusal, request.Answered (.error refusal) ∧ ¬ refusal.BlamesSource

theorem Request.ends (request : Request) :
    request.EndsWell ∨ request.EndsRejected ∨ request.EndsFailed := by
  cases order : Order.ofList? request.vars request.arguments with
  | none => exact .inr (.inl (.inl order))
  | some asked =>
    cases asked with
    | help => exact .inl (.inl order)
    | check a =>
      by_cases answered : ∃ answer, request.Answered answer
      · obtain ⟨refusal | i, answered⟩ := answered
        · by_cases blamed : refusal.BlamesSource
          · exact .inr (.inl (.inr ⟨refusal, answered, blamed⟩))
          · exact .inr (.inr (.inr ⟨refusal, answered, blamed⟩))
        · exact .inl (.inr ⟨i, answered⟩)
      · exact .inr (.inr (.inl ⟨⟨a, order⟩, not_exists.1 answered⟩))

theorem Request.EndsWell.status : request.EndsWell → (run request).status = 0
  | .inl help => status_of_asksHelp help
  | .inr ⟨_, admitted⟩ => status_of_admitted admitted

theorem Request.EndsRejected.status : request.EndsRejected → (run request).status = 2
  | .inl misused => status_of_misused misused
  | .inr ⟨_, refused, blamed⟩ => status_of_blamed refused blamed

theorem Request.EndsFailed.status : request.EndsFailed → (run request).status = 1
  | .inl fails => status_of_fails fails
  | .inr ⟨_, refused, cleared⟩ => status_of_not_blamed refused cleared

/-! ## Limits and faults -/

/-- The request where the memory and the rest of the system are otherwise. -/
def Request.under (request : Request) (memory : Probe) (c : Conditions) : Request :=
  { request with memory, conditions := c }

/-- What becomes of a request where time, memory, threads or filters are short. -/
structure Request.Hinges (request : Request) (config : Config) : Prop where
  onTime : ∀ delay, config.deadline.nanos < delay.nanos →
    (request.under [] { request.conditions with delay }).Answered
      (.error (.deadlineExceeded config.deadline))
  onMemory : ∀ delay base observed, config.deadline.nanos < delay.nanos →
    config.memoryCeilingMb * 2 ^ 20 < observed →
    (request.under [some base, some (base + observed)]
      { request.conditions with delay }).Answered
        (.error (.memoryExceeded (config.memoryCeilingMb * 2 ^ 20) observed))
  onThread : ∀ cause,
    (request.under request.memory { request.conditions with spawnFault := some cause }).Answered
      (.error .internalFault)
  onFilter : ∀ failure, config.filter = .required →
    (request.under request.memory
      { request.conditions with filterFault := some failure, delay := ⟨0⟩ }).Answered
        (.error .internalFault)

namespace Request.Brings

variable {a : Arguments} {config : Config} {source : String} {gate : Gate}
  {body : List Tree.Stmt} {session : Session} {entered : Site}

theorem under (h : request.Brings a config source) (memory : Probe) (c : Conditions) :
    (request.under memory c).Brings a config source :=
  ⟨h.order, h.config, h.source⟩

/-- The limits of a session are those of the configuration. -/
theorem limits_of_opens (h : request.Brings a config source)
    (made : config.gate request.memory = .ok gate)
    (opens : (Site.mk gate .start).OpensAs body gate.limits.deadline gate.limits.memoryCeiling
      session entered) :
    session.limits.deadline = config.deadline ∧
      session.limits.memoryCeiling = config.memoryCeilingMb * 2 ^ 20 ∧
      session.limits.filter = config.filter := by
  rw [opens.session, (h.makes made).limits]
  exact ⟨rfl, rfl, rfl⟩

/-- A session opens whatever the memory and the worker do, and the answer is that of its run. -/
theorem answered_of_running (h : request.Brings a config source)
    (made : config.gate request.memory = .ok gate) (parsed : Tree.ofText source = .ok body)
    (opens : (Site.mk gate .start).OpensAs body gate.limits.deadline gate.limits.memoryCeiling
      session entered) (memory : Probe) (c : Conditions) :
    (request.under memory c).Answered
      ((entered.probing memory).running session (.inventory a.function) c).1.answer := by
  refine .intro (h.under memory c) (Config.gate_probing made memory) ?_
  rw [Site.analyze_of_parsed parsed]
  exact Site.serve_of_enter
    ((opens.probing memory).enter_eq ((h.isBrief made).canAdd c.now))

/-- An empty source is admitted where nothing fails, whatever is measured of the memory. -/
theorem exists_admitted (h : request.Brings a config "") (calm : request.conditions = .calm) :
    ∃ i, request.Answered (.ok i) := by
  obtain ⟨gate, makes⟩ := h.exists_makes
  have positive : 0 < gate.limits.deadline.nanos :=
    h.deadline_eq makes.made ▸ h.sound.deadline_pos
  have silent : (Tree.violations gate.policy []).isEmpty = true := rfl
  have enter := Site.enter_of_canAdd (s := .mk gate .start) silent (h.room makes.made)
    (Guardian.install_of_empty gate.policy rfl) ((h.isBrief makes.made).canAdd .start)
    gate.limits.memoryCeiling
  obtain ⟨i, ending⟩ : ∃ i, (Session.program ⟨1, [], gate.limits.forRun gate.limits.deadline
      gate.limits.memoryCeiling⟩ (.inventory a.function)).ending? ⟨0⟩
        ⟨some ⟨1, gate.policy, []⟩, 1⟩ = some ⟨⟨0⟩, .ok i⟩ := ⟨_, rfl⟩
  refine ⟨i, .intro h makes.made ?_⟩
  rw [Site.analyze_of_parsed (show Tree.ofText "" = .ok [] from rfl), calm,
    Site.serve_of_enter enter]
  exact congrArg (fun o => Exit.answered (Outcome.answer o))
    (Limits.run_of_calm positive ending gate.probe)

end Request.Brings

/-- A source that is admitted is not where time, memory, threads or filters are short. -/
theorem Request.Answered.hinges {i : Inventory} (h : request.Answered (.ok i)) :
    ∃ a config source, request.Brings a config source ∧ request.Hinges config := by
  obtain @⟨a, config, source, gate, _, brings, made, answers⟩ := h
  refine ⟨a, config, source, brings, ?_⟩
  obtain ⟨body, parsed, served⟩ := Site.exists_parsed_of_analyze answers nofun
  obtain ⟨session, entered, opened, value⟩ := Site.opened_of_serve served
  have opens := Site.opensAs_of_enter opened
  obtain ⟨deadline, ceiling, filter⟩ := brings.limits_of_opens made opens
  have positive : 0 < session.limits.deadline.nanos := deadline ▸ brings.sound.deadline_pos
  have spawned := Limits.spawnFault_eq_none value
  have refused {memory : Probe} {c : Conditions} {refusal : Refusal}
      (answer : (session.limits.run c memory (session.program (.inventory a.function))
        entered.guardian).1.answer = .error refusal) :
      (request.under memory c).Answered (.error refusal) :=
    answer ▸ brings.answered_of_running made parsed opens memory c
  refine ⟨fun delay slow => refused ?_, fun delay base observed slow broken => refused ?_,
    fun cause => refused ?_, fun failure required => refused ?_⟩
  · rw [Limits.run_of_unmeasured, deadline]
    · rfl
    · exact spawned
    · exact deadline ▸ slow
  · rw [Limits.run_of_broken, ceiling]
    · rfl
    · exact spawned
    · exact deadline ▸ slow
    · exact positive
    · exact ceiling ▸ broken
  · rw [Limits.run_of_unspawned rfl]
    rfl
  · rw [Limits.run_of_unfiltered failure]
    · exact congrArg Except.error (Failure.surface_of_plain failure.2)
    · exact spawned
    · exact filter ▸ required
    · rfl
    · rfl
    · exact positive

/-- A request has its gate to itself. -/
theorem Request.Answered.ne_overloaded {answer : Except Refusal Inventory}
    (h : request.Answered answer) (maxPending : Nat) :
    answer ≠ .error (.overloaded maxPending) := by
  rintro rfl
  obtain @⟨a, config, source, gate, _, brings, made, answers⟩ := h
  obtain ⟨body, -, served⟩ := Site.exists_parsed_of_analyze answers nofun
  exact absurd (Site.full_of_serve_overloaded served) (Nat.not_le.2 (brings.room made))

/-! ## All requests -/

/-- The status says how a request ends, up to requests for help, which end like an admission, and
requests that are not understood, which end like a refusal of the source. -/
theorem status_run (request : Request) :
    ((run request).status = 0 ↔ request.AsksHelp ∨ ∃ i, request.Answered (.ok i)) ∧
    ((run request).status = 2 ↔
      request.Misused ∨ ∃ refusal, request.Answered (.error refusal) ∧ refusal.BlamesSource) ∧
    ((run request).status = 1 ↔
      request.Fails ∨ ∃ refusal, request.Answered (.error refusal) ∧ ¬ refusal.BlamesSource) ∧
    (run request).status ≤ 2 ∧
    (∀ i, request.Answered (.ok i) →
      ∃ a config source, request.Brings a config source ∧ request.Hinges config) ∧
    (∀ maxPending, ¬ request.Answered (.error (.overloaded maxPending))) ∧
    (request.Misused ↔
      (∀ g, ¬ Says request.arguments g) ∨
        ∃ g, Says request.arguments g ∧ g.help = false ∧ g.Lacks request.vars) ∧
    ∀ name, ReadByOne request.vars name ↔
      (∃ shown, request.vars name = some (.garbled shown)) ∨
        ∃ text, request.vars name = some (.text text) ∧
          (Text.allBlank text.toList = true ∨
            Text.trimmed text ≠ text ∧ ∃ n, Environment.word? (Text.trimmed text) = some n) := by
  have ends := request.ends
  refine ⟨⟨fun status => ?_, Request.EndsWell.status⟩,
    ⟨fun status => ?_, Request.EndsRejected.status⟩,
    ⟨fun status => ?_, Request.EndsFailed.status⟩, ?_, fun _ admitted => admitted.hinges,
    fun maxPending crowded => crowded.ne_overloaded maxPending rfl, ofList?_eq_none_iff,
    fun _ => readByOne_iff⟩
  · rcases ends with well | rejected | failed
    · exact well
    · cases status.symm.trans rejected.status
    · cases status.symm.trans failed.status
  · rcases ends with well | rejected | failed
    · cases status.symm.trans well.status
    · exact rejected
    · cases status.symm.trans failed.status
  · rcases ends with well | rejected | failed
    · cases status.symm.trans well.status
    · cases status.symm.trans rejected.status
    · exact failed
  · rcases ends with well | rejected | failed
    · simp [well.status]
    · simp [rejected.status]
    · simp [failed.status]

/-- A dash alone is a file. -/
theorem items_dash : items false [.text "-"] = some [.file "-"] := by
  rw [items, items]
  decide +kernel

/-- An empty source with nothing configured is admitted, but not where the worker takes longer than
half a minute, be it the time or the memory that ends the run, nor where there is no thread. -/
theorem emptySource_status :
    let request : Request :=
      ⟨[.text "-"], fun _ => none, fun _ => .error .notFound, .ok "", [], .calm⟩
    (run request).status = 0 ∧
    (∀ delay, Config.standard.deadline.nanos < delay.nanos →
      (run (request.under [] { Conditions.calm with delay })).status = 1 ∧
      ∀ base observed, Config.standard.memoryCeilingMb * 2 ^ 20 < observed →
        (run (request.under [some base, some (base + observed)]
          { Conditions.calm with delay })).status = 1) ∧
    ∀ cause,
      (run (request.under [] { Conditions.calm with spawnFault := some cause })).status = 1 := by
  intro request
  have order : Order.ofList? request.vars request.arguments =
      some (.check ⟨"-", "", false, none, none⟩) := by
    rw [Order.ofList?, items_dash]
    decide +kernel
  have environment : request.environment.settings = .ok .none := by
    rw [Environment.settings, Environment.list?_of_unset rfl, Environment.list?_of_unset rfl]
    decide +kernel
  have layers : Config.layered request.environment request.read = .ok .standard := by
    rw [Config.layered, environment]
    decide +kernel
  obtain ⟨policy, valid⟩ := Config.exists_validate_standard
  have loads : Config.load request.environment request.read =
      .ok (Config.standard.withLists policy) :=
    bind_eq_ok_iff.2 ⟨.standard, layers, valid⟩
  have brings : request.Brings ⟨"-", "", false, none, none⟩ (Config.standard.withLists policy) "" :=
    ⟨order, ⟨Config.standard.withLists policy, loads, Config.validate_of_validate valid⟩, rfl⟩
  obtain ⟨i, admitted⟩ := brings.exists_admitted rfl
  obtain ⟨a, config, source, brings', hinges⟩ := (status_run request).2.2.2.2.1 i admitted
  cases brings.config_eq brings'
  have cleared {r : Refusal} (failed : r.status = .failed) : ¬ r.BlamesSource := fun blamed => by
    cases (Refusal.status_of_blamesSource blamed).symm.trans failed
  refine ⟨(status_run request).1.2 (.inr ⟨i, admitted⟩), fun delay slow => ⟨?_, ?_⟩,
    fun cause => ?_⟩
  · exact (status_run _).2.2.1.2 (.inr ⟨_, hinges.onTime delay slow, cleared rfl⟩)
  · intro base observed broken
    exact (status_run _).2.2.1.2
      (.inr ⟨_, hinges.onMemory delay base observed slow broken, cleared rfl⟩)
  · exact (status_run _).2.2.1.2 (.inr ⟨_, hinges.onThread cause, cleared rfl⟩)

/-- A deadline with blanks around it is good for the configuration, yet the status is that of a
refused source, and no source is looked at. -/
theorem paddedDeadline_status :
    let vars : Variables := fun name =>
      if name = "GATE_DEADLINE_MS" then some (.text " 500 ") else none
    let request : Request :=
      ⟨[.text "-"], vars, fun _ => .error .notFound, .ok "x = 1\n", [], .calm⟩
    (Config.load vars.environment request.read).toOption.map (·.deadline) =
      some (.ofMillis 500) ∧
    (run request).status = 2 ∧ ∀ answer, ¬ request.Answered answer := by
  intro vars request
  have misused : request.Misused := by
    rw [Request.Misused, Order.ofList?, items_dash]
    decide +kernel
  have environment :
      vars.environment.settings = .ok { Settings.none with deadlineMs := some 500 } := by
    rw [Environment.settings, Environment.list?_of_unset (by decide +kernel),
      Environment.list?_of_unset (by decide +kernel)]
    decide +kernel
  have layers : Config.layered vars.environment request.read =
      .ok { Config.standard with deadline := .ofMillis 500 } := by
    rw [Config.layered, environment]
    decide +kernel
  refine ⟨?_, status_of_misused misused, ?_⟩
  · rw [Config.load, layers]
    decide +kernel
  · intro answer answered
    obtain ⟨a, order⟩ := answered.order
    cases misused.symm.trans order

end CommandLine

end SourceGate
