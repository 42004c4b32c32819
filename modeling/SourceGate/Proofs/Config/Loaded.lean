import SourceGate.Proofs.Config.Layers

/-! # Loaded configurations

The check passes exactly what keeps every bound and has lists that make a policy, and leaves the
tables of that policy as the lists. So a configuration that is loaded, from whichever layers, makes
a gate: none of the checks on the way there can fail any more.
-/

namespace SourceGate

namespace Bounds

variable {b : Bounds} {value : Nat}

/-- A value is neither too small nor too great. -/
structure Admits (b : Bounds) (value : Nat) : Prop where
  low_le : b.low ≤ value
  le_high : value ≤ b.high

theorem check_eq_ok_iff : b.check value = .ok () ↔ b.Admits value := by
  simp only [check, Bool.or_eq_true, decide_eq_true_eq]
  constructor
  · intro h
    split at h
    · cases h
    · constructor <;> omega
  · rintro ⟨low, high⟩
    rw [if_neg (by omega)]

/-- What comes after a check that passes. -/
theorem check_bind_eq_ok_iff {α : Type} {next : Except ConfigError α} {a : α} :
    (do b.check value; next) = .ok a ↔ b.Admits value ∧ next = .ok a := by
  rw [← check_eq_ok_iff, bind_eq_ok_iff]
  exact ⟨fun ⟨(), passed, done⟩ => ⟨passed, done⟩, fun ⟨passed, done⟩ => ⟨(), passed, done⟩⟩

end Bounds

/-- A duration is a whole number of milliseconds, neither too few nor too many. -/
def Duration.Within (d : Duration) (low high : Nat) : Prop :=
  ∃ n, d = .ofMillis n ∧ low ≤ n ∧ n ≤ high

theorem Duration.FitsMillis.within {d : Duration} (fits : d.FitsMillis) {b : Bounds}
    (h : b.Admits (Config.millisWord d)) : d.Within b.low b.high :=
  ⟨_, Config.ofMillis_millisWord fits, h.low_le, h.le_high⟩

/-- Identifiers in the strict order of their bytes. -/
structure IsTable (names : List String) : Prop where
  increasing : names.Pairwise fun a b => a.toUTF8.toList < b.toUTF8.toList
  identifiers : ∀ name ∈ names, IsIdentifier name

theorem NameSet.isTable (s : NameSet) : IsTable s.names where
  increasing := s.increasing_bytes
  identifiers _ h := isIdentifier_of_isPolicyName (s.valid _ h)

namespace Config

variable {c c' : Config}

/-- All bounds are kept. -/
structure InBounds (c : Config) : Prop where
  deadline : Bounds.deadline.Admits (millisWord c.deadline)
  memoryCeiling : Bounds.memoryCeiling.Admits c.memoryCeilingMb
  pollInterval : Bounds.pollInterval.Admits (millisWord c.pollInterval)
  grace : Bounds.grace.Admits (millisWord c.grace)
  maxPending : Bounds.maxPending.Admits c.maxPending
  poll_le_deadline : c.pollInterval.nanos ≤ c.deadline.nanos

/-- The configuration with the tables of a policy as its lists. -/
def withLists (c : Config) (policy : Policy) : Config :=
  { c with
    allowedModules := policy.allowed.names
    forbiddenOperations := policy.forbidden.names }

theorem validate_eq_ok_iff :
    c.validate = .ok c' ↔
      c.InBounds ∧ ∃ policy, c.policy = .ok policy ∧ c' = c.withLists policy := by
  unfold validate
  simp only [Bounds.check_bind_eq_ok_iff]
  constructor
  · rintro ⟨deadline, ceiling, poll, grace, pending, order⟩
    split at order
    · obtain ⟨_, impossible, -⟩ := bind_eq_ok_iff.1 order
      cases impossible
    · next within =>
      obtain ⟨policy, made, ⟨⟩⟩ := bind_eq_ok_iff.1 order
      exact ⟨⟨deadline, ceiling, poll, grace, pending, by omega⟩, policy, made, rfl⟩
  · rintro ⟨⟨deadline, ceiling, poll, grace, pending, within⟩, policy, made, rfl⟩
    refine ⟨deadline, ceiling, poll, grace, pending, ?_⟩
    rw [if_neg (by omega), made]
    rfl

/-- The lists are the tables of a policy. -/
theorem policy_withLists (c : Config) (policy : Policy) :
    (c.withLists policy).policy = .ok policy := by
  simp only [Config.policy, withLists, Policy.ofLists_names, Except.mapError]

/-- What is taken where nothing is set keeps all bounds. -/
theorem exists_validate_standard :
    ∃ policy, standard.validate = .ok (standard.withLists policy) := by
  cases valid : standard.validate with
  | ok c =>
    obtain ⟨-, policy, -, rfl⟩ := validate_eq_ok_iff.1 valid
    exact ⟨policy, rfl⟩
  | error fault =>
    have passes : standard.validate.toOption.isSome = true := by decide +kernel
    rw [valid] at passes
    cases passes

theorem memoryCeiling_of_inBounds (h : c.InBounds) :
    c.memoryCeilingMb * 2 ^ 20 < 2 ^ 64 ∧ c.memoryCeiling = .ok (c.memoryCeilingMb * 2 ^ 20) := by
  have high : c.memoryCeilingMb ≤ 65536 := h.memoryCeiling.le_high
  have fits : c.memoryCeilingMb * (1024 * 1024) < Word.count := by
    simp only [Word.count]
    omega
  exact ⟨by omega, (if_pos fits).trans (congrArg Except.ok (by omega))⟩

/-! ## What is known after loading -/

/-- The numbers of a configuration, and its lists as tables of a policy. -/
structure Sound (c : Config) : Prop where
  deadline : c.deadline.Within 10 600000
  memoryCeiling : 16 ≤ c.memoryCeilingMb ∧ c.memoryCeilingMb ≤ 65536
  pollInterval : c.pollInterval.Within 1 1000
  poll_le_deadline : c.pollInterval.nanos ≤ c.deadline.nanos
  grace : c.grace.Within 0 10000
  maxPending : 1 ≤ c.maxPending ∧ c.maxPending ≤ 1024
  allowed : IsTable c.allowedModules
  forbidden : IsTable c.forbiddenOperations
  forbidden_ne_nil : c.forbiddenOperations ≠ []

/-- A configuration makes a gate that has the lists as its tables and the fields as its limits, with
the memory ceiling in bytes, and that has not been used. -/
structure Makes (c : Config) (probe : Probe) (gate : Gate) : Prop where
  made : c.gate probe = .ok gate
  allowed : gate.policy.allowed.names = c.allowedModules
  forbidden : gate.policy.forbidden.names = c.forbiddenOperations
  limits : gate.limits = {
    deadline := c.deadline
    memoryCeiling := c.memoryCeilingMb * 2 ^ 20
    pollInterval := c.pollInterval
    grace := c.grace
    filter := c.filter
    maxPending := c.maxPending }
  probe : gate.probe = probe
  unused : gate.pending = 0 ∧ gate.counters = .zero

theorem sound_withLists (fits : c.FitsMillis) (h : c.InBounds) (policy : Policy) :
    (c.withLists policy).Sound where
  deadline := fits.deadline.within h.deadline
  memoryCeiling := ⟨h.memoryCeiling.low_le, h.memoryCeiling.le_high⟩
  pollInterval := fits.pollInterval.within h.pollInterval
  poll_le_deadline := h.poll_le_deadline
  grace := fits.grace.within h.grace
  maxPending := ⟨h.maxPending.low_le, h.maxPending.le_high⟩
  allowed := policy.allowed.isTable
  forbidden := policy.forbidden.isTable
  forbidden_ne_nil := policy.forbidden_nonempty

theorem makes_withLists (h : c.InBounds) (policy : Policy) (probe : Probe) :
    ∃ gate, (c.withLists policy).Makes probe gate := by
  have ceiling : (c.withLists policy).memoryCeiling = .ok (c.memoryCeilingMb * 2 ^ 20) :=
    (memoryCeiling_of_inBounds h).2
  have limits : (c.withLists policy).gateLimits = .ok _ := bind_eq_ok_iff.2 ⟨_, ceiling, rfl⟩
  have made : (c.withLists policy).gate probe = .ok _ :=
    bind_eq_ok_iff.2 ⟨policy, policy_withLists c policy, bind_eq_ok_iff.2 ⟨_, limits, rfl⟩⟩
  exact ⟨_, made, rfl, rfl, rfl, rfl, rfl, rfl⟩

/-- A configuration that is loaded keeps all bounds and makes a gate with its lists and limits. -/
theorem makes_of_load {env : Environment} {read : Readable} (h : load env read = .ok c) :
    c.Sound ∧
    c.memoryCeilingMb * 2 ^ 20 < 2 ^ 64 ∧ c.memoryCeiling = .ok (c.memoryCeilingMb * 2 ^ 20) ∧
    ∀ probe, ∃ gate, c.Makes probe gate := by
  obtain ⟨unchecked, layers, valid⟩ := bind_eq_ok_iff.1 h
  obtain ⟨kept, policy, -, rfl⟩ := validate_eq_ok_iff.1 valid
  obtain ⟨small, bytes⟩ := memoryCeiling_of_inBounds kept
  exact ⟨sound_withLists (fitsMillis_layered layers) kept policy, small, bytes,
    makes_withLists kept policy⟩

/-- A deadline at its least from the environment, over a file with a poll interval as long. -/
theorem makes_of_load_layers :
    let env : Environment := fun name =>
      if name = "GATE_CONFIG" then some "g"
      else if name = "GATE_DEADLINE_MS" then some " 10 "
      else none
    let read : Readable := fun _ => .ok
      "\x7b\"policy\": [null, [\"open\", \" eval\"]], \"limits\": \x7b\"deadline_ms\": 1, \"poll_interval_ms\": 10\x7d\x7d"
    let c : Config := { Config.standard with
      forbiddenOperations := ["eval", "open"]
      deadline := .ofMillis 10
      pollInterval := .ofMillis 10 }
    load env read = .ok c ∧ c.Sound ∧ ∀ probe, ∃ gate, c.Makes probe gate := by
  intro env read c
  have file : fileSettings env read = .ok { Settings.none with
      forbiddenOperations := some ["open", " eval"]
      deadlineMs := some 1
      pollIntervalMs := some 10 } := by
    have format : SettingsFormat.ofPath "g" = .json := by cbv
    have named : env.filled? "GATE_CONFIG" = some "g" := by decide +kernel
    rw [fileSettings, named]
    simp only [read, Settings.ofFile, format]
    decide +kernel
  have environment : env.settings = .ok { Settings.none with deadlineMs := some 10 } := by
    rw [Environment.settings, Environment.list?_of_unset (by decide +kernel),
      Environment.list?_of_unset (by decide +kernel)]
    decide +kernel
  have loaded : load env read = .ok c := by
    rw [load, layered, file, environment]
    decide +kernel
  obtain ⟨sound, -, -, made⟩ := makes_of_load loaded
  exact ⟨loaded, sound, made⟩

end Config

end SourceGate
