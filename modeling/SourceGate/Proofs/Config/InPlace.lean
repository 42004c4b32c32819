import SourceGate.Config.InPlace
import SourceGate.Proofs.Config.Durations
import SourceGate.Proofs.Policy.Lists

/-! # A check in place is all or nothing

Every step that can fail only looks, and comes before the first that assigns. So a check in place
that fails has changed nothing, and one that passes leaves what the check makes of the configuration
as a value. The lists that it leaves are the tables of a policy, which a further check makes again.
-/

namespace SourceGate.Config

variable {c c' : Config}

/-- How a check in place ends where the checked configuration is made, or an error is met. -/
def ended (c : Config) : Except ConfigError Config → EStateM.Result ConfigError Config Unit
  | .ok c' => .ok () c'
  | .error e => .error e c

theorem ended_eq_ok_iff {made : Except ConfigError Config} :
    c.ended made = .ok () c' ↔ made = .ok c' := by
  cases made <;> simp [ended]

theorem eq_of_ended_eq_error {made : Except ConfigError Config} {e : ConfigError}
    (h : c.ended made = .error e c') : c' = c := by
  cases made <;> simp_all [ended]

/-- A look either fails, and the configuration is as before, or goes on with it. -/
theorem look_bind_eq_ended {α : Type} {seen : Config → Except ConfigError α}
    {rest : α → Checking Unit} {next : α → Except ConfigError Config}
    (goes : ∀ a, rest a c = c.ended (next a)) :
    (look seen >>= rest) c = c.ended (seen c >>= next) := by
  change EStateM.bind (look seen) rest c = _
  unfold EStateM.bind look
  cases seen c with
  | error e => rfl
  | ok a => exact goes a

theorem assign_eq (c : Config) (made : Policy) : assign made c = .ok () (c.withLists made) := rfl

/-- The check of a value, in the order in which a check in place looks. -/
theorem validate_eq (c : Config) : c.validate = (do
    Bounds.deadline.check (millisWord c.deadline)
    Bounds.memoryCeiling.check c.memoryCeilingMb
    Bounds.pollInterval.check (millisWord c.pollInterval)
    Bounds.grace.check (millisWord c.grace)
    Bounds.maxPending.check c.maxPending
    checkOrder c
    let made ← c.policy
    return c.withLists made) := by
  unfold validate checkOrder
  split <;> rfl

theorem validateInPlace_eq_ended (c : Config) : validateInPlace c = c.ended c.validate := by
  rw [validate_eq, validateInPlace]
  -- Six times a field is looked at, and then what policy the lists make.
  iterate 7 refine look_bind_eq_ended fun _ => ?_
  exact assign_eq c _

theorem validateInPlace_eq_ok_iff : validateInPlace c = .ok () c' ↔ c.validate = .ok c' := by
  rw [validateInPlace_eq_ended, ended_eq_ok_iff]

/-- What a check leaves passes it and is left by it as it is. -/
theorem validate_of_validate (h : c.validate = .ok c') : c'.validate = .ok c' := by
  obtain ⟨bounded, policy, -, rfl⟩ := validate_eq_ok_iff.1 h
  exact validate_eq_ok_iff.2
    ⟨bounded.withLists policy, policy, policy_withLists c policy, rfl⟩

/-! ## The lists that are left -/

/-- The names between the blanks of the entries of a list, each of them once, in the order of their
bytes. -/
structure Tabulates (entries names : List String) : Prop where
  increasing : names.Pairwise fun a b => a.toUTF8.toList < b.toUTF8.toList
  nodup : names.Nodup
  mem_iff : ∀ n, n ∈ names ↔ ∃ e ∈ entries, Text.trimmed e = n

theorem tabulates_of_adds {entries : List String} {set : NameSet}
    (h : Policy.Adds .empty entries set) : Tabulates entries set.names where
  increasing := set.increasing_bytes
  nodup := set.increasing.imp ne_of_lt
  mem_iff := h.mem_names_iff

theorem tabulates_of_validate (h : c.validate = .ok c') :
    Tabulates c.allowedModules c'.allowedModules ∧
      Tabulates c.forbiddenOperations c'.forbiddenOperations := by
  obtain ⟨-, policy, made, rfl⟩ := validate_eq_ok_iff.1 h
  have adds := Policy.ofLists_eq_ok_iff.1 (mapError_eq_ok_iff.1 made)
  exact ⟨tabulates_of_adds adds.allowed, tabulates_of_adds adds.forbidden⟩

theorem exists_policy_iff : (∃ policy, c.policy = .ok policy) ↔
    Policy.Named (c.allowedModules ++ c.forbiddenOperations) ∧ c.forbiddenOperations ≠ [] := by
  simp only [policy, mapError_eq_ok_iff]
  exact Policy.exists_ofLists_iff

/-- How a check in place ends, and what it leaves behind. -/
structure Settles (c : Config) : Prop where
  agrees : validateInPlace c = c.ended c.validate
  passes_iff : (∃ c', validateInPlace c = .ok () c') ↔
    c.InBounds ∧ Policy.Named (c.allowedModules ++ c.forbiddenOperations) ∧
      c.forbiddenOperations ≠ []
  unchanged : ∀ {e c'}, validateInPlace c = .error e c' → c' = c
  others : ∀ {c'}, validateInPlace c = .ok () c' →
    c' = { c with
      allowedModules := c'.allowedModules
      forbiddenOperations := c'.forbiddenOperations }
  lists : ∀ {c'}, validateInPlace c = .ok () c' →
    Tabulates c.allowedModules c'.allowedModules ∧
      Tabulates c.forbiddenOperations c'.forbiddenOperations
  again : ∀ {c'}, validateInPlace c = .ok () c' → validateInPlace c' = .ok () c'

theorem settles (c : Config) : c.Settles where
  agrees := validateInPlace_eq_ended c
  passes_iff := by
    simp only [validateInPlace_eq_ok_iff]
    rw [exists_validate_iff, exists_policy_iff]
  unchanged h := by
    rw [validateInPlace_eq_ended] at h
    exact eq_of_ended_eq_error h
  others h := by
    obtain ⟨-, policy, -, rfl⟩ := validate_eq_ok_iff.1 (validateInPlace_eq_ok_iff.1 h)
    rfl
  lists h := tabulates_of_validate (validateInPlace_eq_ok_iff.1 h)
  again h := validateInPlace_eq_ok_iff.2 (validate_of_validate (validateInPlace_eq_ok_iff.1 h))

end SourceGate.Config
