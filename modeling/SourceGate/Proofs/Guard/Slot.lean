import SourceGate.Guard.Basic
import SourceGate.Proofs.Policy.Name

/-! # What the operations do to the guard slot

Each operation on the slot is said once for every state that it can meet, and from then on only
these statements are used. A resolution asks for the live guard by its number, so it changes the log
of that guard or nothing.
-/

namespace SourceGate

/-- The guard after more paths were resolved through it. -/
def Guard.noting (guard : Guard) (paths : List String) : Guard :=
  { guard with resolved := guard.resolved ++ paths }

@[simp] theorem Guard.noting_nil (guard : Guard) : guard.noting [] = guard := by
  simp [Guard.noting]

@[simp] theorem Guard.noting_noting (guard : Guard) (first second : List String) :
    (guard.noting first).noting second = guard.noting (first ++ second) := by
  simp [Guard.noting]

@[simp] theorem Guard.noting_generation (guard : Guard) (paths : List String) :
    (guard.noting paths).generation = guard.generation := rfl

@[simp] theorem Guard.noting_policy (guard : Guard) (paths : List String) :
    (guard.noting paths).policy = guard.policy := rfl

@[simp] theorem Guard.noting_resolved (guard : Guard) (paths : List String) :
    (guard.noting paths).resolved = guard.resolved ++ paths := rfl

namespace Guardian

variable {g : Guardian} {guard : Guard} {generation : Nat} {path : String}

theorem liveAs_eq_some_iff :
    g.liveAs generation = some guard ↔ g.live = some guard ∧ guard.generation = generation := by
  simp [liveAs, Option.filter_eq_some_iff]

theorem liveAs_eq_none_iff :
    g.liveAs generation = none ↔ ∀ guard, g.live = some guard → guard.generation ≠ generation := by
  simp [liveAs, Option.filter_eq_none_iff]

/-! ## Installing -/

theorem install_of_empty (policy : Policy) (h : g.live = none) :
    g.install policy =
      (.ok (g.issued + 1), ⟨some ⟨g.issued + 1, policy, []⟩, g.issued + 1⟩) := by
  rw [install, h]

theorem install_of_live (policy : Policy) (h : g.live = some guard) :
    g.install policy = (.error .reentrancy, g) := by
  rw [install, h]

theorem live_of_install {policy : Policy} {after : Guardian}
    (h : g.install policy = (.ok generation, after)) :
    g.live = none ∧ after.live = some ⟨generation, policy, []⟩ := by
  cases live : g.live with
  | some guard => simp [install_of_live policy live] at h
  | none =>
    rw [install_of_empty policy live] at h
    cases h
    exact ⟨rfl, rfl⟩

theorem live_of_refused_install {policy : Policy} {refusal : Refusal} {after : Guardian}
    (h : g.install policy = (.error refusal, after)) :
    g.live.isSome = true ∧ refusal = .reentrancy ∧ after = g := by
  cases live : g.live with
  | some guard =>
    rw [install_of_live policy live] at h
    cases h
    exact ⟨rfl, rfl, rfl⟩
  | none => simp [install_of_empty policy live] at h

theorem eq_of_refused_install {policy : Policy} {refusal : Refusal} {after : Guardian}
    (h : g.install policy = (.error refusal, after)) : after = g :=
  (live_of_refused_install h).2.2

/-! ## Resolving -/

theorem resolve_of_allows (h : g.liveAs generation = some guard)
    (allowed : guard.policy.allows path = true) :
    g.resolve generation path =
      (.ok ⟨path, Policy.moduleRoot path⟩, { g with live := some (guard.noting [path]) }) := by
  rw [resolve, h]
  simp [allowed, Guard.noting]

theorem resolve_of_refused (h : g.liveAs generation = some guard)
    (refused : guard.policy.allows path = false) :
    g.resolve generation path = (.error (.importBlocked path (Policy.moduleRoot path)), g) := by
  rw [resolve, h]
  simp [refused]

theorem resolve_of_stale (h : g.liveAs generation = none) :
    g.resolve generation path = (.error (.importBlocked path (Policy.moduleRoot path)), g) := by
  rw [resolve, h]

/-- A resolution leaves the slot as it is, or adds to the log of the live guard. -/
theorem resolve_cases (g : Guardian) (generation : Nat) (path : String) :
    (g.resolve generation path).2 = g ∨ ∃ guard, g.live = some guard ∧
      (g.resolve generation path).2 = { g with live := some (guard.noting [path]) } := by
  cases found : g.liveAs generation with
  | none => exact .inl (by rw [resolve_of_stale found])
  | some guard =>
    cases allowed : guard.policy.allows path with
    | false => exact .inl (by rw [resolve_of_refused found allowed])
    | true =>
      exact .inr ⟨guard, (liveAs_eq_some_iff.1 found).1, by rw [resolve_of_allows found allowed]⟩

/-! ## Releasing -/

theorem release_of_live (h : g.liveAs generation = some guard) :
    g.release generation = { g with live := none } := by
  rw [release, h]

theorem release_of_stale (h : g.liveAs generation = none) : g.release generation = g := by
  rw [release, h]

end Guardian

namespace Handle

@[simp] theorem isReleased_giveUp (h : Handle) (g : Guardian) :
    (h.giveUp g).1.isReleased = true := by
  rw [giveUp]
  split
  · assumption
  · rfl

/-- A handle that was released does nothing when it goes out of use. -/
theorem drop_of_released {h : Handle} (g : Guardian) (spent : h.isReleased = true) :
    h.drop g = g := by
  simp [drop, giveUp, spent]

theorem drop_ofGeneration (generation : Nat) (g : Guardian) :
    (ofGeneration generation).drop g = g.release generation := rfl

/-- Going out of use after the release adds nothing to it. -/
theorem release_eq_drop (h : Handle) (g : Guardian) : h.release g = h.drop g :=
  drop_of_released _ (h.isReleased_giveUp g)

/-- A handle reaches no guard but its own. -/
theorem drop_of_stale {h : Handle} {g : Guardian} (stale : g.liveAs h.generation = none) :
    h.drop g = g := by
  simp only [drop, giveUp]
  split
  · rfl
  · exact Guardian.release_of_stale stale

end Handle

end SourceGate
