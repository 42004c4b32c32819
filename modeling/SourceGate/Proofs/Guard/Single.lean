import SourceGate.Proofs.Guard.Journal

/-! # One live guard

Whoever installs, resolves, asks, releases or drops, and in whatever order: one handle at most is
out, the slot holds its guard and no other, and giving the handle back frees the slot for the next
install, which gets a number that was never given before.
-/

namespace SourceGate.Desk

/-! ## The handle that is out -/

section InOrder

variable {d : Desk} {number : Nat} {handle : Handle}

theorem InOrder.handles_length_le (h : d.InOrder) : d.handles.length ≤ 1 := by
  cases h with
  | vacant => exact Nat.zero_le 1
  | engaged => exact Nat.le_refl 1

theorem InOrder.isInstalled_iff (h : d.InOrder) :
    d.guardian.isInstalled = true ↔ d.handles ≠ [] := by
  cases h with
  | vacant => simp [Desk.vacant, Guardian.isInstalled]
  | engaged => simp [Desk.engaged, Guardian.isInstalled]

/-- The handle that is out was not released, and the live guard is its own. -/
theorem InOrder.live_of_mem (h : d.InOrder) (hm : (number, handle) ∈ d.handles) :
    handle.isReleased = false ∧
      ∃ guard, d.guardian.live = some guard ∧ guard.generation = handle.generation := by
  cases h with
  | vacant => cases hm
  | engaged count policy log =>
    obtain ⟨rfl, rfl⟩ := Prod.mk.inj (List.mem_singleton.1 hm)
    exact ⟨rfl, _, rfl, rfl⟩

/-! ## Installing -/

theorem InOrder.install_iff (h : d.InOrder) (policy : Policy) :
    (∃ number generation, (d.step (.install policy)).1 = .installed number generation) ↔
      d.guardian.live = none := by
  cases h with
  | vacant count => exact ⟨fun _ => rfl, fun _ => ⟨count, count + 1, rfl⟩⟩
  | engaged count own log =>
    rw [step_install_engaged]
    constructor
    · rintro ⟨number, generation, ⟨⟩⟩
    · rintro ⟨⟩

theorem install_of_live {guard : Guard} (live : d.guardian.live = some guard) (policy : Policy) :
    d.step (.install policy) = (.refused .reentrancy, d) := by
  rw [step, Guardian.install_of_live policy live]

/-! ## Giving back -/

/-- The desk with its slot emptied and its handles given back. -/
def cleared (d : Desk) : Desk := ⟨{ d.guardian with live := none }, [], d.given⟩

theorem InOrder.return_of_mem (h : d.InOrder) (hm : (number, handle) ∈ d.handles) :
    d.step (.release number) = (.released, d.cleared) ∧
      d.step (.drop number) = (.dropped, d.cleared) := by
  cases h with
  | vacant => cases hm
  | engaged count policy log =>
    obtain ⟨rfl, -⟩ := Prod.mk.inj (List.mem_singleton.1 hm)
    rw [step_release_engaged, step_drop_engaged, if_pos rfl, if_pos rfl]
    exact ⟨rfl, rfl⟩

theorem handle?_eq_none (absent : ∀ handle, (number, handle) ∉ d.handles) :
    d.handle? number = none := by
  rw [handle?, Option.map_eq_none_iff, List.find?_eq_none]
  rintro ⟨other, handle⟩ hm same
  obtain rfl : other = number := by simpa using same
  exact absent handle hm

theorem return_of_absent (absent : ∀ handle, (number, handle) ∉ d.handles) :
    d.step (.release number) = (.noHandle, d) ∧ d.step (.drop number) = (.noHandle, d) := by
  simp [step, handle?_eq_none absent]

theorem step_install_cleared (d : Desk) (policy : Policy) :
    (d.cleared.step (.install policy)).1 = .installed d.given (d.guardian.issued + 1) := rfl

end InOrder

/-! ## Every run -/

/-- What holds at a desk after a journal. -/
structure SingleGuard (journal : List Entry) (d : Desk) : Prop where
  /-- One handle at most is out, and none that was released. -/
  handles_length_le : d.handles.length ≤ 1
  unreleased : ∀ number handle, (number, handle) ∈ d.handles → handle.isReleased = false
  isInstalled_iff : d.guardian.isInstalled = true ↔ d.handles ≠ []
  /-- The live guard has the number of the handle that is out, and the policy that it was installed
  with. -/
  owner : ∀ number handle, (number, handle) ∈ d.handles → ∃ guard opening,
    d.guardian.live = some guard ∧ guard.generation = handle.generation ∧ opening ∈ journal ∧
      opening.errand = .install guard.policy ∧
      opening.receipt = .installed number handle.generation
  install_iff : ∀ policy,
    (∃ number generation, (d.step (.install policy)).1 = .installed number generation) ↔
      d.guardian.live = none
  /-- A refused install leaves the slot, its log and the count of installs as they are. -/
  refused : ∀ guard, d.guardian.live = some guard → ∀ policy,
    d.step (.install policy) = (.refused .reentrancy, d)
  increasing : (journal.filterMap Entry.issued?).Pairwise (· < ·)
  /-- The numbers stay below any bound that the installs stay below. -/
  issued_le : ∀ generation ∈ journal.filterMap Entry.issued?,
    generation ≤ (journal.filterMap Entry.issued?).length
  /-- Releasing and dropping a handle both empty its slot. -/
  returned : ∀ number handle, (number, handle) ∈ d.handles →
    d.step (.release number) = (.released, d.cleared) ∧
      d.step (.drop number) = (.dropped, d.cleared)
  /-- The emptied slot takes the next guard, under a number of its own. -/
  free : ∀ policy,
    (d.cleared.step (.install policy)).1 = .installed d.given (d.guardian.issued + 1) ∧
      d.guardian.issued + 1 ∉ journal.filterMap Entry.issued?
  /-- A handle that is gone can be given back no more. -/
  absent : ∀ number, (∀ handle, (number, handle) ∉ d.handles) →
    d.step (.release number) = (.noHandle, d) ∧ d.step (.drop number) = (.noHandle, d)
  /-- No handle empties the slot of another guard. -/
  foreign : ∀ handle : Handle, d.guardian.liveAs handle.generation = none →
    handle.release d.guardian = d.guardian ∧ handle.drop d.guardian = d.guardian
  /-- A handle that was released goes out of use without a trace, whatever was installed between. -/
  spent : ∀ (handle : Handle) (between : Guardian),
    (handle.giveUp d.guardian).1.drop between = between

theorem Recorded.owner {journal : List Entry} {d : Desk} (h : Recorded journal d) {number : Nat}
    {handle : Handle} (hm : (number, handle) ∈ d.handles) :
    ∃ guard opening, d.guardian.live = some guard ∧ guard.generation = handle.generation ∧
      opening ∈ journal ∧ opening.errand = .install guard.policy ∧
      opening.receipt = .installed number handle.generation := by
  obtain ⟨-, guard, live, same⟩ := h.inOrder.live_of_mem hm
  obtain ⟨earlier, opening, later, rfl, asked, answered, -⟩ := h.opened number handle hm guard live
  exact ⟨guard, opening, live, same, by simp, asked, same ▸ answered⟩

theorem single_guard_after_start (errands : List Errand) :
    SingleGuard (start.journal errands) (start.after errands) := by
  have recorded := recorded_after_start errands
  have inOrder := recorded.inOrder
  exact {
    handles_length_le := inOrder.handles_length_le
    unreleased := fun _ _ hm => (inOrder.live_of_mem hm).1
    isInstalled_iff := inOrder.isInstalled_iff
    owner := fun _ _ hm => recorded.owner hm
    install_iff := inOrder.install_iff
    refused := fun _ live => install_of_live live
    increasing := by
      rw [recorded.numbers]
      exact List.pairwise_lt_range'
    issued_le := fun generation hg => by
      rw [recorded.numbers, List.mem_range'_1] at hg
      rw [recorded.numbers, List.length_range']
      omega
    returned := fun _ _ hm => inOrder.return_of_mem hm
    free := fun policy => ⟨step_install_cleared _ policy, fun hg => by
      rw [recorded.numbers, List.mem_range'_1, inOrder.issued_eq_given] at hg
      omega⟩
    absent := fun _ => return_of_absent
    foreign := fun handle stale => by
      rw [handle.release_eq_drop, handle.drop_of_stale stale]
      exact ⟨rfl, rfl⟩
    spent := fun handle between => Handle.drop_of_released between (handle.isReleased_giveUp _) }

end SourceGate.Desk
