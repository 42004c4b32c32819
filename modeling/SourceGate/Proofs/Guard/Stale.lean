import SourceGate.Proofs.Guard.Journal

/-! # What outlives its guard leaves no trace

A resolution under a number that is not live is refused and changes nothing, so it can be struck
from a run without any other errand or any log telling the difference. A number that is no longer
live never becomes live again: who still holds it resolves nothing through a later guard.
-/

namespace SourceGate

/-- Whether an errand resolves under a number that is not live at that time. -/
def Desk.Entry.isStale (e : Desk.Entry) : Bool :=
  match e.errand with
  | .resolve generation _ => (e.before.guardian.liveAs generation).isNone
  | _ => false

namespace Desk

variable {d : Desk} {generation : Nat} {path : String}

/-! ## One resolution -/

theorem step_resolve_of_allows {guard : Guard}
    (live : d.guardian.liveAs generation = some guard)
    (allowed : guard.policy.allows path = true) :
    d.step (.resolve generation path) =
      (.module ⟨path, Policy.moduleRoot path⟩,
        { d with guardian := { d.guardian with live := some (guard.noting [path]) } }) := by
  rw [step, Guardian.resolve_of_allows live allowed]

theorem step_resolve_of_refused {guard : Guard}
    (live : d.guardian.liveAs generation = some guard)
    (refused : guard.policy.allows path = false) :
    d.step (.resolve generation path) =
      (.refused (.importBlocked path (Policy.moduleRoot path)), d) := by
  rw [step, Guardian.resolve_of_refused live refused]

theorem step_resolve_of_stale (stale : d.guardian.liveAs generation = none) :
    d.step (.resolve generation path) =
      (.refused (.importBlocked path (Policy.moduleRoot path)), d) := by
  rw [step, Guardian.resolve_of_stale stale]

/-- A resolution succeeds for the live guard's number and a root that its policy allows, and
otherwise changes nothing. -/
theorem step_resolve_cases (d : Desk) (generation : Nat) (path : String) :
    ((∃ guard, d.guardian.live = some guard ∧ guard.generation = generation ∧
        Policy.moduleRoot path ∈ guard.policy.allowed.names) ∧
      (d.step (.resolve generation path)).1 = .module ⟨path, Policy.moduleRoot path⟩) ∨
    ((¬∃ guard, d.guardian.live = some guard ∧ guard.generation = generation ∧
        Policy.moduleRoot path ∈ guard.policy.allowed.names) ∧
      d.step (.resolve generation path) =
        (.refused (.importBlocked path (Policy.moduleRoot path)), d)) := by
  cases live : d.guardian.liveAs generation with
  | none =>
    refine .inr ⟨?_, step_resolve_of_stale live⟩
    rintro ⟨guard, hl, hg, -⟩
    exact Guardian.liveAs_eq_none_iff.1 live guard hl hg
  | some guard =>
    obtain ⟨hl, hg⟩ := Guardian.liveAs_eq_some_iff.1 live
    cases allowed : guard.policy.allows path with
    | true =>
      refine .inl ⟨⟨guard, hl, hg, Policy.allows_iff.1 allowed⟩, ?_⟩
      rw [step_resolve_of_allows live allowed]
    | false =>
      refine .inr ⟨?_, step_resolve_of_refused live allowed⟩
      rintro ⟨other, ho, -, member⟩
      obtain rfl := Option.some.inj (hl.symm.trans ho)
      rw [Policy.allows_iff.2 member] at allowed
      cases allowed

theorem step_resolve_iff :
    (d.step (.resolve generation path)).1 = .module ⟨path, Policy.moduleRoot path⟩ ↔
      ∃ guard, d.guardian.live = some guard ∧ guard.generation = generation ∧
        Policy.moduleRoot path ∈ guard.policy.allowed.names := by
  rcases step_resolve_cases d generation path with ⟨admits, done⟩ | ⟨blocks, failed⟩
  · exact ⟨fun _ => admits, fun _ => done⟩
  · rw [failed]
    constructor
    · rintro ⟨⟩
    · intro admits
      exact absurd admits blocks

theorem step_resolve_of_failed
    (failed : ∀ module, (d.step (.resolve generation path)).1 ≠ .module module) :
    d.step (.resolve generation path) =
      (.refused (.importBlocked path (Policy.moduleRoot path)), d) := by
  rcases step_resolve_cases d generation path with ⟨-, done⟩ | ⟨-, refused⟩
  · exact absurd done (failed _)
  · exact refused

/-! ## Striking stale errands -/

theorem step_of_isStale {errand : Errand} (stale : (d.entry errand).isStale = true) :
    (d.step errand).2 = d := by
  cases errand with
  | resolve generation path =>
    have notLive : d.guardian.liveAs generation = none := Option.isNone_iff_eq_none.1 stale
    rw [step_resolve_of_stale notLive]
  | install | resolved | release | drop => cases stale

/-- The errands that were not stale, done alone, make the same entries as in the whole run. -/
theorem journal_of_timely (d : Desk) (errands : List Errand) :
    d.journal (((d.journal errands).filter fun e => !e.isStale).map (·.errand)) =
      (d.journal errands).filter fun e => !e.isStale := by
  induction errands generalizing d with
  | nil => rfl
  | cons errand rest ih =>
    rw [journal]
    cases stale : (d.entry errand).isStale with
    | true =>
      rw [List.filter_cons_of_neg (by simp [stale]), step_of_isStale stale]
      exact ih d
    | false =>
      rw [List.filter_cons_of_pos (by simp [stale]), List.map_cons]
      change d.entry errand :: (d.step errand).2.journal _ = _
      rw [ih]

/-! ## Numbers that are used up -/

theorem Change.liveAs_eq_none {next : Desk} {errand : Errand} {receipt : Receipt}
    (change : Change d errand receipt next) (issued : generation ≤ d.guardian.issued)
    (stale : d.guardian.liveAs generation = none) :
    next.guardian.liveAs generation = none ∧ generation ≤ next.guardian.issued := by
  cases change with
  | opened count policy =>
    have older : generation ≤ count := issued
    rw [liveAs_engaged, if_neg (by omega)]
    exact ⟨rfl, Nat.le_succ_of_le older⟩
  | noted count policy log path =>
    rw [liveAs_engaged] at stale ⊢
    refine ⟨?_, issued⟩
    split at stale
    · cases stale
    · next other => rw [if_neg other]
  | released | dropped => exact ⟨rfl, issued⟩
  | idle => exact ⟨stale, issued⟩

theorem InOrder.liveAs_after (h : d.InOrder) (issued : generation ≤ d.guardian.issued)
    (stale : d.guardian.liveAs generation = none) (errands : List Errand) :
    (d.after errands).guardian.liveAs generation = none := by
  induction errands generalizing d with
  | nil => exact stale
  | cons errand rest ih =>
    obtain ⟨stale, issued⟩ := (h.change errand).liveAs_eq_none issued stale
    exact ih (h.step errand) issued stale

/-! ## The log of a handle -/

theorem InOrder.step_resolved_of_mem (h : d.InOrder) {number : Nat} {handle : Handle}
    (hm : (number, handle) ∈ d.handles) :
    ∃ guard, d.guardian.live = some guard ∧ guard.generation = handle.generation ∧
      d.step (.resolved number) = (.paths guard.resolved, d) := by
  cases h with
  | vacant => cases hm
  | engaged count policy log =>
    obtain ⟨rfl, rfl⟩ := Prod.mk.inj (List.mem_singleton.1 hm)
    rw [step_resolved_engaged, if_pos rfl]
    exact ⟨_, rfl, rfl, rfl⟩

/-- A handle answers what was resolved under its number since its install. -/
theorem Recorded.step_resolved {journal : List Entry} (h : Recorded journal d) {number : Nat}
    {handle : Handle} (hm : (number, handle) ∈ d.handles) :
    ∃ earlier opening later, journal = earlier ++ opening :: later ∧
      (∃ policy, opening.errand = .install policy) ∧
      opening.receipt = .installed number handle.generation ∧
      d.step (.resolved number) =
        (.paths (later.filterMap (Entry.resolvedUnder handle.generation)), d) := by
  obtain ⟨guard, live, same, answer⟩ := h.inOrder.step_resolved_of_mem hm
  obtain ⟨earlier, opening, later, rfl, asked, answered, log⟩ :=
    h.opened number handle hm guard live
  refine ⟨earlier, opening, later, rfl, ⟨_, asked⟩, same ▸ answered, ?_⟩
  rw [answer, log, same]

/-! ## Every run -/

/-- What a list of errands done from the start shows of resolutions under other numbers than the
live one: nothing. -/
structure StaleProof (errands : List Errand) : Prop where
  resolve_iff : ∀ generation path,
    ((start.after errands).step (.resolve generation path)).1 =
        .module ⟨path, Policy.moduleRoot path⟩ ↔
      ∃ guard, (start.after errands).guardian.live = some guard ∧ guard.generation = generation ∧
        Policy.moduleRoot path ∈ guard.policy.allowed.names
  failed : ∀ generation path,
    (∀ module, ((start.after errands).step (.resolve generation path)).1 ≠ .module module) →
      (start.after errands).step (.resolve generation path) =
        (.refused (.importBlocked path (Policy.moduleRoot path)), start.after errands)
  log : ∀ number handle, (number, handle) ∈ (start.after errands).handles →
    ∃ earlier opening later, start.journal errands = earlier ++ opening :: later ∧
      (∃ policy, opening.errand = .install policy) ∧
      opening.receipt = .installed number handle.generation ∧
      (start.after errands).step (.resolved number) =
        (.paths (later.filterMap (Entry.resolvedUnder handle.generation)), start.after errands)
  /-- The run without its stale errands: each answer and each desk, and so each log, is as it was. -/
  struck :
    start.journal (((start.journal errands).filter fun e => !e.isStale).map (·.errand)) =
      (start.journal errands).filter fun e => !e.isStale
  /-- A number that was given out and is no longer live stays refused, whatever is done next. -/
  outlived : ∀ generation ∈ (start.journal errands).filterMap Entry.issued?,
    (start.after errands).guardian.liveAs generation = none → ∀ more path,
      ((start.after errands).after more).step (.resolve generation path) =
        (.refused (.importBlocked path (Policy.moduleRoot path)), (start.after errands).after more)

theorem Recorded.issued_of_mem {journal : List Entry} (h : Recorded journal d)
    (hg : generation ∈ journal.filterMap Entry.issued?) : generation ≤ d.guardian.issued := by
  rw [h.numbers, List.mem_range'_1] at hg
  have same : d.guardian.issued = d.given := h.inOrder.issued_eq_given
  omega

theorem stale_resolutions_leave_no_trace (errands : List Errand) : StaleProof errands where
  resolve_iff _ _ := step_resolve_iff
  failed _ _ := step_resolve_of_failed
  log _ _ hm := (recorded_after_start errands).step_resolved hm
  struck := journal_of_timely start errands
  outlived generation hg stale more path := by
    have recorded := recorded_after_start errands
    have gone := recorded.inOrder.liveAs_after (recorded.issued_of_mem hg) stale more
    exact step_resolve_of_stale gone

end Desk

end SourceGate
