import SourceGate.Guard.Desk
import SourceGate.Proofs.Guard.Slot

/-! # The journal of a desk

What was done at a desk, errand by errand. However the errands follow each other, the desk is either
empty, or a single handle is out and the slot holds the guard that was installed for it; so one step
has few outcomes, and the log of the live guard can be read off the journal since its install.
-/

namespace SourceGate

/-- One errand done: the desk before it, what was asked and answered, and the desk after it. -/
structure Desk.Entry where
  before : Desk
  errand : Errand
  receipt : Receipt
  after : Desk

namespace Desk

/-- The entry of an errand that is done now. -/
def entry (d : Desk) (errand : Errand) : Entry :=
  ⟨d, errand, (d.step errand).1, (d.step errand).2⟩

/-- The entries of a list of errands. -/
def journal (d : Desk) : List Errand → List Entry
  | [] => []
  | errand :: rest => d.entry errand :: (d.step errand).2.journal rest

/-- The desk after a list of errands. -/
def after (d : Desk) (errands : List Errand) : Desk :=
  errands.foldl (fun d errand => (d.step errand).2) d

/-! ## The two forms of a desk -/

/-- A desk with no handle out, after a number of installs. -/
def vacant (count : Nat) : Desk := ⟨⟨none, count⟩, [], count⟩

/-- A desk with one handle out: the last that was given, for the last guard that was installed. -/
def engaged (count : Nat) (policy : Policy) (log : List String) : Desk :=
  ⟨⟨some ⟨count + 1, policy, log⟩, count + 1⟩, [(count, .ofGeneration (count + 1))], count + 1⟩

inductive InOrder : Desk → Prop where
  | vacant (count : Nat) : InOrder (vacant count)
  | engaged (count : Nat) (policy : Policy) (log : List String) : InOrder (engaged count policy log)

section Engaged

variable (count : Nat) (policy : Policy) (log : List String)

theorem liveAs_engaged (generation : Nat) :
    (engaged count policy log).guardian.liveAs generation =
      if count + 1 = generation then some ⟨count + 1, policy, log⟩ else none := by
  by_cases h : count + 1 = generation <;> simp [engaged, Guardian.liveAs, h]

theorem handle?_engaged (number : Nat) :
    (engaged count policy log).handle? number =
      if count = number then some (.ofGeneration (count + 1)) else none := by
  by_cases h : count = number <;> simp [engaged, handle?, h]

/-- Giving back the handle that is out leaves the desk as if it had never been engaged, but for the
numbers that are used up. -/
theorem without_engaged :
    (engaged count policy log).without count
        ((Handle.ofGeneration (count + 1)).drop (engaged count policy log).guardian) =
      vacant (count + 1) := by
  have live := liveAs_engaged count policy log (count + 1)
  rw [if_pos rfl] at live
  rw [Handle.drop_ofGeneration, Guardian.release_of_live live]
  simp [without, engaged, vacant]

theorem step_install_engaged (other : Policy) :
    (engaged count policy log).step (.install other) =
      (.refused .reentrancy, engaged count policy log) := rfl

theorem step_resolve_engaged (generation : Nat) (path : String) :
    (engaged count policy log).step (.resolve generation path) =
      if count + 1 = generation ∧ policy.allows path = true then
        (.module ⟨path, Policy.moduleRoot path⟩, engaged count policy (log ++ [path]))
      else
        (.refused (.importBlocked path (Policy.moduleRoot path)), engaged count policy log) := by
  have live := liveAs_engaged count policy log generation
  by_cases own : count + 1 = generation
  · rw [if_pos own] at live
    cases allowed : policy.allows path with
    | true => rw [step, Guardian.resolve_of_allows live allowed]; simp [own, engaged, Guard.noting]
    | false => rw [step, Guardian.resolve_of_refused live allowed]; simp
  · rw [if_neg own] at live
    rw [step, Guardian.resolve_of_stale live]
    simp [own]

theorem step_resolved_engaged (number : Nat) :
    (engaged count policy log).step (.resolved number) =
      if count = number then (.paths log, engaged count policy log)
      else (.noHandle, engaged count policy log) := by
  rw [step, handle?_engaged]
  by_cases own : count = number
  · subst own
    simp [Handle.resolved, Handle.ofGeneration, Guardian.resolved, liveAs_engaged]
  · simp [own]

theorem step_release_engaged (number : Nat) :
    (engaged count policy log).step (.release number) =
      if count = number then (.released, vacant (count + 1))
      else (.noHandle, engaged count policy log) := by
  rw [step, handle?_engaged]
  by_cases own : count = number
  · subst own
    simp [Handle.release_eq_drop, without_engaged]
  · simp [own]

theorem step_drop_engaged (number : Nat) :
    (engaged count policy log).step (.drop number) =
      if count = number then (.dropped, vacant (count + 1))
      else (.noHandle, engaged count policy log) := by
  rw [step, handle?_engaged]
  by_cases own : count = number
  · subst own
    simp [without_engaged]
  · simp [own]

end Engaged

/-! ## One step -/

end Desk

/-- An answer that neither hands out a handle nor lets a module through. -/
def Receipt.isIdle : Receipt → Bool
  | .installed _ _ | .module _ => false
  | _ => true

namespace Desk

/-- What one errand does to a desk. Only a first install, an allowed resolution under the number of
the live guard and the return of the handle that is out change anything. -/
inductive Change : Desk → Errand → Receipt → Desk → Prop where
  | opened (count : Nat) (policy : Policy) :
      Change (vacant count) (.install policy) (.installed count (count + 1))
        (engaged count policy [])
  | noted (count : Nat) (policy : Policy) (log : List String) (path : String)
      (allowed : policy.allows path = true) :
      Change (engaged count policy log) (.resolve (count + 1) path)
        (.module ⟨path, Policy.moduleRoot path⟩) (engaged count policy (log ++ [path]))
  | released (count : Nat) (policy : Policy) (log : List String) :
      Change (engaged count policy log) (.release count) .released (vacant (count + 1))
  | dropped (count : Nat) (policy : Policy) (log : List String) :
      Change (engaged count policy log) (.drop count) .dropped (vacant (count + 1))
  | idle {d : Desk} {errand : Errand} {receipt : Receipt} (h : receipt.isIdle = true) :
      Change d errand receipt d

theorem InOrder.change {d : Desk} (h : d.InOrder) (errand : Errand) :
    Change d errand (d.step errand).1 (d.step errand).2 := by
  cases h with
  | vacant count =>
    cases errand with
    | install policy => exact .opened count policy
    | resolve | resolved | release | drop => exact .idle rfl
  | engaged count policy log =>
    cases errand with
    | install other => exact .idle rfl
    | resolve generation path =>
      rw [step_resolve_engaged]
      split
      · next own =>
        obtain ⟨rfl, allowed⟩ := own
        exact .noted count policy log path allowed
      · exact .idle rfl
    | resolved number =>
      rw [step_resolved_engaged]
      split <;> exact .idle rfl
    | release number =>
      rw [step_release_engaged]
      split
      · next own =>
        subst own
        exact .released count policy log
      · exact .idle rfl
    | drop number =>
      rw [step_drop_engaged]
      split
      · next own =>
        subst own
        exact .dropped count policy log
      · exact .idle rfl

theorem Change.inOrder {d next : Desk} {errand : Errand} {receipt : Receipt}
    (change : Change d errand receipt next) (h : d.InOrder) : next.InOrder := by
  cases change with
  | opened count policy => exact .engaged count policy []
  | noted count policy log path => exact .engaged count policy (log ++ [path])
  | released count | dropped count => exact .vacant (count + 1)
  | idle => exact h

theorem InOrder.step {d : Desk} (h : d.InOrder) (errand : Errand) : (d.step errand).2.InOrder :=
  (h.change errand).inOrder h

theorem InOrder.issued_eq_given {d : Desk} (h : d.InOrder) : d.guardian.issued = d.given := by
  cases h <;> rfl

end Desk

/-! ## What the journal tells -/

namespace Desk.Entry

/-- The path that an errand resolved under a number. -/
def resolvedUnder (generation : Nat) (e : Entry) : Option String :=
  match e.errand, e.receipt with
  | .resolve n path, .module _ => if n = generation then some path else none
  | _, _ => none

/-- The number of the guard that an errand installed. -/
def issued? (e : Entry) : Option Nat :=
  match e.receipt with
  | .installed _ generation => some generation
  | _ => none

theorem resolvedUnder_of_isIdle {e : Entry} (idle : e.receipt.isIdle = true) (generation : Nat) :
    e.resolvedUnder generation = none := by
  obtain ⟨before, errand, receipt, after⟩ := e
  cases receipt <;> first | cases errand <;> rfl | cases idle

theorem issued?_of_isIdle {e : Entry} (idle : e.receipt.isIdle = true) : e.issued? = none := by
  obtain ⟨before, errand, receipt, after⟩ := e
  cases receipt <;> first | rfl | cases idle

end Desk.Entry

namespace Desk

/-- A guard was installed for a handle, and its log is what was resolved under its number since. -/
def Opened (journal : List Entry) (number : Nat) (guard : Guard) : Prop :=
  ∃ earlier opening later, journal = earlier ++ opening :: later ∧
    opening.errand = .install guard.policy ∧
    opening.receipt = .installed number guard.generation ∧
    guard.resolved = later.filterMap (Entry.resolvedUnder guard.generation)

theorem Opened.append {journal : List Entry} {number : Nat} {guard : Guard}
    (h : Opened journal number guard) {e : Entry} {path : Option String}
    (noted : e.resolvedUnder guard.generation = path) :
    Opened (journal ++ [e]) number (guard.noting path.toList) := by
  obtain ⟨earlier, opening, later, rfl, asked, answered, log⟩ := h
  refine ⟨earlier, opening, later ++ [e], by simp, asked, answered, ?_⟩
  rw [Guard.noting_resolved, log, Guard.noting_generation, List.filterMap_append]
  cases path <;> simp [noted]

/-- What a journal tells of the desk that it led to. -/
structure Recorded (journal : List Entry) (d : Desk) : Prop where
  inOrder : d.InOrder
  /-- The numbers of the guards are 1, 2, 3 and so on. -/
  numbers : journal.filterMap Entry.issued? = List.range' 1 d.given
  opened : ∀ number handle, (number, handle) ∈ d.handles → ∀ guard, d.guardian.live = some guard →
    Opened journal number guard

theorem recorded_start : Recorded [] start where
  inOrder := .vacant 0
  numbers := rfl
  opened _ _ h := by cases h

theorem Change.numbers {e : Entry} (change : Change e.before e.errand e.receipt e.after) :
    List.range' 1 e.before.given ++ e.issued?.toList = List.range' 1 e.after.given := by
  obtain ⟨before, errand, receipt, after⟩ := e
  cases change with
  | opened count policy =>
    change List.range' 1 count ++ [count + 1] = List.range' 1 (count + 1)
    rw [List.range'_concat, Nat.one_mul, Nat.add_comm]
  | noted | released | dropped => exact List.append_nil _
  | idle h =>
    rw [Entry.issued?_of_isIdle h]
    exact List.append_nil _

/-- What one entry adds to a journal. -/
theorem Recorded.change {journal : List Entry} {e : Entry} (h : Recorded journal e.before)
    (change : Change e.before e.errand e.receipt e.after) : Recorded (journal ++ [e]) e.after where
  inOrder := change.inOrder h.inOrder
  numbers := by
    rw [List.filterMap_append, h.numbers, ← change.numbers]
    cases found : e.issued? <;> simp [found]
  opened number handle hm guard live := by
    obtain ⟨before, errand, receipt, after⟩ := e
    cases change with
    | opened count policy =>
      obtain ⟨rfl, -⟩ := Prod.mk.inj (List.mem_singleton.1 hm)
      obtain rfl := Option.some.inj live
      exact ⟨journal, _, [], rfl, rfl, rfl, rfl⟩
    | noted count policy log path =>
      obtain rfl := Option.some.inj live
      have noted : Entry.resolvedUnder (count + 1)
          ⟨engaged count policy log, .resolve (count + 1) path,
            .module ⟨path, Policy.moduleRoot path⟩, engaged count policy (log ++ [path])⟩ =
          some path := if_pos rfl
      exact (h.opened number handle hm _ rfl).append noted
    | released | dropped => cases hm
    | idle quiet =>
      have opened := (h.opened number handle hm guard live).append
        (Entry.resolvedUnder_of_isIdle quiet guard.generation)
      rwa [Option.toList_none, Guard.noting_nil] at opened

theorem Recorded.after {journal : List Entry} {d : Desk} (h : Recorded journal d)
    (errands : List Errand) : Recorded (journal ++ d.journal errands) (d.after errands) := by
  induction errands generalizing journal d with
  | nil =>
    change Recorded (journal ++ []) d
    rwa [List.append_nil]
  | cons errand rest ih =>
    have next : Recorded (journal ++ [d.entry errand]) (d.step errand).2 :=
      Recorded.change h (h.inOrder.change errand)
    have last := ih next
    rw [List.append_assoc] at last
    exact last

/-- Every run from the start is recorded in its journal. -/
theorem recorded_after_start (errands : List Errand) :
    Recorded (start.journal errands) (start.after errands) :=
  recorded_start.after errands

end Desk

end SourceGate
