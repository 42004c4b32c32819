import SourceGate.Run.Program
import SourceGate.Proofs.Guard.Slot

/-! # Programs at work

A sequence of programs runs as its parts do, one after the other. A resolution under the number of
the live guard adds its path to the log or ends in a refusal.
-/

namespace SourceGate

/-- The slot after paths were resolved through its live guard. -/
def Guardian.noting (g : Guardian) (paths : List String) : Guardian :=
  { g with live := g.live.map (·.noting paths) }

@[simp] theorem Guardian.noting_nil (g : Guardian) : g.noting [] = g := by
  cases g with
  | mk live issued => cases live <;> simp [noting]

@[simp] theorem Guardian.noting_noting (g : Guardian) (first second : List String) :
    (g.noting first).noting second = g.noting (first ++ second) := by
  cases g with
  | mk live issued => cases live <;> simp [noting]

theorem Guardian.liveAs_noting {g : Guardian} {generation : Nat} {guard : Guard}
    (h : g.liveAs generation = some guard) (paths : List String) :
    (g.noting paths).liveAs generation = some (guard.noting paths) := by
  obtain ⟨live, same⟩ := Guardian.liveAs_eq_some_iff.1 h
  exact Guardian.liveAs_eq_some_iff.2 ⟨by rw [noting, live]; rfl, same⟩

/-- A module as a guard lets it through. -/
def ModuleRef.ofPath (path : String) : ModuleRef := ⟨path, Policy.moduleRoot path⟩

namespace Program

variable {α β : Type}

/-- The world after paths were resolved through the live guard. -/
def World.noting (w : World) (paths : List String) : World :=
  { w with guardian := w.guardian.noting paths }

/-- The worker after paths were resolved through the live guard. -/
def Worker.noting (w : Worker) (paths : List String) : Worker :=
  { w with guardian := w.guardian.noting paths }

@[simp] theorem Worker.noting_nil (w : Worker) : w.noting [] = w := by
  simp [Worker.noting]

@[simp] theorem Worker.noting_noting (w : Worker) (first second : List String) :
    (w.noting first).noting second = w.noting (first ++ second) := by
  simp [Worker.noting]

theorem Worker.liveAs_noting {w : Worker} {generation : Nat} {guard : Guard}
    (h : w.guardian.liveAs generation = some guard) (paths : List String) :
    (w.noting paths).guardian.liveAs generation = some (guard.noting paths) :=
  Guardian.liveAs_noting h paths

/-- What follows a program is run on its value, where it ends with one. -/
theorem runFrom_bind (p : Program α) (f : α → Program β) (w : Worker) :
    (p.bind f).runFrom w =
      match p.runFrom w with
      | (some (.ok value), w) => (f value).runFrom w
      | (some (.error failure), w) => (some (.error failure), w)
      | (none, w) => (none, w) := by
  induction p generalizing w with
  | done | fail | panic => rfl
  | readToken next ih => exact ih _ w
  | tripToken next ih => exact ih _
  | awaitToken next ih =>
    simp only [bind, runFrom]
    split
    · exact ih w
    · rfl
  | sleep span next ih => exact ih _
  | resolve generation path next ih => exact ih _ _
  | readSlot next ih => exact ih _ w
  | install policy next ih => exact ih _ _
  | release generation next ih =>
    simp only [bind, runFrom]
    split
    · exact ih _
    · exact ih w
  | askGate next ih => exact ih _ w

theorem runFrom_bind_of_ok {p : Program α} {w after : Worker} {value : α}
    (h : p.runFrom w = (some (.ok value), after)) (f : α → Program β) :
    (p.bind f).runFrom w = (f value).runFrom after := by
  rw [runFrom_bind, h]

theorem runFrom_bind_of_error {p : Program α} {w after : Worker} {failure : Failure}
    (h : p.runFrom w = (some (.error failure), after)) (f : α → Program β) :
    (p.bind f).runFrom w = (some (.error failure), after) := by
  rw [runFrom_bind, h]

/-! ## Single requests -/

section Requests

variable {w : Worker} {generation : Nat} {guard : Guard} {path : String}

/-- A run that was not given up goes on behind its checkpoint. -/
theorem runFrom_checkpoint_bind (running : w.tripped = false) (f : Unit → Program β) :
    (checkpoint.bind fun answer => (ofAnswer answer).bind f).runFrom w = (f ()).runFrom w := by
  simp [checkpoint, bind, runFrom, running, ofAnswer]

theorem runFrom_import_bind_of_allows (live : w.guardian.liveAs generation = some guard)
    (allowed : guard.policy.allows path = true) (f : ModuleRef → Program β) :
    ((importModule generation path).bind fun answer => (ofAnswer answer).bind f).runFrom w =
      (f (.ofPath path)).runFrom (w.noting [path]) := by
  obtain ⟨slot, -⟩ := Guardian.liveAs_eq_some_iff.1 live
  simp [importModule, bind, runFrom, Guardian.resolve_of_allows live allowed, ofAnswer,
    ModuleRef.ofPath, Worker.noting, Guardian.noting, slot]

theorem runFrom_import_bind_of_refused (live : w.guardian.liveAs generation = some guard)
    (refused : guard.policy.allows path = false) (f : ModuleRef → Program β) :
    ((importModule generation path).bind fun answer => (ofAnswer answer).bind f).runFrom w =
      (some (.error (.ofRefusal (.importBlocked path (Policy.moduleRoot path)))), w) := by
  simp [importModule, bind, runFrom, Guardian.resolve_of_refused live refused, ofAnswer]

end Requests

end Program

end SourceGate
