import SourceGate.Guard.Basic

/-! # Handles of guards

Whoever installs a guard holds a handle of it and gives it back once, by releasing or by dropping
it; both empty the slot. A desk keeps the handles that are out, numbered in the order of the
installs.
-/

namespace SourceGate

/-- What callers do at the desk. -/
inductive Errand where
  | install (policy : Policy)
  /-- Resolve a path under any number. -/
  | resolve (generation : Nat) (path : String)
  /-- Ask for the paths resolved through a handle's guard. -/
  | resolved (handle : Nat)
  | release (handle : Nat)
  | drop (handle : Nat)

/-- What the desk answers. -/
inductive Receipt where
  | installed (handle generation : Nat)
  | module (module : ModuleRef)
  | refused (refusal : Refusal)
  | paths (paths : List String)
  | released
  | dropped
  /-- No such handle is out. -/
  | noHandle
  deriving DecidableEq, Repr, Inhabited

structure Desk where
  guardian : Guardian
  /-- The handles that are out, by their numbers. -/
  handles : List (Nat × Handle)
  /-- How many handles were ever given out. -/
  given : Nat
  deriving DecidableEq, Inhabited

namespace Desk

def start : Desk := ⟨.start, [], 0⟩

/-- A handle that is out. -/
def handle? (d : Desk) (number : Nat) : Option Handle :=
  (d.handles.find? fun entry => entry.1 == number).map (·.2)

/-- The desk without a handle, which left the slot as `guardian`. -/
def without (d : Desk) (number : Nat) (guardian : Guardian) : Desk :=
  { d with guardian, handles := d.handles.filter fun entry => entry.1 != number }

def step (d : Desk) : Errand → Receipt × Desk
  | .install policy =>
    match d.guardian.install policy with
    | (.ok generation, guardian) =>
      (.installed d.given generation,
        ⟨guardian, d.handles ++ [(d.given, .ofGeneration generation)], d.given + 1⟩)
    | (.error refusal, guardian) => (.refused refusal, { d with guardian })
  | .resolve generation path =>
    match d.guardian.resolve generation path with
    | (.ok module, guardian) => (.module module, { d with guardian })
    | (.error refusal, guardian) => (.refused refusal, { d with guardian })
  | .resolved handle =>
    match d.handle? handle with
    | some h => (.paths (h.resolved d.guardian), d)
    | none => (.noHandle, d)
  | .release handle =>
    match d.handle? handle with
    | some h => (.released, d.without handle (h.release d.guardian))
    | none => (.noHandle, d)
  | .drop handle =>
    match d.handle? handle with
    | some h => (.dropped, d.without handle (h.drop d.guardian))
    | none => (.noHandle, d)

end Desk

end SourceGate
