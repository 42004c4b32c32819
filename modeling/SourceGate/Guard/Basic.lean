import SourceGate.Policy.Basic
import SourceGate.Refusal

/-! # The import guard

At most one guard is live in a process. Each gets a number of its own, and a module is resolved
only under the number of the live guard, so what outlives its guard resolves nothing through a later
one.
-/

namespace SourceGate

/-- A module that a guard let through. -/
structure ModuleRef where
  path : String
  root : String
  deriving DecidableEq, Repr, Inhabited

/-- A live guard. -/
structure Guard where
  /-- The number of the guard. -/
  generation : Nat
  policy : Policy
  /-- The paths resolved through it, in order. -/
  resolved : List String
  deriving DecidableEq, Inhabited

/-- The guard slot of a process. -/
structure Guardian where
  live : Option Guard
  /-- How many guards were ever installed. -/
  issued : Nat
  deriving DecidableEq, Inhabited

namespace Guardian

/-- The slot before any guard is installed. -/
def start : Guardian := ⟨none, 0⟩

def isInstalled (g : Guardian) : Bool := g.live.isSome

/-- A guard for a policy, by its number. Refused while another guard is live. -/
def install (policy : Policy) (g : Guardian) : Except Refusal Nat × Guardian :=
  match g.live with
  | some _ => (.error .reentrancy, g)
  | none =>
    let generation := g.issued + 1
    (.ok generation, ⟨some ⟨generation, policy, []⟩, generation⟩)

/-- The live guard, if it has the number. -/
def liveAs (g : Guardian) (generation : Nat) : Option Guard :=
  g.live.filter fun guard => guard.generation == generation

/-- A module let through under a number, and noted by the guard. -/
def resolve (generation : Nat) (path : String) (g : Guardian) :
    Except Refusal ModuleRef × Guardian :=
  let root := Policy.moduleRoot path
  match g.liveAs generation with
  | some guard =>
    if guard.policy.allows path then
      (.ok ⟨path, root⟩,
        { g with live := some { guard with resolved := guard.resolved ++ [path] } })
    else (.error (.importBlocked path root), g)
  | none => (.error (.importBlocked path root), g)

/-- The paths resolved under a number so far. -/
def resolved (generation : Nat) (g : Guardian) : List String :=
  ((g.liveAs generation).map (·.resolved)).getD []

/-- The slot after the guard of a number is released. Any other guard stays. -/
def release (generation : Nat) (g : Guardian) : Guardian :=
  match g.liveAs generation with
  | some _ => { g with live := none }
  | none => g

end Guardian

/-- What whoever installs a guard is given for it. -/
structure Handle where
  /-- The number of the guard. -/
  generation : Nat
  isReleased : Bool
  deriving DecidableEq, Repr, Inhabited

namespace Handle

/-- The handle of a new guard. -/
def ofGeneration (generation : Nat) : Handle := ⟨generation, false⟩

/-- The paths resolved through the handle's guard so far. -/
def resolved (h : Handle) (g : Guardian) : List String := g.resolved h.generation

/-- The slot emptied of the handle's guard, unless the handle has done that before. -/
def giveUp (h : Handle) (g : Guardian) : Handle × Guardian :=
  if h.isReleased then (h, g) else ({ h with isReleased := true }, g.release h.generation)

/-- The slot after a handle goes out of use. -/
def drop (h : Handle) (g : Guardian) : Guardian := (h.giveUp g).2

/-- The slot after a handle is released, which puts it out of use at once. -/
def release (h : Handle) (g : Guardian) : Guardian :=
  let (h, g) := h.giveUp g
  h.drop g

end Handle

end SourceGate
