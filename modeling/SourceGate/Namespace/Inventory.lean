import SourceGate.Namespace.Basic

/-! # Inventories

What a loaded namespace holds, and what is known of one function in it.
-/

namespace SourceGate

structure Inventory where
  /-- The function asked for; absent if none was, or if there is none of that name. -/
  target : Option FunctionInfo
  imports : List ModuleRef
  functions : List String
  classes : List String
  names : List String
  deriving DecidableEq, Repr, Inhabited

/-- The inventory of a namespace, with a target unless its name is empty. -/
def Namespace.inventory (n : Namespace) (target : String) : Inventory where
  target := if target.isEmpty then none else n.function? target
  imports := n.imports
  functions := n.functions.map (·.2.qualifiedName)
  classes := n.classes.map (·.2.name)
  names := n.names

end SourceGate
