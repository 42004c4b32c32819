import SourceGate.Tree.Basic

/-! # The names that a scope binds

A name that a function assigns anywhere in its body is its own variable throughout, so inside the
function that name is never the builtin. Module and class bodies make no scope here: there
`open = open` still reads the builtin.
-/

namespace SourceGate.Tree

/-- The names of a list of scopes, innermost first. -/
abbrev Bound := List String

/-- A parameter without its stars. -/
def bareParam (param : String) : String :=
  String.ofList (param.toList.dropWhile (· == '*'))

mutual

/-- The plain names that a target binds. -/
def targetNames : Expr → List String
  | .name _ text => [text]
  | .list _ items | .tuple _ items => targetNamesAll items
  | _ => []

def targetNamesAll : List Expr → List String
  | [] => []
  | e :: rest => targetNames e ++ targetNamesAll rest

end

mutual

/-- The names that a statement assigns in its scope; nested functions and classes bind theirs only.
-/
def assignedNames : Stmt → List String
  | .function _ name _ _ _ | .classDef _ name _ _ => [name]
  | .assign _ targets _ => targetNamesAll targets
  | .loop _ target _ body orelse =>
    targetNames target ++ assignedNamesAll body ++ assignedNamesAll orelse
  | .block _ _ bodies => assignedNamesNested bodies
  | _ => []

def assignedNamesAll : List Stmt → List String
  | [] => []
  | s :: rest => assignedNames s ++ assignedNamesAll rest

def assignedNamesNested : List (List Stmt) → List String
  | [] => []
  | body :: rest => assignedNamesAll body ++ assignedNamesNested rest

end

mutual

/-- The names that a statement declares to belong to an outer scope. -/
def declaredNames : Stmt → List String
  | .declare _ names => names
  | .loop _ _ _ body orelse => declaredNamesAll body ++ declaredNamesAll orelse
  | .block _ _ bodies => declaredNamesNested bodies
  | _ => []

def declaredNamesAll : List Stmt → List String
  | [] => []
  | s :: rest => declaredNames s ++ declaredNamesAll rest

def declaredNamesNested : List (List Stmt) → List String
  | [] => []
  | body :: rest => declaredNamesAll body ++ declaredNamesNested rest

end

/-- The variables of a function: its parameters and what it assigns, without what it declares. -/
def functionNames (params : List String) (body : List Stmt) : Bound :=
  (params.map bareParam ++ assignedNamesAll body).filter
    fun name => !(declaredNamesAll body).contains name

/-- The variables of a comprehension. -/
def comprehensionNames (clauses : List (Clause Expr)) : Bound :=
  clauses.flatMap fun c => targetNames c.target

end SourceGate.Tree
