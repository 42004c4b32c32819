import SourceGate.Verdict.Scope

/-! # The statements of one scope

A scope binds and declares what its statements do, each by itself.
-/

namespace SourceGate.Tree

mutual

/-- The statements that run in the scope of a statement: the bodies of functions and classes are
scopes of their own. -/
def ownStmts : Stmt → List Stmt
  | .loop place target iter body orelse =>
    .loop place target iter body orelse :: (ownStmtsAll body ++ ownStmtsAll orelse)
  | .block place exprs bodies => .block place exprs bodies :: ownStmtsNested bodies
  | s => [s]

def ownStmtsAll : List Stmt → List Stmt
  | [] => []
  | s :: rest => ownStmts s ++ ownStmtsAll rest

def ownStmtsNested : List (List Stmt) → List Stmt
  | [] => []
  | body :: rest => ownStmtsAll body ++ ownStmtsNested rest

end

namespace Stmt

/-- The names that a statement itself binds, as far as the tree shows it. -/
def assigned : Stmt → List String
  | .function _ name _ _ _ | .classDef _ name _ _ => [name]
  | .assign _ targets _ => targets.flatMap targetNames
  | .loop _ target _ _ _ => targetNames target
  | _ => []

/-- The names that a statement itself declares. -/
def declared : Stmt → List String
  | .declare _ names => names
  | _ => []

end Stmt

theorem targetNamesAll_eq (targets : List Expr) :
    targetNamesAll targets = targets.flatMap targetNames := by
  induction targets with
  | nil => rfl
  | cons target rest ih => rw [targetNamesAll, List.flatMap_cons, ih]

mutual

theorem assignedNames_eq (s : Stmt) : assignedNames s = (ownStmts s).flatMap Stmt.assigned := by
  cases s with
  | loop place target iter body orelse =>
    simp [assignedNames, ownStmts, Stmt.assigned, assignedNamesAll_eq body,
      assignedNamesAll_eq orelse]
  | block place exprs bodies =>
    simp [assignedNames, ownStmts, Stmt.assigned, assignedNamesNested_eq bodies]
  | assign place targets value =>
    simp [assignedNames, ownStmts, Stmt.assigned, targetNamesAll_eq]
  | _ => simp [assignedNames, ownStmts, Stmt.assigned]

theorem assignedNamesAll_eq (body : List Stmt) :
    assignedNamesAll body = (ownStmtsAll body).flatMap Stmt.assigned := by
  cases body with
  | nil => rfl
  | cons s rest =>
    simp [assignedNamesAll, ownStmtsAll, assignedNames_eq s, assignedNamesAll_eq rest]

theorem assignedNamesNested_eq (bodies : List (List Stmt)) :
    assignedNamesNested bodies = (ownStmtsNested bodies).flatMap Stmt.assigned := by
  cases bodies with
  | nil => rfl
  | cons body rest =>
    simp [assignedNamesNested, ownStmtsNested, assignedNamesAll_eq body,
      assignedNamesNested_eq rest]

end

mutual

theorem declaredNames_eq (s : Stmt) : declaredNames s = (ownStmts s).flatMap Stmt.declared := by
  cases s with
  | loop place target iter body orelse =>
    simp [declaredNames, ownStmts, Stmt.declared, declaredNamesAll_eq body,
      declaredNamesAll_eq orelse]
  | block place exprs bodies =>
    simp [declaredNames, ownStmts, Stmt.declared, declaredNamesNested_eq bodies]
  | _ => simp [declaredNames, ownStmts, Stmt.declared]

theorem declaredNamesAll_eq (body : List Stmt) :
    declaredNamesAll body = (ownStmtsAll body).flatMap Stmt.declared := by
  cases body with
  | nil => rfl
  | cons s rest =>
    simp [declaredNamesAll, ownStmtsAll, declaredNames_eq s, declaredNamesAll_eq rest]

theorem declaredNamesNested_eq (bodies : List (List Stmt)) :
    declaredNamesNested bodies = (ownStmtsNested bodies).flatMap Stmt.declared := by
  cases bodies with
  | nil => rfl
  | cons body rest =>
    simp [declaredNamesNested, ownStmtsNested, declaredNamesAll_eq body,
      declaredNamesNested_eq rest]

end

end SourceGate.Tree
