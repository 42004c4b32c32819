import SourceGate.Text.Location

/-! # The tree that is judged

A closed set of statements and expressions. Only the shapes about which a verdict reasons have a
constructor of their own; every other form keeps its children, so that a walk meets all of them.
-/

namespace SourceGate.Tree

/-- The identity and the place of an expression. -/
structure Mark where
  id : Nat
  place : Location
  deriving DecidableEq, Repr, Inhabited

/-- A keyword argument; `**mapping` has no name. -/
structure Keyword (ε : Type) where
  name : Option String
  value : ε
  deriving Repr

/-- One `for … in … if …` clause. -/
structure Clause (ε : Type) where
  target : ε
  iter : ε
  conditions : List ε
  deriving Repr

inductive Expr where
  | name (mark : Mark) (text : String)
  | attribute (mark : Mark) (value : Expr) (attr : String)
  | subscript (mark : Mark) (value index : Expr)
  | call (mark : Mark) (func : Expr) (args : List Expr) (keywords : List (Keyword Expr))
  | list (mark : Mark) (items : List Expr)
  | tuple (mark : Mark) (items : List Expr)
  | set (mark : Mark) (items : List Expr)
  /-- An entry without key is a splat `**mapping`. -/
  | dict (mark : Mark) (entries : List (Option Expr × Expr))
  | str (mark : Mark) (text : String)
  | int (mark : Mark) (value : Int)
  /-- Any other literal. -/
  | constant (mark : Mark)
  | comprehension (mark : Mark) (elements : List Expr) (clauses : List (Clause Expr))
  | lambda (mark : Mark) (params : List String) (header : List Expr) (body : Expr)
  /-- A conditional form: the tests are evaluated, one of the values is the result. -/
  | branch (mark : Mark) (tests values : List Expr)
  /-- `left + right`, kept apart so that text can be folded. -/
  | concat (mark : Mark) (left right : Expr)
  | other (mark : Mark) (children : List Expr)
  deriving Repr, Inhabited

namespace Expr

def mark : Expr → Mark
  | .name m _ | .attribute m _ _ | .subscript m _ _ | .call m _ _ _ | .list m _ | .tuple m _
  | .set m _ | .dict m _ | .str m _ | .int m _ | .constant m | .comprehension m _ _
  | .lambda m _ _ _ | .branch m _ _ | .concat m _ _ | .other m _ => m

def id (e : Expr) : Nat := e.mark.id

def place (e : Expr) : Location := e.mark.place

/-- The items of a list, tuple or set display. -/
def sequenceItems? : Expr → Option (List Expr)
  | .list _ items | .tuple _ items | .set _ items => some items
  | _ => none

/-- Whether an expression is a list, tuple, set or dict display. -/
def isDisplay : Expr → Bool
  | .list _ _ | .tuple _ _ | .set _ _ | .dict _ _ => true
  | _ => false

end Expr

inductive Stmt where
  /-- `import a.b, c`: the dotted path of each module. -/
  | imports (place : Location) (modules : List String)
  /-- `from a.b import c`; `level` counts the dots before the module. -/
  | importsFrom (place : Location) (source : Option String) (level : Nat) (names : List String)
  /-- The header holds decorators, annotations and defaults. -/
  | function (place : Location) (name : String) (params : List String) (header : List Expr)
      (body : List Stmt)
  | classDef (place : Location) (name : String) (header : List Expr) (body : List Stmt)
  | assign (place : Location) (targets : List Expr) (value : Expr)
  | loop (place : Location) (target iter : Expr) (body orelse : List Stmt)
  /-- Any other statement: its expressions, then the bodies nested in it. -/
  | block (place : Location) (exprs : List Expr) (bodies : List (List Stmt))
  /-- `global` or `nonlocal`: names that the scope does not bind. -/
  | declare (place : Location) (names : List String)
  /-- A form that is not modelled. -/
  | unsupported (place : Location)
  deriving Repr, Inhabited

def Stmt.place : Stmt → Location
  | .imports p _ | .importsFrom p _ _ _ | .function p _ _ _ _ | .classDef p _ _ _ | .assign p _ _
  | .loop p _ _ _ _ | .block p _ _ | .declare p _ | .unsupported p => p

end SourceGate.Tree

namespace SourceGate

/-- The path that a `from` import names: a dot for each level, then the module. -/
def importPath (source : Option String) (level : Nat) : String :=
  String.ofList (List.replicate level '.') ++ source.getD ""

end SourceGate
