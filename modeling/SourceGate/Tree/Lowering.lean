import SourceGate.Script.Syntax
import SourceGate.Tree.Basic
import SourceGate.Word

/-! # From Python's syntax to the tree that is judged

Identities are handed out by a counter, so no two expressions of one tree share one. A `case`
pattern looks its subject up: mapping keys become subscripts and class keywords become attributes,
both on an opaque base.
-/

namespace SourceGate.Tree

/-- A lowering hands out identities; offsets are looked up in the index. -/
abbrev Lower (α : Type) := StateM Nat α

/-- The next identity, for an expression at `place`. -/
def freshAt (place : Location) : Lower Mark := fun next => (⟨next, place⟩, next + 1)

/-- The next identity, for an expression that starts at `start`. -/
def fresh (index : LineIndex) (start : Nat) : Lower Mark := freshAt (index.locate start)

/-- The greatest integer that is kept as one. -/
def greatestInt : Nat := Word.signedCount - 1

/-- The literal with a mark. -/
def literal (mark : Mark) : Script.Constant → Expr
  | .text value => .str mark value
  | .integer value => if value ≤ greatestInt then .int mark value else .constant mark
  | _ => .constant mark

/-- A sign in front of a lowered operand: a minus folds into an integer. -/
def signed (mark : Mark) (op : Script.UnaryOp) (operand : Expr) : Expr :=
  match op, operand with
  | .minus, .int _ value => .int mark (-value)
  | _, _ => .other mark [operand]

/-- The names of a parameter list, stars kept: plain ones, then `*rest`, then `**extra`. -/
def paramNames (params : Script.Parameters Script.Expr) : List String :=
  (params.positional ++ params.plain ++ params.keywordOnly).map (·.name) ++
    params.rest.toList.map ("*" ++ ·.name) ++ params.extra.toList.map ("**" ++ ·.name)

mutual

def lowerExpr (index : LineIndex) : Script.Expr → Lower Expr
  | .name start text => return .name (← fresh index start) text
  | .attribute start value attr => do
    let mark ← fresh index start
    return .attribute mark (← lowerExpr index value) attr
  | .subscript start value slice => do
    let mark ← fresh index start
    let value ← lowerExpr index value
    return .subscript mark value (← lowerExpr index slice)
  | .call start func args keywords => do
    let mark ← fresh index start
    let func ← lowerExpr index func
    let args ← lowerExprs index args
    return .call mark func args (← lowerKeywords index keywords)
  | .list start items => do
    let mark ← fresh index start
    return .list mark (← lowerExprs index items)
  | .tuple start items => do
    let mark ← fresh index start
    return .tuple mark (← lowerExprs index items)
  | .set start items => do
    let mark ← fresh index start
    return .set mark (← lowerExprs index items)
  | .dict start entries => do
    let mark ← fresh index start
    return .dict mark (← lowerEntries index entries)
  | .constant start value => return literal (← fresh index start) value
  | .unary start op operand => do
    let mark ← fresh index start
    return signed mark op (← lowerExpr index operand)
  | .binary start left op right => do
    let mark ← fresh index start
    let left ← lowerExpr index left
    let right ← lowerExpr index right
    return if op = .add then .concat mark left right else .other mark [left, right]
  | .boolean start _ values => do
    let mark ← fresh index start
    return .branch mark [] (← lowerExprs index values)
  | .conditional start test body orelse => do
    let mark ← fresh index start
    let test ← lowerExpr index test
    let body ← lowerExpr index body
    return .branch mark [test] [body, ← lowerExpr index orelse]
  | .named start target value => do
    let mark ← fresh index start
    let target ← lowerExpr index target
    return .branch mark [target] [← lowerExpr index value]
  | .listComp start element clauses | .setComp start element clauses
  | .generator start element clauses => do
    let mark ← fresh index start
    let element ← lowerExpr index element
    return .comprehension mark [element] (← lowerClauses index clauses)
  | .dictComp start key value clauses => do
    let mark ← fresh index start
    let key ← lowerExpr index key
    let value ← lowerExpr index value
    return .comprehension mark [key, value] (← lowerClauses index clauses)
  | .lambda start params body => do
    let mark ← fresh index start
    let header ← lowerParameters index params
    return .lambda mark (paramNames params) header (← lowerExpr index body)
  | .compare start left _ rights => do
    let mark ← fresh index start
    let left ← lowerExpr index left
    return .other mark (left :: (← lowerExprs index rights))
  | .await start value | .yieldFrom start value | .starred start value => do
    let mark ← fresh index start
    return .other mark [← lowerExpr index value]
  | .yield start value => do
    let mark ← fresh index start
    return .other mark (← lowerOption index value)
  | .formatted start value _ spec => do
    let mark ← fresh index start
    let value ← lowerExpr index value
    return .other mark (value :: (← lowerOption index spec))
  | .joined start values => do
    let mark ← fresh index start
    return .other mark (← lowerExprs index values)
  | .slice start lower upper step => do
    let mark ← fresh index start
    let lower ← lowerOption index lower
    let upper ← lowerOption index upper
    return .other mark (lower ++ upper ++ (← lowerOption index step))

def lowerExprs (index : LineIndex) : List Script.Expr → Lower (List Expr)
  | [] => return []
  | e :: rest => do
    let e ← lowerExpr index e
    return e :: (← lowerExprs index rest)

def lowerOption (index : LineIndex) : Option Script.Expr → Lower (List Expr)
  | none => return []
  | some e => return [← lowerExpr index e]

def lowerKeywords (index : LineIndex) :
    List (Script.KeywordArgument Script.Expr) → Lower (List (Keyword Expr))
  | [] => return []
  | ⟨name, value⟩ :: rest => do
    let value ← lowerExpr index value
    return ⟨name, value⟩ :: (← lowerKeywords index rest)

def lowerEntries (index : LineIndex) :
    List (Option Script.Expr × Script.Expr) → Lower (List (Option Expr × Expr))
  | [] => return []
  | (none, value) :: rest => do
    let value ← lowerExpr index value
    return (none, value) :: (← lowerEntries index rest)
  | (some key, value) :: rest => do
    let key ← lowerExpr index key
    let value ← lowerExpr index value
    return (some key, value) :: (← lowerEntries index rest)

def lowerClauses (index : LineIndex) :
    List (Script.Clause Script.Expr) → Lower (List (Clause Expr))
  | [] => return []
  | ⟨_, target, iter, conditions⟩ :: rest => do
    let target ← lowerExpr index target
    let iter ← lowerExpr index iter
    let conditions ← lowerExprs index conditions
    return ⟨target, iter, conditions⟩ :: (← lowerClauses index rest)

/-- The annotations and defaults of a parameter list. -/
def lowerParameters (index : LineIndex) : Script.Parameters Script.Expr → Lower (List Expr)
  | ⟨positional, plain, rest, keywordOnly, extra⟩ => do
    let positional ← lowerParameterList index positional
    let plain ← lowerParameterList index plain
    let keywordOnly ← lowerParameterList index keywordOnly
    let rest ← lowerStarParameter index rest
    return positional ++ plain ++ keywordOnly ++ rest ++ (← lowerStarParameter index extra)

def lowerParameterList (index : LineIndex) :
    List (Script.Parameter Script.Expr) → Lower (List Expr)
  | [] => return []
  | ⟨_, _, annotation, value⟩ :: rest => do
    let annotation ← lowerOption index annotation
    let value ← lowerOption index value
    return annotation ++ value ++ (← lowerParameterList index rest)

def lowerStarParameter (index : LineIndex) :
    Option (Script.StarParameter Script.Expr) → Lower (List Expr)
  | none => return []
  | some ⟨_, _, annotation⟩ => lowerOption index annotation

end

/-- The lookup of a key on the subject of a `match`. -/
def keyLookup (index : LineIndex) (key : Script.Expr) : Lower Expr := do
  let key ← lowerExpr index key
  let base ← freshAt key.place
  return .subscript (← freshAt key.place) (.other base []) key

/-- The lookup of an attribute on the subject of a `match`. -/
def attributeLookup (place : Location) (attr : String) : Lower Expr := do
  let base ← freshAt place
  return .attribute (← freshAt place) (.other base []) attr

mutual

/-- The expressions that a pattern evaluates and the lookups it makes. -/
def lowerPattern (index : LineIndex) : Script.Pattern → Lower (List Expr)
  | .value value => return [← lowerExpr index value]
  | .singleton _ | .star _ => return []
  | .sequence items | .either items => lowerPatterns index items
  | .mapping keys items _ => do
    let lookups ← keys.mapM (keyLookup index)
    return lookups ++ (← lowerPatterns index items)
  | .instanceOf cls items attrs attrItems => do
    let cls ← lowerExpr index cls
    let lookups ← attrs.mapM (attributeLookup cls.place)
    let items ← lowerPatterns index items
    return cls :: lookups ++ items ++ (← lowerPatterns index attrItems)
  | .capture none _ => return []
  | .capture (some inner) _ => lowerPattern index inner

def lowerPatterns (index : LineIndex) : List Script.Pattern → Lower (List Expr)
  | [] => return []
  | p :: rest => do
    let found ← lowerPattern index p
    return found ++ (← lowerPatterns index rest)

end

/-- The expressions of `with` items. -/
def lowerItems (index : LineIndex) : List Script.ContextItem → Lower (List Expr)
  | [] => return []
  | ⟨context, target⟩ :: rest => do
    let context ← lowerExpr index context
    let target ← lowerOption index target
    return context :: target ++ (← lowerItems index rest)

/-- The values of keyword arguments. -/
def lowerKeywordValues (index : LineIndex)
    (keywords : List (Script.KeywordArgument Script.Expr)) : Lower (List Expr) := do
  return (← lowerKeywords index keywords).map (·.value)

mutual

def lowerStmt (index : LineIndex) : Script.Stmt → Lower Stmt
  | .importModules start names =>
    return .imports (index.locate start) (names.map (·.name))
  | .importNames start source names level =>
    return .importsFrom (index.locate start) source level (names.map (·.name))
  | .function start _ name _ params body decorators returns => do
    let decorators ← lowerExprs index decorators
    let header ← lowerParameters index params
    let returns ← lowerOption index returns
    return .function (index.locate start) name (paramNames params)
      (decorators ++ header ++ returns) (← lowerStmts index body)
  | .classDef start name _ bases keywords body decorators => do
    let decorators ← lowerExprs index decorators
    let bases ← lowerExprs index bases
    let keywords ← lowerKeywordValues index keywords
    return .classDef (index.locate start) name (decorators ++ bases ++ keywords)
      (← lowerStmts index body)
  | .assign start targets value => do
    let targets ← lowerExprs index targets
    return .assign (index.locate start) targets (← lowerExpr index value)
  | .augAssign start target _ value => do
    let target ← lowerExpr index target
    return .assign (index.locate start) [target] (← lowerExpr index value)
  | .annAssign start target annotation none => do
    let target ← lowerExpr index target
    return .block (index.locate start) [target, ← lowerExpr index annotation] []
  | .annAssign start target annotation (some value) => do
    let target ← lowerExpr index target
    let annotation ← lowerExpr index annotation
    return .assign (index.locate start) [target, annotation] (← lowerExpr index value)
  | .for start _ target iter body orelse => do
    let target ← lowerExpr index target
    let iter ← lowerExpr index iter
    let body ← lowerStmts index body
    return .loop (index.locate start) target iter body (← lowerStmts index orelse)
  | .while start test body orelse | .if start test body orelse => do
    let test ← lowerExpr index test
    let body ← lowerStmts index body
    return .block (index.locate start) [test] [body, ← lowerStmts index orelse]
  | .with start _ items body => do
    let exprs ← lowerItems index items
    return .block (index.locate start) exprs [← lowerStmts index body]
  | .match start subject cases => do
    let subject ← lowerExpr index subject
    let (exprs, bodies) ← lowerCases index cases
    return .block (index.locate start) (subject :: exprs) bodies
  | .try start _ body handlers orelse final => do
    let body ← lowerStmts index body
    let (exprs, bodies) ← lowerHandlers index handlers
    let orelse ← lowerStmts index orelse
    return .block (index.locate start) exprs
      (body :: bodies ++ [orelse, ← lowerStmts index final])
  | .return start value => do
    return .block (index.locate start) (← lowerOption index value) []
  | .delete start targets => do
    return .block (index.locate start) (← lowerExprs index targets) []
  | .raise start exception cause => do
    let exception ← lowerOption index exception
    return .block (index.locate start) (exception ++ (← lowerOption index cause)) []
  | .assert start test message => do
    let test ← lowerExpr index test
    return .block (index.locate start) (test :: (← lowerOption index message)) []
  | .expr start value => do
    return .block (index.locate start) [← lowerExpr index value] []
  | .global start names | .nonlocal start names =>
    return .declare (index.locate start) names
  | .pass start | .break start | .continue start => return .block (index.locate start) [] []
  | .typeAlias start _ _ _ => return .unsupported (index.locate start)

def lowerStmts (index : LineIndex) : List Script.Stmt → Lower (List Stmt)
  | [] => return []
  | s :: rest => do
    let s ← lowerStmt index s
    return s :: (← lowerStmts index rest)

/-- The expressions and the bodies of `case` clauses. -/
def lowerCases (index : LineIndex) :
    List (Script.MatchCase Script.Stmt) → Lower (List Expr × List (List Stmt))
  | [] => return ([], [])
  | ⟨pattern, guard, body⟩ :: rest => do
    let found ← lowerPattern index pattern
    let guard ← lowerOption index guard
    let body ← lowerStmts index body
    let (exprs, bodies) ← lowerCases index rest
    return (found ++ guard ++ exprs, body :: bodies)

/-- The types and the bodies of `except` clauses. -/
def lowerHandlers (index : LineIndex) :
    List (Script.Handler Script.Stmt) → Lower (List Expr × List (List Stmt))
  | [] => return ([], [])
  | ⟨cause, _, body⟩ :: rest => do
    let cause ← lowerOption index cause
    let body ← lowerStmts index body
    let (exprs, bodies) ← lowerHandlers index rest
    return (cause ++ exprs, body :: bodies)

end

/-- The tree of a module whose text has the given index. -/
def ofModule (index : LineIndex) (body : List Script.Stmt) : List Stmt :=
  (lowerStmts index body 0).1

end SourceGate.Tree
