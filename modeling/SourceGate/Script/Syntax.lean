/-! # Abstract syntax of Python

The tree that the grammar gives, with every construct kept: operators, conversions, type
parameters, contexts of evaluation. Each node carries the byte offset at which it starts.
-/

namespace SourceGate.Script

inductive UnaryOp where
  | invert | negate | plus | minus
  deriving DecidableEq, Repr, Inhabited

inductive BinaryOp where
  | add | sub | mul | matMul | div | floorDiv | mod | pow
  | shiftLeft | shiftRight | bitOr | bitXor | bitAnd
  deriving DecidableEq, Repr, Inhabited

inductive BooleanOp where
  | both | either
  deriving DecidableEq, Repr, Inhabited

inductive Comparison where
  | equal | notEqual | less | lessEqual | greater | greaterEqual
  | same | notSame | member | notMember
  deriving DecidableEq, Repr, Inhabited

/-- The conversion `!s`, `!r` or `!a` of a replacement field. -/
inductive Conversion where
  | text | repr | ascii
  deriving DecidableEq, Repr, Inhabited

/-- Literal values. Floats, imaginary numbers and bytes are told apart from no other literal of
their kind, so their contents are dropped. -/
inductive Constant where
  | none | true | false | ellipsis
  | text (value : String)
  | integer (value : Nat)
  | float | imaginary | bytes
  deriving DecidableEq, Repr, Inhabited

/-- One `for … in … if …` clause. -/
structure Clause (ε : Type) where
  isAsync : Bool
  target : ε
  iter : ε
  conditions : List ε
  deriving Repr

/-- A parameter with its annotation and default. -/
structure Parameter (ε : Type) where
  start : Nat
  name : String
  annotation : Option ε
  value : Option ε
  deriving Repr

/-- A parameter behind `*` or `**`, which has no default. -/
structure StarParameter (ε : Type) where
  start : Nat
  name : String
  annotation : Option ε
  deriving Repr

/-- A parameter list. `rest` is the `*` parameter and `extra` the `**` one. -/
structure Parameters (ε : Type) where
  positional : List (Parameter ε)
  plain : List (Parameter ε)
  rest : Option (StarParameter ε)
  keywordOnly : List (Parameter ε)
  extra : Option (StarParameter ε)
  deriving Repr

/-- The parameter list `()`. -/
def Parameters.empty {ε : Type} : Parameters ε := ⟨[], [], none, [], none⟩

/-- A keyword argument; `**mapping` has no name. -/
structure KeywordArgument (ε : Type) where
  name : Option String
  value : ε
  deriving Repr

inductive Expr where
  | name (start : Nat) (text : String)
  | attribute (start : Nat) (value : Expr) (attr : String)
  | subscript (start : Nat) (value index : Expr)
  | call (start : Nat) (func : Expr) (args : List Expr) (keywords : List (KeywordArgument Expr))
  | list (start : Nat) (items : List Expr)
  | tuple (start : Nat) (items : List Expr)
  | set (start : Nat) (items : List Expr)
  /-- An entry without key is a splat `**mapping`. -/
  | dict (start : Nat) (entries : List (Option Expr × Expr))
  | constant (start : Nat) (value : Constant)
  | unary (start : Nat) (op : UnaryOp) (operand : Expr)
  | binary (start : Nat) (left : Expr) (op : BinaryOp) (right : Expr)
  | boolean (start : Nat) (op : BooleanOp) (values : List Expr)
  | conditional (start : Nat) (test body orelse : Expr)
  | named (start : Nat) (target value : Expr)
  | listComp (start : Nat) (element : Expr) (clauses : List (Clause Expr))
  | setComp (start : Nat) (element : Expr) (clauses : List (Clause Expr))
  | dictComp (start : Nat) (key value : Expr) (clauses : List (Clause Expr))
  | generator (start : Nat) (element : Expr) (clauses : List (Clause Expr))
  | lambda (start : Nat) (params : Parameters Expr) (body : Expr)
  | compare (start : Nat) (left : Expr) (ops : List Comparison) (rights : List Expr)
  | await (start : Nat) (value : Expr)
  | yield (start : Nat) (value : Option Expr)
  | yieldFrom (start : Nat) (value : Expr)
  | starred (start : Nat) (value : Expr)
  /-- A replacement field of an f-string. -/
  | formatted (start : Nat) (value : Expr) (conversion : Option Conversion) (spec : Option Expr)
  /-- An f-string: its constant parts and replacement fields. -/
  | joined (start : Nat) (values : List Expr)
  | slice (start : Nat) (lower upper step : Option Expr)
  deriving Repr, Inhabited

/-- Where a node starts. -/
def Expr.start : Expr → Nat
  | .name s _ | .attribute s _ _ | .subscript s _ _ | .call s _ _ _ | .list s _ | .tuple s _
  | .set s _ | .dict s _ | .constant s _ | .unary s _ _ | .binary s _ _ _ | .boolean s _ _
  | .conditional s _ _ _ | .named s _ _ | .listComp s _ _ | .setComp s _ _ | .dictComp s _ _ _
  | .generator s _ _ | .lambda s _ _ | .compare s _ _ _ | .await s _ | .yield s _
  | .yieldFrom s _ | .starred s _ | .formatted s _ _ _ | .joined s _ | .slice s _ _ _ => s

/-- Whether an expression has the form `*value`. -/
def Expr.isStarred : Expr → Bool
  | .starred _ _ => true
  | _ => false

inductive Pattern where
  | value (value : Expr)
  | singleton (value : Constant)
  | star (name : Option String)
  | sequence (items : List Pattern)
  | either (items : List Pattern)
  | mapping (keys : List Expr) (items : List Pattern) (rest : Option String)
  | instanceOf (cls : Expr) (items : List Pattern) (attrs : List String) (attrItems : List Pattern)
  /-- `pattern as name`, `name` alone and `_`. -/
  | capture (pattern : Option Pattern) (name : Option String)
  deriving Repr, Inhabited

/-- A type parameter: `T`, `T: bound`, `*Ts`, `**P`. -/
inductive TypeParameter where
  | plain (name : String) (bound : Option Expr)
  | rest (name : String)
  | extra (name : String)
  deriving Repr, Inhabited

/-- A dotted name or plain name with its alias. -/
structure Alias where
  name : String
  asName : Option String
  deriving DecidableEq, Repr, Inhabited

/-- A `with` item. -/
structure ContextItem where
  context : Expr
  target : Option Expr
  deriving Repr, Inhabited

/-- An `except` clause. -/
structure Handler (σ : Type) where
  cause : Option Expr
  name : Option String
  body : List σ
  deriving Repr

/-- A `case` clause. -/
structure MatchCase (σ : Type) where
  pattern : Pattern
  guard : Option Expr
  body : List σ
  deriving Repr

inductive Stmt where
  | importModules (start : Nat) (names : List Alias)
  | importNames (start : Nat) (source : Option String) (names : List Alias) (level : Nat)
  | function (start : Nat) (isAsync : Bool) (name : String) (typeParams : List TypeParameter)
      (params : Parameters Expr) (body : List Stmt) (decorators : List Expr)
      (returns : Option Expr)
  | classDef (start : Nat) (name : String) (typeParams : List TypeParameter) (bases : List Expr)
      (keywords : List (KeywordArgument Expr)) (body : List Stmt) (decorators : List Expr)
  | return (start : Nat) (value : Option Expr)
  | delete (start : Nat) (targets : List Expr)
  | assign (start : Nat) (targets : List Expr) (value : Expr)
  | augAssign (start : Nat) (target : Expr) (op : BinaryOp) (value : Expr)
  | annAssign (start : Nat) (target annotation : Expr) (value : Option Expr)
  | for (start : Nat) (isAsync : Bool) (target iter : Expr) (body orelse : List Stmt)
  | while (start : Nat) (test : Expr) (body orelse : List Stmt)
  | if (start : Nat) (test : Expr) (body orelse : List Stmt)
  | with (start : Nat) (isAsync : Bool) (items : List ContextItem) (body : List Stmt)
  | match (start : Nat) (subject : Expr) (cases : List (MatchCase Stmt))
  | raise (start : Nat) (exception cause : Option Expr)
  /-- `isStar` tells `except*` clauses from `except` ones. -/
  | try (start : Nat) (isStar : Bool) (body : List Stmt) (handlers : List (Handler Stmt))
      (orelse finally_ : List Stmt)
  | assert (start : Nat) (test : Expr) (message : Option Expr)
  | typeAlias (start : Nat) (name : String) (typeParams : List TypeParameter) (value : Expr)
  | global (start : Nat) (names : List String)
  | nonlocal (start : Nat) (names : List String)
  | expr (start : Nat) (value : Expr)
  | pass (start : Nat)
  | break (start : Nat)
  | continue (start : Nat)
  deriving Repr, Inhabited

end SourceGate.Script
