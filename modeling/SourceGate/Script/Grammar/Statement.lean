import SourceGate.Script.Grammar.Pattern

/-! # Statements

The statement grammar. Compound statements read their bodies through a reader for blocks nested one
less deep.
-/

namespace SourceGate.Script.Grammar

/-- `import` and its modules. -/
def aliasOf (name : Reader String) : Reader Alias := do
  let text ← name
  return ⟨text, ← Reader.behindKeyword true "as" Reader.identifier⟩

def dottedName (bound : Nat) : Reader String := do
  let first ← Reader.identifier
  let more ← Reader.manyAfter bound "." Reader.identifier
  return ".".intercalate (first :: more)

def importStmt (g : Rules) (start : Nat) : Reader Stmt := do
  Reader.keyword "import"
  return .importModules start (← Reader.commaSeparated g.bound (aliasOf (dottedName g.bound)))

/-- The dots before the module of a relative import. -/
def importLevel (g : Rules) : Reader Nat := do
  let dots ← Reader.many (do
    if ← Reader.acceptSymbol "." then return some 1
    else if ← Reader.acceptSymbol "..." then return some 3
    else return none) g.bound
  return dots.foldl (· + ·) 0

/-- The names that an import takes from its module. -/
def importedNames (g : Rules) : Reader (List Alias) := do
  let item := aliasOf Reader.identifier
  if ← Reader.acceptSymbol "*" then return [⟨"*", none⟩]
  else if ← Reader.acceptSymbol "(" then
    let opens : TokenKind → Bool
      | .name _ => true
      | _ => false
    let (names, _) ← Reader.commaList g.bound opens item (← item)
    Reader.symbol ")"
    return names
  else Reader.commaSeparated g.bound item

def fromStmt (g : Rules) (start : Nat) : Reader Stmt := do
  Reader.keyword "from"
  let level ← importLevel g
  let source ← if level > 0 && (← Reader.isKeyword "import") then pure none
    else pure (some (← dottedName g.bound))
  Reader.keyword "import"
  return .importNames start source (← importedNames g) level

def raiseStmt (g : Rules) (start : Nat) : Reader Stmt := do
  Reader.keyword "raise"
  match ← bound? g with
  | none => return .raise start none none
  | some value =>
    return .raise start (some value) (← Reader.behindKeyword true "from" g.test)

def assertStmt (g : Rules) (start : Nat) : Reader Stmt := do
  Reader.keyword "assert"
  let condition ← g.test
  return .assert start condition (← Reader.behindSymbol true "," g.test)

def returnStmt (g : Rules) (start : Nat) : Reader Stmt := do
  Reader.keyword "return"
  match ← Reader.peek with
  | some kind =>
    if opensStarTest kind then return .return start (some (← testList g))
    else return .return start none
  | none => return .return start none

def deleteStmt (g : Rules) (start : Nat) : Reader Stmt := do
  Reader.keyword "del"
  let first ← starOperand g
  return .delete start (← Reader.commaList g.bound opensStarOperand (starOperand g) first).1

/-- The type parameters of a definition, in brackets. -/
def typeParameters (g : Rules) : Reader (List TypeParameter) := do
  let item : Reader TypeParameter := do
    if ← Reader.acceptSymbol "*" then return .rest (← Reader.identifier)
    else if ← Reader.acceptSymbol "**" then return .extra (← Reader.identifier)
    else
      let name ← Reader.identifier
      return .plain name (← Reader.behindSymbol true ":" g.test)
  let opens : TokenKind → Bool
    | .name _ | .symbol "*" | .symbol "**" => true
    | _ => false
  if ← Reader.acceptSymbol "[" then
    let (items, _) ← Reader.commaList g.bound opens item (← item)
    Reader.symbol "]"
    return items
  else return []

def typeStmt (g : Rules) (start : Nat) : Reader Stmt := do
  Reader.keyword "type"
  let name ← Reader.identifier
  let params ← typeParameters g
  Reader.symbol "="
  return .typeAlias start name params (← g.test)

/-- The targets and the value of an assignment, in the order written. -/
def assignment (start : Nat) (first : Expr) : List Expr → Stmt
  | [] => .expr start first
  | [value] => .assign start [first] value
  | more => .assign start (first :: more.dropLast) (more.getLastD first)

/-- An expression or an assignment of one of the three forms. -/
def exprStmt (g : Rules) (start : Nat) : Reader Stmt := do
  let first ← starTest g
  let (items, hasComma) ← Reader.commaList g.bound opensStarTest (starTest g) first
  let isSingle := items.length == 1 && !hasComma && !first.isStarred
  let target := tupleOf start (items, hasComma)
  match ← acceptOp augmentedOps with
  | some op => return .augAssign start target op (← testListOrYield g)
  | none =>
    match ← Reader.behindSymbol isSingle ":" g.test with
    | some note =>
      return .annAssign start target note (← Reader.behindSymbol true "=" (testListOrYield g))
    | none =>
      return assignment start target (← Reader.manyAfter g.bound "=" (testListOrYield g))

/-- A statement that holds no other. -/
def simpleStmt (g : Rules) : Reader Stmt := do
  let start ← Reader.here
  let plain (stmt : Stmt) : Reader Stmt := do
    let _ ← Reader.token
    return stmt
  match ← Reader.peek with
  | some (.keyword "pass") => plain (.pass start)
  | some (.keyword "break") => plain (.break start)
  | some (.keyword "continue") => plain (.continue start)
  | some (.keyword "del") => deleteStmt g start
  | some (.keyword "return") => returnStmt g start
  | some (.keyword "raise") => raiseStmt g start
  | some (.keyword "yield") => return .expr start (← yieldExpr g)
  | some (.keyword "import") => importStmt g start
  | some (.keyword "from") => fromStmt g start
  | some (.keyword "global") =>
    Reader.keyword "global"
    return .global start (← Reader.commaSeparated g.bound Reader.identifier)
  | some (.keyword "nonlocal") =>
    Reader.keyword "nonlocal"
    return .nonlocal start (← Reader.commaSeparated g.bound Reader.identifier)
  | some (.keyword "assert") => assertStmt g start
  | some (.keyword "type") => typeStmt g start
  | _ => exprStmt g start

/-- Simple statements with semicolons between them, and the end of their line. -/
def simpleLine (g : Rules) : Reader (List Stmt) := do
  let first ← simpleStmt g
  let more ← Reader.many (do
    if (← Reader.isSymbol ";") && (← Reader.peekSecond) != some .newline then
      Reader.symbol ";"
      return some (← simpleStmt g)
    else return none) g.bound
  let _ ← Reader.acceptSymbol ";"
  Reader.expect .newline
  return first :: more

/-- The indentation that opens a block: nothing else can stand here. -/
def openBlock : Reader Unit := fun stream =>
  match stream with
  | .complete stop => .error ⟨⟨.unmatchedDedent, stop⟩, stream⟩
  | .broken fault => .error ⟨fault, stream⟩
  | .cons token rest =>
    if token.kind == .indent then .ok ((), rest)
    else .error ⟨⟨.missingBlock, token.start⟩, stream⟩

/-- `else:` and its block, if it is written. -/
def elseBlock (block : Reader (List Stmt)) : Reader (List Stmt) := do
  if ← Reader.acceptKeyword "else" then block else return []

def ifStmt (g : Rules) (block : Reader (List Stmt)) (start : Nat) : Reader Stmt := do
  Reader.keyword "if"
  let condition ← namedTest g
  let body ← block
  let branches ← Reader.many (do
    let start ← Reader.here
    if ← Reader.acceptKeyword "elif" then
      let condition ← namedTest g
      return some (start, condition, ← block)
    else return none) g.bound
  let orelse ← elseBlock block
  let orelse := branches.foldr
    (fun (start, condition, body) orelse => [.if start condition body orelse]) orelse
  return .if start condition body orelse

def whileStmt (g : Rules) (block : Reader (List Stmt)) (start : Nat) : Reader Stmt := do
  Reader.keyword "while"
  let condition ← namedTest g
  let body ← block
  return .while start condition body (← elseBlock block)

def forStmt (g : Rules) (block : Reader (List Stmt)) (start : Nat) (isAsync : Bool) :
    Reader Stmt := do
  Reader.keyword "for"
  let target ← targetList g
  Reader.keyword "in"
  let iter ← testList g
  let body ← block
  return .for start isAsync target iter body (← elseBlock block)

/-- A clause `except …:` or `except* …:`. -/
def handler (g : Rules) (block : Reader (List Stmt)) (isStar : Bool) : Reader (Handler Stmt) := do
  Reader.keyword "except"
  if isStar then Reader.symbol "*"
  let cause ← if isStar then pure (some (← g.test)) else bound? g
  let name ← Reader.behindKeyword cause.isSome "as" Reader.identifier
  return ⟨cause, name, ← block⟩

def tryStmt (g : Rules) (block : Reader (List Stmt)) (start : Nat) : Reader Stmt := do
  Reader.keyword "try"
  let body ← block
  if ← Reader.isKeyword "except" then
    let isStar := (← Reader.peekSecond) == some (.symbol "*")
    let handlers ← Reader.many (do
      if ← Reader.isKeyword "except" then return some (← handler g block isStar)
      else return none) g.bound
    let orelse ← elseBlock block
    let final ← if ← Reader.acceptKeyword "finally" then block else pure []
    return .try start isStar body handlers orelse final
  else
    Reader.keyword "finally"
    return .try start false body [] [] (← block)

def contextItem (g : Rules) : Reader ContextItem := do
  let context ← g.test
  return ⟨context, ← Reader.behindKeyword true "as" (operand g)⟩

/-- The items of a `with` statement, all in one pair of parentheses or in none. -/
def contextItems (g : Rules) : Reader (List ContextItem) := do
  let start ← Reader.here
  let open_ := Reader.commaSeparated g.bound (contextItem (rules g.bound (some start) g.depth))
  let enclosed : Reader (List ContextItem) := do
    Reader.symbol "("
    let first ← contextItem g
    let (items, _) ← Reader.commaList g.bound opensTest (contextItem g) first
    Reader.symbol ")"
    unless ← Reader.isSymbol ":" do Reader.unexpected
    return items
  if ← Reader.isSymbol "(" then Reader.orElse enclosed open_ else open_

def withStmt (g : Rules) (block : Reader (List Stmt)) (start : Nat) (isAsync : Bool) :
    Reader Stmt := do
  Reader.keyword "with"
  let items ← contextItems g
  return .with start isAsync items (← block)

def caseClause (g : Rules) (block : Reader (List Stmt)) : Reader (MatchCase Stmt) := do
  Reader.keyword "case"
  let found ← casePatterns g
  let guard ← Reader.behindKeyword true "if" (namedTest g)
  return ⟨found, guard, ← block⟩

/-- A `match` statement. A subject of several expressions is a tuple at the `match`. -/
def matchStmt (g : Rules) (block : Reader (List Stmt)) (start : Nat) : Reader Stmt := do
  Reader.keyword "match"
  let first ← starNamedTest g
  let subject := tupleOf start (← displayItems g first)
  Reader.symbol ":"
  Reader.expect .newline
  openBlock
  let head ← caseClause g block
  let more ← Reader.many (do
    if ← Reader.isKeyword "case" then return some (← caseClause g block) else return none) g.bound
  Reader.expect .dedent
  return .match start subject (head :: more)

def functionStmt (g : Rules) (block : Reader (List Stmt)) (decorators : List Expr) (start : Nat)
    (isAsync : Bool) : Reader Stmt := do
  Reader.keyword "def"
  let name ← Reader.identifier
  let typeParams ← typeParameters g
  Reader.symbol "("
  let params ← parameters true ")" g
  Reader.symbol ")"
  Reader.judge (fun kind => kind == .symbol "->" || kind == .symbol ":") (duplicateParameter params)
  let returns ← Reader.behindSymbol true "->" g.test
  return .function start isAsync name typeParams params (← block) decorators returns

def classStmt (g : Rules) (block : Reader (List Stmt)) (decorators : List Expr) (start : Nat) :
    Reader Stmt := do
  Reader.keyword "class"
  let name ← Reader.identifier
  let typeParams ← typeParameters g
  let args ← if ← Reader.acceptSymbol "(" then arguments g else pure []
  return .classDef start name typeParams (positionalArgs args) (keywordArgs args) (← block)
    decorators

/-- A definition behind its decorators. -/
def definition (g : Rules) (block : Reader (List Stmt)) (decorators : List Expr) :
    Reader Stmt := do
  let start ← Reader.here
  if ← Reader.isKeyword "class" then classStmt g block decorators start
  else functionStmt g block decorators start (← Reader.acceptKeyword "async")

def decorator (g : Rules) : Reader Expr := do
  Reader.symbol "@"
  let value ← namedTest g
  Reader.expect .newline
  return value

/-- A statement behind `async`. -/
def asyncStmt (g : Rules) (block : Reader (List Stmt)) (start : Nat) : Reader Stmt := do
  Reader.keyword "async"
  if ← Reader.isKeyword "for" then forStmt g block start true
  else if ← Reader.isKeyword "with" then withStmt g block start true
  else functionStmt g block [] start true

/-- A compound statement, or a line of simple ones. -/
def statement (g : Rules) (block : Reader (List Stmt)) : Reader (List Stmt) := do
  let start ← Reader.here
  match ← Reader.peek with
  | some (.keyword "if") => return [← ifStmt g block start]
  | some (.keyword "while") => return [← whileStmt g block start]
  | some (.keyword "for") => return [← forStmt g block start false]
  | some (.keyword "try") => return [← tryStmt g block start]
  | some (.keyword "with") => return [← withStmt g block start false]
  | some (.keyword "match") => return [← matchStmt g block start]
  | some (.keyword "def") | some (.keyword "class") => return [← definition g block []]
  | some (.keyword "async") => return [← asyncStmt g block start]
  | some (.symbol "@") =>
    let head ← decorator g
    let more ← Reader.many (do
      if ← Reader.isSymbol "@" then return some (← decorator g) else return none) g.bound
    return [← definition g block (head :: more)]
  | _ => simpleLine g

/-- A colon and a block: indented lines, or a line of simple statements. Blocks nest at most `depth`
deep. -/
def block (g : Rules) : Nat → Reader (List Stmt)
  | 0 => fun stream => .error ⟨⟨.nestingLimit, stream.unexpected.offset⟩, stream⟩
  | depth + 1 => do
    Reader.symbol ":"
    if ← Reader.accept .newline then
      openBlock
      let inner : Reader (List Stmt) := fun stream => block g depth stream
      let first ← statement g inner
      let more ← Reader.many (do
        match ← Reader.peek with
        | some .dedent | none => return none
        | some _ => return some (← statement g inner)) g.bound
      Reader.expect .dedent
      return first ++ more.flatten
    else simpleLine g

/-- The statements of a module; empty lines may stand between them. -/
def program (g : Rules) : Reader (List Stmt) := do
  let found ← Reader.many (do
    match ← Reader.peek with
    | none => return none
    | some .newline =>
      Reader.expect .newline
      return some []
    | some _ => return some (← statement g (block g g.bound))) g.bound
  return found.flatten

end SourceGate.Script.Grammar

namespace SourceGate.Script

/-- The statements of a module's text, or the fault at which its reading stops. -/
def readModule (text : List Char) : Except Fault (List Stmt) :=
  let stream := (Tokens.ofTextAt 0 text).settle true
  let bound := text.length + 2
  match (Grammar.program (Grammar.rules bound none (3 * bound))).run stream with
  | .ok (body, .complete _) => .ok body
  | .ok (_, left) => .error left.unexpected
  | .error failure => .error failure.fault

end SourceGate.Script
