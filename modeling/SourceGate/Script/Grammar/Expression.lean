import SourceGate.Script.Grammar.Reader
import SourceGate.Script.Literal
import SourceGate.Script.Token.Scan
import SourceGate.Script.Token.SoftKeyword

/-! # Expressions

The expression grammar, one reader for each of its levels. A reader that meets its own level again
behind a bracket or an operator goes through `Rules`, the same grammar for texts nested one less
deep; `rules` ties the knot for every depth.
-/

namespace SourceGate.Script.Grammar

/-- The readers to which nested constructs go, and a bound on the length of lists. -/
structure Rules where
  bound : Nat
  /-- How many readers can go through the grammar in turn. -/
  depth : Nat
  /-- Where the items of a `with` statement start, while they are read. -/
  itemStart : Option Nat
  /-- A conditional, a lambda or an operand of `or`. -/
  test : Reader Expr
  /-- An operand of `and`. -/
  inversion : Reader Expr
  /-- An operand of the arithmetic operators, signs included. -/
  factor : Reader Expr

/-- Tokens that open an operand of a comparison. -/
def opensOperand : TokenKind → Bool
  | .name _ | .integer _ | .float _ | .imaginary _ | .string _ => true
  | .symbol s => openers.contains s || ["-", "+", "~", "..."].contains s
  | .keyword k => ["None", "True", "False", "await"].contains k
  | _ => false

/-- Tokens that open a test. -/
def opensTest : TokenKind → Bool
  | .keyword "not" | .keyword "lambda" => true
  | kind => opensOperand kind

/-- Tokens that open an operand or a starred one. -/
def opensStarOperand (kind : TokenKind) : Bool := kind == .symbol "*" || opensOperand kind

/-- Tokens that open a test or a starred operand. -/
def opensStarTest (kind : TokenKind) : Bool := kind == .symbol "*" || opensTest kind

/-- Tokens that can stand behind an atom in some text. -/
def followsAtom : TokenKind → Bool
  | .symbol s => !(["\x7b", "~", "...", "->", ":="].contains s)
  | .keyword k =>
    ["and", "as", "async", "else", "for", "from", "if", "in", "is", "not", "or"].contains k
  | .newline => true
  | _ => false

def augmentedOps : List (String × BinaryOp) :=
  [("+=", .add), ("-=", .sub), ("*=", .mul), ("@=", .matMul), ("/=", .div), ("%=", .mod),
    ("&=", .bitAnd), ("|=", .bitOr), ("^=", .bitXor), ("<<=", .shiftLeft), (">>=", .shiftRight),
    ("**=", .pow), ("//=", .floorDiv)]

/-- The left-associative operators, looser ones first. -/
def binaryOps : List (List (String × BinaryOp)) :=
  [[("|", .bitOr)], [("^", .bitXor)], [("&", .bitAnd)],
    [("<<", .shiftLeft), (">>", .shiftRight)], [("+", .add), ("-", .sub)],
    [("*", .mul), ("/", .div), ("//", .floorDiv), ("%", .mod), ("@", .matMul)]]

/-- Tokens that can stand behind a test in some text. -/
def followsTest : TokenKind → Bool
  | .symbol s => closers.contains s || [",", ":", "=", ";"].contains s ||
      (augmentedOps.lookup s).isSome
  | .keyword k => ["as", "async", "for", "from"].contains k
  | .newline => true
  | _ => false

/-- Tokens that can stand behind an atom which opens the items of a `with` statement. -/
def followsOpeningAtom : TokenKind → Bool
  | .symbol s =>
    ["(", "[", ".", ",", ":", "**", "==", "!=", "<", "<=", ">", ">="].contains s ||
      binaryOps.any fun ops => (ops.lookup s).isSome
  | .keyword k => ["and", "as", "if", "in", "is", "not", "or"].contains k
  | _ => false

/-- Tokens that can stand behind the atom at `start`. -/
def Rules.followsAtomAt (g : Rules) (start : Nat) : TokenKind → Bool :=
  if g.itemStart == some start then followsOpeningAtom else followsAtom

/-- Takes the next token if it is one of some operators. -/
def acceptOp {α : Type} (ops : List (String × α)) : Reader (Option α) := do
  match ← Reader.peek with
  | some (.symbol s) =>
    match ops.lookup s with
    | some op =>
      let _ ← Reader.token
      return some op
    | none => return none
  | _ => return none

/-- Operands of one level and the operators between them, grouped to the left. -/
def leftGrouped (bound : Nat) (ops : List (String × BinaryOp)) (operand : Reader Expr) :
    Reader Expr := do
  let start ← Reader.here
  let first ← operand
  let more ← Reader.many (do
    match ← acceptOp ops with
    | some op => return some (op, ← operand)
    | none => return none) bound
  return more.foldl (fun left (op, right) => .binary start left op right) first

/-- Tighter and tighter levels of operators. -/
def binary (g : Rules) : List (List (String × BinaryOp)) → Reader Expr
  | [] => g.factor
  | ops :: tighter => leftGrouped g.bound ops (binary g tighter)

/-- An operand of a comparison. -/
def operand (g : Rules) : Reader Expr := binary g binaryOps

/-- `*operand`. -/
def starred (g : Rules) : Reader Expr := do
  let start ← Reader.here
  Reader.symbol "*"
  return .starred start (← operand g)

def starOperand (g : Rules) : Reader Expr := do
  if ← Reader.isSymbol "*" then starred g else operand g

def starTest (g : Rules) : Reader Expr := do
  if ← Reader.isSymbol "*" then starred g else g.test

/-- A single item as itself, and several, or one with a comma behind it, as a tuple. -/
def tupleOf (start : Nat) : List Expr × Bool → Expr
  | ([item], false) => item
  | (items, _) => .tuple start items

/-- Tests and starred operands with commas between them. -/
def testList (g : Rules) : Reader Expr := do
  let start ← Reader.here
  let first ← starTest g
  return tupleOf start (← Reader.commaList g.bound opensStarTest (starTest g) first)

/-- Operands, starred or not, with commas between them: the targets of a loop. -/
def targetList (g : Rules) : Reader Expr := do
  let start ← Reader.here
  let first ← starOperand g
  return tupleOf start (← Reader.commaList g.bound opensStarOperand (starOperand g) first)

/-- A test, or a name with `:=` and a test. -/
def namedTest (g : Rules) : Reader Expr := do
  let start ← Reader.here
  match ← Reader.peek, ← Reader.peekSecond with
  | some (.name text), some (.symbol ":=") =>
    let _ ← Reader.token
    Reader.symbol ":="
    return .named start (.name start text) (← g.test)
  | _, _ => g.test

def starNamedTest (g : Rules) : Reader Expr := do
  if ← Reader.isSymbol "*" then starred g else namedTest g

/-- Whether an expression just read is a test and nothing more. -/
def isPlain : Expr → Bool
  | .starred _ _ | .named _ _ _ => false
  | _ => true

/-- Whether a `for` clause follows. -/
def atClause : Reader Bool := do
  return (← Reader.isKeyword "for") || (← Reader.isKeyword "async")

/-- An operand of `or`. -/
def conjunction (g : Rules) : Reader Expr := do
  let start ← Reader.here
  let first ← g.inversion
  match ← Reader.many (do
      if ← Reader.acceptKeyword "and" then return some (← g.inversion) else return none)
      g.bound with
  | [] => return first
  | more => return .boolean start .both (first :: more)

/-- A test without conditional or lambda. -/
def disjunction (g : Rules) : Reader Expr := do
  let start ← Reader.here
  let first ← conjunction g
  match ← Reader.many (do
      if ← Reader.acceptKeyword "or" then return some (← conjunction g) else return none)
      g.bound with
  | [] => return first
  | more => return .boolean start .either (first :: more)

/-- One `for` clause. -/
def clause (g : Rules) : Reader (Clause Expr) := do
  let isAsync ← Reader.acceptKeyword "async"
  Reader.keyword "for"
  let target ← targetList g
  Reader.keyword "in"
  let iter ← disjunction g
  let conditions ← Reader.many (do
    if ← Reader.acceptKeyword "if" then return some (← disjunction g) else return none) g.bound
  return ⟨isAsync, target, iter, conditions⟩

/-- One or more `for` clauses. -/
def clauses (g : Rules) : Reader (List (Clause Expr)) := do
  return (← clause g) ::
    (← Reader.many (do if ← atClause then return some (← clause g) else return none) g.bound)

/-- `yield` and what it gives. -/
def yieldExpr (g : Rules) : Reader Expr := do
  let start ← Reader.here
  Reader.keyword "yield"
  if ← Reader.acceptKeyword "from" then return .yieldFrom start (← g.test)
  match ← Reader.peek with
  | some kind =>
    if opensStarTest kind then return .yield start (some (← testList g))
    else return .yield start none
  | none => return .yield start none

def testListOrYield (g : Rules) : Reader Expr := do
  if ← Reader.isKeyword "yield" then yieldExpr g else testList g

/-- An annotation, if one is written. -/
def annotation (isTyped allowsStar : Bool) (g : Rules) : Reader (Option Expr) :=
  Reader.behindSymbol isTyped ":" (if allowsStar then starTest g else g.test)

/-- A parameter with its annotation and default. -/
def parameter (isTyped : Bool) (g : Rules) : Reader (Parameter Expr) := do
  let start ← Reader.here
  let name ← Reader.identifier
  let note ← annotation isTyped false g
  return ⟨start, name, note, ← Reader.behindSymbol true "=" g.test⟩

/-- The name behind a star, if there is one. -/
def starParameter (isTyped allowsStar : Bool) (g : Rules) :
    Reader (Option (StarParameter Expr)) := do
  let start ← Reader.here
  match ← Reader.peek with
  | some (.name _) =>
    let name ← Reader.identifier
    return some ⟨start, name, ← annotation isTyped allowsStar g⟩
  | _ => return none

/-- A comma with a name behind it, and the parameter of that name. -/
def nextParameter (isTyped : Bool) (g : Rules) : Reader (Option (Parameter Expr)) := do
  match ← Reader.isSymbol ",", ← Reader.peekSecond with
  | true, some (.name _) =>
    Reader.symbol ","
    return some (← parameter isTyped g)
  | _, _ => return none

/-- Takes a comma and the given symbol together, or nothing. Gives the place of the symbol. -/
def acceptAfterComma (text : String) : Reader (Option Nat) := do
  if (← Reader.isSymbol ",") && (← Reader.peekSecond) == some (.symbol text) then
    let _ ← Reader.token
    return some (← Reader.token).start
  else return none

/-- The first parameter without default behind one with a default. -/
def misplacedDefault (params : List (Parameter Expr)) : Option Fault :=
  let rest := (params.dropWhile (·.value.isNone)).dropWhile (·.value.isSome)
  rest.head?.map fun p => ⟨.defaultBeforePlain, p.start⟩

/-- The parameters from a star on: the fault of a bare star is charged to the star. -/
structure StarParameters where
  rest : Option (StarParameter Expr)
  keywordOnly : List (Parameter Expr)
  extra : Option (StarParameter Expr)
  fault : Option Fault

/-- What stands behind `*`, which is read and starts at `start`. -/
def starParameters (isTyped : Bool) (g : Rules) (start : Nat) : Reader StarParameters := do
  let rest ← starParameter isTyped true g
  let keywordOnly ← Reader.many (nextParameter isTyped g) g.bound
  let hasExtra := (← acceptAfterComma "**").isSome
  let extra ← if hasExtra then starParameter isTyped false g else pure none
  let isBare := rest.isNone && keywordOnly.isEmpty && !hasExtra
  return ⟨rest, keywordOnly, extra, if isBare then some ⟨.bareStar, start⟩ else none⟩

/-- What stands behind `**`, which is read. -/
def extraParameter (isTyped : Bool) (g : Rules) : Reader StarParameters := do
  return ⟨none, [], ← starParameter isTyped false g, none⟩

def StarParameters.none : StarParameters := ⟨.none, [], .none, .none⟩

/-- The starred parameters behind plain ones. -/
def laterStars (isTyped : Bool) (g : Rules) : Reader StarParameters := do
  match ← acceptAfterComma "*" with
  | some start => starParameters isTyped g start
  | none =>
    match ← acceptAfterComma "**" with
    | some _ => extraParameter isTyped g
    | none => return .none

/-- A parameter list, up to a closing token that does not belong to it. A fault of the list as a
whole is seen when its end is. -/
def parameters (isTyped : Bool) (close : String) (g : Rules) : Reader (Parameters Expr) := do
  let start ← Reader.here
  match ← Reader.peek with
  | some (.name _) =>
    let first ← parameter isTyped g
    let before := first :: (← Reader.many (nextParameter isTyped g) g.bound)
    let hasSlash := (← acceptAfterComma "/").isSome
    let after ← if hasSlash then Reader.many (nextParameter isTyped g) g.bound else pure []
    let stars ← laterStars isTyped g
    let _ ← Reader.acceptSymbol ","
    Reader.judge (· == .symbol close) (stars.fault <|> misplacedDefault (before ++ after))
    return if hasSlash then ⟨before, after, stars.rest, stars.keywordOnly, stars.extra⟩
      else ⟨[], before, stars.rest, stars.keywordOnly, stars.extra⟩
  | some (.symbol "*") =>
    Reader.symbol "*"
    let stars ← starParameters isTyped g start
    let _ ← Reader.acceptSymbol ","
    Reader.judge (· == .symbol close) stars.fault
    return ⟨[], [], stars.rest, stars.keywordOnly, stars.extra⟩
  | some (.symbol "**") =>
    Reader.symbol "**"
    let stars ← extraParameter isTyped g
    let _ ← Reader.acceptSymbol ","
    return ⟨[], [], none, [], stars.extra⟩
  | _ => return .empty

/-- The names of parameters and where they start, in the order in which they are compared. -/
def namedInOrder (params : Parameters Expr) : List (String × Nat) :=
  (params.positional ++ params.plain ++ params.keywordOnly).map (fun p => (p.name, p.start)) ++
    (params.rest.toList ++ params.extra.toList).map fun p => (p.name, p.start)

/-- The first parameter whose name an earlier one has. -/
def duplicateIn (seen : List String) : List (String × Nat) → Option Fault
  | [] => none
  | (name, start) :: rest =>
    if seen.contains name then some ⟨.duplicateParameter name, start⟩
    else duplicateIn (name :: seen) rest

def duplicateParameter (params : Parameters Expr) : Option Fault :=
  duplicateIn [] (namedInOrder params)

/-- `lambda`, its parameters and its body. -/
def lambda (g : Rules) : Reader Expr := do
  let start ← Reader.here
  Reader.keyword "lambda"
  let params ← parameters false ":" g
  Reader.symbol ":"
  let body ← g.test
  Reader.judge followsTest (duplicateParameter params)
  return .lambda start params body

/-- A test. -/
def test (g : Rules) : Reader Expr := do
  if ← Reader.isKeyword "lambda" then lambda g
  else
    let start ← Reader.here
    let body ← disjunction g
    if ← Reader.acceptKeyword "if" then
      let condition ← disjunction g
      Reader.keyword "else"
      return .conditional start condition body (← g.test)
    else return body

/-- An argument of a call. A keyword argument has the place of its name, and a name unless it is a
splat. -/
inductive Argument where
  | positional (value : Expr)
  | keyword (start : Nat) (name : Option String) (value : Expr)

def argument (g : Rules) : Reader Argument := do
  let start ← Reader.here
  match ← Reader.peek, ← Reader.peekSecond with
  | some (.symbol "*"), _ =>
    Reader.symbol "*"
    return .positional (.starred start (← g.test))
  | some (.symbol "**"), _ =>
    Reader.symbol "**"
    return .keyword start none (← g.test)
  | some (.name text), some (.symbol "=") =>
    let _ ← Reader.token
    Reader.symbol "="
    return .keyword start (some text) (← g.test)
  | _, _ =>
    let element ← namedTest g
    if ← atClause then return .positional (.generator start element (← clauses g))
    else return .positional element

/-- The fault of an argument list, read from the left: `names` are the keywords so far, `hasKeyword`
and `hasSplat` tell whether a keyword argument and a splat were read. -/
def argumentFault (names : List String) (hasKeyword hasSplat : Bool) :
    List Argument → Option Fault
  | [] => none
  | .keyword start (some name) _ :: rest =>
    if names.contains name then some ⟨.repeatedKeyword name, start⟩
    else argumentFault (name :: names) true hasSplat rest
  | .keyword _ none _ :: rest => argumentFault names true true rest
  | .positional value :: rest =>
    if hasKeyword && !value.isStarred then some ⟨.positionalAfterKeyword, value.start⟩
    else if hasSplat then some ⟨.starAfterDoubleStar, value.start⟩
    else argumentFault names hasKeyword hasSplat rest

def positionalArgs (args : List Argument) : List Expr :=
  args.filterMap fun
    | .positional value => some value
    | .keyword _ _ _ => none

def keywordArgs (args : List Argument) : List (KeywordArgument Expr) :=
  args.filterMap fun
    | .positional _ => none
    | .keyword _ name value => some ⟨name, value⟩

/-- The arguments of a call and the parenthesis that closes them. -/
def arguments (g : Rules) : Reader (List Argument) := do
  if ← Reader.acceptSymbol ")" then return []
  let first ← argument g
  let opens (kind : TokenKind) := kind == .symbol "*" || kind == .symbol "**" || opensTest kind
  let (args, _) ← Reader.commaList g.bound opens (argument g) first
  Reader.judge (· == .symbol ")") (argumentFault [] false false args)
  Reader.symbol ")"
  return args

/-- The part of a slice that may be missing. -/
def bound? (g : Rules) : Reader (Option Expr) := do
  match ← Reader.peek with
  | some kind => if opensTest kind then return some (← g.test) else return none
  | none => return none

/-- A slice from its first colon on. -/
def sliceFrom (g : Rules) (start : Nat) (lower : Option Expr) : Reader Expr := do
  Reader.symbol ":"
  let upper ← bound? g
  let step ← if ← Reader.acceptSymbol ":" then bound? g else pure none
  return .slice start lower upper step

def subscriptItem (g : Rules) : Reader Expr := do
  let start ← Reader.here
  if ← Reader.isSymbol ":" then sliceFrom g start none
  else
    let item ← starNamedTest g
    if isPlain item && (← Reader.isSymbol ":") then sliceFrom g start (some item)
    else return item

/-- What stands in the brackets of a subscript. -/
def subscripts (g : Rules) : Reader Expr := do
  let start ← Reader.here
  let first ← subscriptItem g
  let opens (kind : TokenKind) := kind == .symbol ":" || opensStarTest kind
  return tupleOf start (← Reader.commaList g.bound opens (subscriptItem g) first)

/-- A call, a subscript or an attribute behind an expression. -/
def trailer (g : Rules) (start : Nat) : Reader (Option (Expr → Expr)) := do
  if ← Reader.acceptSymbol "(" then
    let args ← arguments g
    return some fun func => .call start func (positionalArgs args) (keywordArgs args)
  else if ← Reader.acceptSymbol "[" then
    let index ← subscripts g
    Reader.symbol "]"
    return some fun value => .subscript start value index
  else if ← Reader.acceptSymbol "." then
    let attr ← Reader.identifier
    return some fun value => .attribute start value attr
  else return none

/-- The items of a display behind the first, up to its bracket. -/
def displayItems (g : Rules) (first : Expr) : Reader (List Expr × Bool) :=
  Reader.commaList g.bound opensStarTest (starNamedTest g) first

/-- A list from after its bracket. -/
def listDisplay (g : Rules) (start : Nat) : Reader Expr := do
  if ← Reader.acceptSymbol "]" then return .list start []
  let first ← starNamedTest g
  let found ← if ← atClause then pure (Expr.listComp start first (← clauses g))
    else pure (.list start (← displayItems g first).1)
  Reader.symbol "]"
  return found

/-- An entry of a dictionary. -/
def dictEntry (g : Rules) : Reader (Option Expr × Expr) := do
  if ← Reader.acceptSymbol "**" then return (none, ← operand g)
  let key ← g.test
  Reader.symbol ":"
  return (some key, ← g.test)

def opensEntry (kind : TokenKind) : Bool := kind == .symbol "**" || opensTest kind

/-- A dictionary behind its first entry. -/
def dictFrom (g : Rules) (start : Nat) (first : Option Expr × Expr) : Reader Expr := do
  return .dict start (← Reader.commaList g.bound opensEntry (dictEntry g) first).1

/-- A set or dictionary from after its brace. -/
def braceDisplay (g : Rules) (start : Nat) : Reader Expr := do
  if ← Reader.acceptSymbol "\x7d" then return .dict start []
  let found ←
    if ← Reader.isSymbol "**" then do dictFrom g start (← dictEntry g)
    else do
      let first ← starNamedTest g
      match ← Reader.behindSymbol (isPlain first) ":" g.test with
      | some value =>
        if ← atClause then pure (Expr.dictComp start first value (← clauses g))
        else dictFrom g start (some first, value)
      | none =>
        if !first.isStarred && (← atClause) then
          pure (Expr.setComp start first (← clauses g))
        else pure (.set start (← displayItems g first).1)
  Reader.symbol "\x7d"
  return found

/-- What stands in parentheses, from after the opening one. -/
def parenthesized (g : Rules) (start : Nat) : Reader Expr := do
  if ← Reader.acceptSymbol ")" then return .tuple start []
  else if ← Reader.isKeyword "yield" then
    let value ← yieldExpr g
    Reader.symbol ")"
    return value
  else if ← Reader.isSymbol "**" then
    let place ← Reader.here
    Reader.symbol "**"
    let _ ← operand g
    Reader.symbol ")"
    Reader.judge (g.followsAtomAt start) (some ⟨.doubleStarInParentheses, place⟩)
    return .tuple start []
  else
    let first ← starNamedTest g
    if !first.isStarred && (← atClause) then
      let found ← clauses g
      Reader.symbol ")"
      return .generator start first found
    else
      let items ← displayItems g first
      Reader.symbol ")"
      let lone := match items with
        | ([item], false) => item.isStarred
        | _ => false
      Reader.judge (g.followsAtomAt start)
        (if lone then some ⟨.starredInParentheses, first.start⟩ else none)
      return tupleOf start items

/-- A reader of the expressions in f-strings: one text with its own tokens. -/
def embedded (g : Rules) : Literal.ExprReader := fun text offset =>
  let stream := (Tokens.ofTextAt offset text).settle false
  let whole : Reader Expr := do
    let value ← testList g
    let _ ← Reader.many (do
      if ← Reader.accept .newline then return some () else return none) g.bound
    return value
  match whole.run stream with
  | .ok (value, .complete _) => .ok value
  | .ok (_, left) => .error left.unexpected
  | .error failure => .error failure.fault

/-- The string literals that stand side by side here. -/
def segments (g : Rules) : Reader (List Literal.Segment) :=
  Reader.many (do
    match ← Reader.peek with
    | some (.string literal) =>
      let token ← Reader.token
      return some ⟨token.start, literal⟩
    | _ => return none) g.bound

/-- String literals side by side. A fault in them is met when the token behind them is seen. -/
def strings (g : Rules) (follows : TokenKind → Bool) : Reader Expr := do
  let start ← Reader.here
  match Literal.expression (embedded g) start (← segments g) with
  | .ok value => return value
  | .error fault =>
    Reader.judge follows (some fault)
    return .joined start []

/-- A name, a literal or a bracketed expression. -/
def atom (g : Rules) : Reader Expr := do
  let start ← Reader.here
  let constant (value : Constant) : Reader Expr := do
    let _ ← Reader.token
    return .constant start value
  match ← Reader.peek with
  | some (.string _) => strings g (g.followsAtomAt start)
  | some (.name text) =>
    let _ ← Reader.token
    return .name start text
  | some (.integer value) => constant (.integer value)
  | some (.float _) => constant .float
  | some (.imaginary _) => constant .imaginary
  | some (.keyword "None") => constant .none
  | some (.keyword "True") => constant .true
  | some (.keyword "False") => constant .false
  | some (.symbol "...") => constant .ellipsis
  | some (.symbol "(") =>
    Reader.symbol "("
    parenthesized g start
  | some (.symbol "[") =>
    Reader.symbol "["
    listDisplay g start
  | some (.symbol "\x7b") =>
    Reader.symbol "\x7b"
    braceDisplay g start
  | _ => Reader.unexpected

/-- An atom with its trailers, behind `await` or not. -/
def primary (g : Rules) : Reader Expr := do
  let start ← Reader.here
  let isAwait ← Reader.acceptKeyword "await"
  let inner ← Reader.here
  let first ← atom g
  let trailers ← Reader.many (trailer g inner) g.bound
  let value := trailers.foldl (fun value wrap => wrap value) first
  return if isAwait then .await start value else value

/-- A power. -/
def power (g : Rules) : Reader Expr := do
  let start ← Reader.here
  let base ← primary g
  if ← Reader.acceptSymbol "**" then return .binary start base .pow (← g.factor)
  else return base

/-- A power or a signed factor. -/
def factor (g : Rules) : Reader Expr := do
  let start ← Reader.here
  match ← acceptOp [("-", UnaryOp.minus), ("+", .plus), ("~", .invert)] with
  | some op => return .unary start op (← g.factor)
  | none => power g

/-- The comparison operator that stands here. `not in` and `is not` are two tokens each. -/
def comparisonOp : Reader (Option Comparison) := do
  match ← acceptOp [("==", Comparison.equal), ("!=", .notEqual), ("<", .less),
      ("<=", .lessEqual), (">", .greater), (">=", .greaterEqual)] with
  | some op => return some op
  | none =>
    if ← Reader.acceptKeyword "in" then return some .member
    else if ← Reader.acceptKeyword "not" then
      Reader.keyword "in"
      return some .notMember
    else if ← Reader.acceptKeyword "is" then
      return some (if ← Reader.acceptKeyword "not" then .notSame else .same)
    else return none

/-- A chain of comparisons. -/
def comparison (g : Rules) : Reader Expr := do
  let start ← Reader.here
  let left ← operand g
  match ← Reader.many (do
      match ← comparisonOp with
      | some op => return some (op, ← operand g)
      | none => return none) g.bound with
  | [] => return left
  | more => return .compare start left (more.map (·.1)) (more.map (·.2))

/-- A comparison, behind `not` or not. -/
def inversion (g : Rules) : Reader Expr := do
  let start ← Reader.here
  if ← Reader.acceptKeyword "not" then return .unary start .negate (← g.inversion)
  else comparison g

/-- The grammar for texts in which at most `depth` readers go through it in turn. A construct inside
another goes through three of them at most. `itemStart` tells where the items of a `with` statement
start, while they are read. -/
def rules (bound : Nat) (itemStart : Option Nat) : Nat → Rules
  | 0 =>
    let tooDeep : Reader Expr := fun stream =>
      .error ⟨⟨.nestingLimit, stream.unexpected.offset⟩, stream⟩
    ⟨bound, 0, itemStart, tooDeep, tooDeep, tooDeep⟩
  | depth + 1 =>
    { bound := bound
      depth := depth + 1
      itemStart := itemStart
      test := fun stream => test (rules bound itemStart depth) stream
      inversion := fun stream => inversion (rules bound itemStart depth) stream
      factor := fun stream => factor (rules bound itemStart depth) stream }

end SourceGate.Script.Grammar
