import SourceGate.Script.Grammar.Expression

/-! # Patterns of `case` clauses -/

namespace SourceGate.Script.Grammar

/-- Tokens that open a pattern. -/
def opensPattern : TokenKind → Bool
  | .name _ | .integer _ | .float _ | .imaginary _ | .string _ => true
  | .symbol s => openers.contains s || s == "-" || s == "*"
  | .keyword k => ["None", "True", "False"].contains k
  | _ => false

/-- Tokens that open the key of a mapping pattern. -/
def opensKey : TokenKind → Bool
  | .symbol s => s == "-"
  | kind => opensPattern kind

/-- Tokens that can stand behind a whole pattern. -/
def followsPattern : TokenKind → Bool
  | .symbol s => closers.contains s || s == "," || s == ":"
  | .keyword k => k == "if"
  | _ => false

/-- Tokens that can stand behind an alternative of a pattern. -/
def followsAlternative (kind : TokenKind) : Bool :=
  kind == .symbol "|" || kind == .keyword "as" || followsPattern kind

/-- A number without sign. -/
def number : Reader Expr := do
  let start ← Reader.here
  match ← Reader.peek with
  | some (.integer value) =>
    let _ ← Reader.token
    return .constant start (.integer value)
  | some (.float _) =>
    let _ ← Reader.token
    return .constant start .float
  | some (.imaginary _) =>
    let _ ← Reader.token
    return .constant start .imaginary
  | _ => Reader.unexpected

/-- A number with its sign. -/
def signedNumber : Reader Expr := do
  let start ← Reader.here
  if ← Reader.acceptSymbol "-" then return .unary start .minus (← number) else number

/-- A signed number, alone or with a second one added to it or taken from it. -/
def complexNumber : Reader Expr := do
  let start ← Reader.here
  let left ← signedNumber
  match ← acceptOp [("+", BinaryOp.add), ("-", .sub)] with
  | some op => return .binary start left op (← number)
  | none => return left

/-- The attributes behind a name. -/
def dotted (bound : Nat) (start : Nat) (text : String) : Reader Expr := do
  let attrs ← Reader.manyAfter bound "." Reader.identifier
  return attrs.foldl (fun value attr => .attribute start value attr) (.name start text)

/-- `None`, `True` or `False`. -/
def singleton? : TokenKind → Option Constant
  | .keyword "None" => some .none
  | .keyword "True" => some .true
  | .keyword "False" => some .false
  | _ => none

/-- The key of a mapping pattern. A name among keys has attributes. -/
def mappingKey (g : Rules) : Reader Expr := do
  let start ← Reader.here
  match ← Reader.peek with
  | some (.string _) => strings g (· == .symbol ":")
  | some (.name text) =>
    let _ ← Reader.token
    unless ← Reader.isSymbol "." do Reader.unexpected
    dotted g.bound start text
  | some kind =>
    match singleton? kind with
    | some value =>
      let _ ← Reader.token
      return .constant start value
    | none => complexNumber
  | none => Reader.unexpected

/-- An entry of a mapping pattern. -/
def mappingEntry (g : Rules) (inner : Reader Pattern) : Reader (Expr × Pattern) := do
  let key ← mappingKey g
  Reader.symbol ":"
  return (key, ← inner)

/-- The `**name` of a mapping pattern and what may stand behind it. -/
def mappingRest : Reader String := do
  Reader.symbol "**"
  let name ← Reader.identifier
  let _ ← Reader.acceptSymbol ","
  return name

/-- A mapping pattern from after its brace. -/
def mappingPattern (g : Rules) (inner : Reader Pattern) : Reader Pattern := do
  if ← Reader.acceptSymbol "\x7d" then return .mapping [] [] none
  let (entries, rest) ←
    if ← Reader.isSymbol "**" then do pure ([], some (← mappingRest))
    else do
      let first ← mappingEntry g inner
      let (entries, hasComma) ← Reader.commaList g.bound opensKey (mappingEntry g inner) first
      if hasComma && (← Reader.isSymbol "**") then pure (entries, some (← mappingRest))
      else pure (entries, none)
  Reader.symbol "\x7d"
  return .mapping (entries.map (·.1)) (entries.map (·.2)) rest

/-- The arguments of a class pattern: once one has a keyword, all have. -/
def classArguments (inner : Reader Pattern) (hasKeyword : Bool) :
    Nat → Reader (List (Option String × Pattern))
  | 0 => return []
  | bound + 1 => do
    if ← Reader.isSymbol ")" then return []
    let isKeyword ← match ← Reader.peek, ← Reader.peekSecond with
      | some (.name _), some (.symbol "=") => pure true
      | _, _ => pure hasKeyword
    let found ←
      if isKeyword then do
        let name ← Reader.identifier
        Reader.symbol "="
        pure (some name, ← inner)
      else do pure (none, ← inner)
    if ← Reader.acceptSymbol "," then
      return found :: (← classArguments inner isKeyword bound)
    else return [found]

/-- A class pattern from after its parenthesis. -/
def classPattern (g : Rules) (inner : Reader Pattern) (cls : Expr) : Reader Pattern := do
  let found ← classArguments inner false g.bound
  Reader.symbol ")"
  let named := found.filterMap fun (name, item) => name.map fun n => (n, item)
  let plain := found.filterMap fun (name, item) => if name.isNone then some item else none
  return .instanceOf cls plain (named.map (·.1)) (named.map (·.2))

/-- A name as a target; `_` binds nothing. -/
def captured (text : String) : Option String := if text == "_" then none else some text

/-- A sequence of patterns, or the single one without comma. -/
def sequenceOf : List Pattern × Bool → Pattern
  | ([item], false) => item
  | (items, _) => .sequence items

def patternList (bound : Nat) (inner : Reader Pattern) : Reader (List Pattern × Bool) := do
  let first ← inner
  Reader.commaList bound opensPattern inner first

/-- A pattern without alternatives and alias. -/
def closedPattern (g : Rules) (inner : Reader Pattern) : Reader Pattern := do
  let start ← Reader.here
  match ← Reader.peek with
  | some (.string _) => return .value (← strings g followsAlternative)
  | some (.name text) =>
    let _ ← Reader.token
    if (← Reader.isSymbol ".") || (← Reader.isSymbol "(") then
      let value ← dotted g.bound start text
      if ← Reader.acceptSymbol "(" then classPattern g inner value else return .value value
    else return .capture none (captured text)
  | some (.symbol "*") =>
    Reader.symbol "*"
    return .star (captured (← Reader.identifier))
  | some (.symbol "(") =>
    Reader.symbol "("
    if ← Reader.acceptSymbol ")" then return .sequence []
    let items ← patternList g.bound inner
    Reader.symbol ")"
    return sequenceOf items
  | some (.symbol "[") =>
    Reader.symbol "["
    if ← Reader.acceptSymbol "]" then return .sequence []
    let (items, _) ← patternList g.bound inner
    Reader.symbol "]"
    return .sequence items
  | some (.symbol "\x7b") =>
    Reader.symbol "\x7b"
    mappingPattern g inner
  | some kind =>
    match singleton? kind with
    | some value =>
      let _ ← Reader.token
      return .singleton value
    | none => return .value (← complexNumber)
  | none => Reader.unexpected

/-- A pattern with its alternatives and its alias, which is not `_`. -/
def aliasPattern (g : Rules) (inner : Reader Pattern) : Reader Pattern := do
  let start ← Reader.here
  let first ← closedPattern g inner
  let more ← Reader.manyAfter g.bound "|" (closedPattern g inner)
  let found := if more.isEmpty then first else .either (first :: more)
  if ← Reader.acceptKeyword "as" then
    let name ← Reader.identifier
    Reader.judge followsPattern (if name == "_" then some ⟨.underscoreTarget, start⟩ else none)
    return .capture (some found) (some name)
  else return found

/-- Patterns nested at most `depth` deep. -/
def pattern (g : Rules) : Nat → Reader Pattern
  | 0 => fun stream => .error ⟨⟨.nestingLimit, stream.unexpected.offset⟩, stream⟩
  | depth + 1 => aliasPattern g fun stream => pattern g depth stream

/-- The patterns of a `case` clause. -/
def casePatterns (g : Rules) : Reader Pattern := do
  return sequenceOf (← patternList g.bound (pattern g g.bound))

end SourceGate.Script.Grammar
