import SourceGate.Script.Syntax
import SourceGate.Script.Token
import SourceGate.Text.Blank
import SourceGate.Text.Hex
import SourceGate.Unicode.Name

/-! # What string literals mean

Escapes, the replacement fields of f-strings, and the joining of literals that stand side by side.
The expression of a field is read by a reader that the caller hands in. Offsets run over the body of
a literal as it is read, one step for each byte of a character.
-/

namespace SourceGate.Script.Literal

/-- Reads an expression from a text that starts at an offset. -/
abbrev ExprReader := List Char → Nat → Except Fault Expr

/-- What is left of a literal, and the offset there. -/
structure Body where
  rest : List Char
  offset : Nat
  deriving Repr, Inhabited

/-- What is left after the character `c`. -/
def Body.after (body : Body) (c : Char) (rest : List Char) : Body :=
  ⟨rest, body.offset + c.utf8Size⟩

/-- The character of a code point: a surrogate gives the replacement character. -/
def charOfCode? (code : Nat) : Option Char :=
  if 0xD800 ≤ code ∧ code ≤ 0xDFFF then some '\ufffd'
  else if code < 0x110000 then some (Char.ofNat code)
  else none

/-- The number written by exactly `count` hexadecimal digits. -/
def hexDigits? (value : Nat) : Nat → List Char → Option (Nat × List Char)
  | 0, rest => some (value, rest)
  | count + 1, c :: rest =>
    match Text.hexValue? c with
    | some d => hexDigits? (value * 16 + d) count rest
    | none => none
  | _ + 1, [] => none

/-- An escape of `count` hexadecimal digits. -/
def hexEscape (count : Nat) (body : Body) : Except Fault (List Char × Body) :=
  match hexDigits? 0 count body.rest with
  | some (code, rest) =>
    match charOfCode? code with
    | some c => .ok ([c], ⟨rest, body.offset + count⟩)
    | none => .error ⟨.badEscape, body.offset⟩
  | none => .error ⟨.badEscape, body.offset⟩

def isOctal (c : Char) : Bool := '0' ≤ c && c ≤ '7'

/-- An escape of up to three octal digits, the first of which is read. -/
def octalEscape (first : Char) (body : Body) : List Char × Body :=
  let more := (body.rest.take 2).takeWhile isOctal
  let code := more.foldl (fun n c => n * 8 + (c.toNat - '0'.toNat)) (first.toNat - '0'.toNat)
  ([Char.ofNat code], ⟨body.rest.drop more.length, body.offset + more.length⟩)

/-- The longest name of a character, in bytes. -/
def longestName : Nat := 88

/-- An escape that names a character between braces. -/
def nameEscape (body : Body) : Except Fault (List Char × Body) :=
  match body.rest with
  | '{' :: rest =>
    let name := rest.takeWhile (· != '}')
    let start := body.offset + 1
    let size := (String.ofList name).utf8ByteSize
    match rest.drop name.length with
    | _ :: after =>
      if size > longestName then .error ⟨.badEscape, start + size + 1⟩
      else
        match Unicode.named? name with
        | some c => .ok ([c], ⟨after, start + size + 1⟩)
        | none => .error ⟨.badEscape, start⟩
    | [] => .error ⟨.unterminatedString, start + size⟩
  | _ => .error ⟨.unterminatedString, body.offset⟩

/-- The characters that stand for one character after a backslash. -/
def simpleEscape? (c : Char) : Option Char :=
  match c with
  | '\\' | '\x27' | '"' => some c
  | 'a' => some '\x07'
  | 'b' => some '\x08'
  | 'f' => some '\x0c'
  | 'n' => some '\n'
  | 'r' => some '\x0d'
  | 't' => some '\t'
  | 'v' => some '\x0b'
  | _ => none

/-- An escape, from after its backslash. One that means nothing keeps the backslash. -/
def escape (kind : StringKind) (body : Body) : Except Fault (List Char × Body) :=
  match body.rest with
  | [] => .error ⟨.unterminatedString, body.offset⟩
  | c :: rest =>
    let body := body.after c rest
    match simpleEscape? c with
    | some meant => .ok ([meant], body)
    | none =>
      if isOctal c then .ok (octalEscape c body)
      else if c == 'x' then hexEscape 2 body
      else if c == 'u' && !kind.isBytes then hexEscape 4 body
      else if c == 'U' && !kind.isBytes then hexEscape 8 body
      else if c == 'N' && !kind.isBytes then nameEscape body
      else if c == '\n' then .ok ([], body)
      else if kind.isBytes && c.toNat ≥ 128 then .error ⟨.nonAsciiBytes, body.offset⟩
      else .ok (['\\', c], body)

/-- The text of a literal without fields. Each round reads a character. -/
def text (kind : StringKind) : Nat → Body → Except Fault (List Char)
  | 0, _ => .ok []
  | fuel + 1, body =>
    match body.rest with
    | [] => .ok []
    | c :: rest => do
      if c == '\\' && !kind.isRaw then
        let (meant, after) ← escape kind (body.after c rest)
        return meant ++ (← text kind fuel after)
      else if kind.isBytes && c.toNat ≥ 128 then
        .error ⟨.nonAsciiBytes, (body.after c rest).offset⟩
      else
        return c :: (← text kind fuel (body.after c rest))

/-- What is known of a replacement field while it is read. -/
structure Field where
  /-- The text of its expression so far. -/
  expression : List Char
  /-- Brackets open in the expression, the innermost first. -/
  open_ : List Char
  conversion : Option Conversion
  spec : Option Expr
  /-- After the `=` of a field that shows its own text. -/
  isShown : Bool
  /-- Spaces after that `=`. -/
  trailing : List Char

def Field.empty : Field := ⟨[], [], none, none, false, []⟩

def Field.push (field : Field) (chars : List Char) : Field :=
  { field with expression := field.expression ++ chars }

/-- The opening bracket of a closing one. -/
def openerOf (closer : Char) : Char :=
  if closer == ')' then '(' else if closer == ']' then '[' else '{'

/-- A closing bracket in an expression: it must match the innermost open one. -/
def Field.close (field : Field) (closer : Char) (offset : Nat) : Except Fault Field :=
  match field.open_ with
  | opener :: outer =>
    if opener == openerOf closer then
      .ok { field with expression := field.expression ++ [closer], open_ := outer }
    else .error ⟨.inField (.mismatchedBrackets opener closer), offset⟩
  | [] => .error ⟨.inField (.unmatchedBracket closer), offset⟩

/-- The conversion after `!`, up to the end of the field or its format. -/
def conversion (body : Body) : Except Fault (Conversion × Body) :=
  match body.rest with
  | [] => .error ⟨.inField .unclosedField, body.offset⟩
  | c :: rest =>
    let after := body.after c rest
    let known := match c with
      | 's' => some Conversion.text
      | 'r' => some .repr
      | 'a' => some .ascii
      | _ => none
    match known, rest with
    | none, _ => .error ⟨.inField .badConversion, after.offset⟩
    | some found, '}' :: _ | some found, ':' :: _ => .ok (found, after)
    | some _, _ => .error ⟨.inField .unclosedField, after.offset⟩

/-- A nested literal in an expression, up to its closing quote. -/
def quoted (quote : Char) (body : Body) : Except Fault (List Char × Body) :=
  let inner := body.rest.takeWhile (· != quote)
  let size := (String.ofList inner).utf8ByteSize
  match body.rest.drop inner.length with
  | q :: rest => .ok (inner ++ [q], ⟨rest, body.offset + size + q.utf8Size⟩)
  | [] => .error ⟨.inField .unterminatedField, body.offset + size⟩

/-- The parts of a closed field: its own text if it shows that, and the replaced value. `place` is
where the expression starts and `start` where the literal does. -/
def Field.parts (readExpr : ExprReader) (start place : Nat) (field : Field) :
    Except Fault (List Expr) :=
  match readExpr ('(' :: field.expression ++ [')']) (place - 1) with
  | .error fault => .error ⟨.inField fault.cause, place⟩
  | .ok value =>
    if field.isShown then
      let shown := match field.conversion, field.spec with
        | none, none => some Conversion.repr
        | chosen, _ => chosen
      .ok [.constant start (.text (String.ofList (field.expression ++ ['=']))),
        .constant start (.text (String.ofList field.trailing)),
        .formatted start value shown field.spec]
    else .ok [.formatted start value field.conversion field.spec]

/-- The constant part that some text makes, none if it is empty. -/
def constantPart (start : Nat) (content : List Char) : List Expr :=
  if content.isEmpty then [] else [.constant start (.text (String.ofList content))]

/-- What is read at the three places of an f-string. -/
inductive Mode where
  /-- The parts between fields, the constant text read so far given. -/
  | parts (content : List Char)
  /-- A field whose expression starts at `place`. -/
  | field (place : Nat) (field : Field)
  /-- A format, the constant text read so far given. -/
  | spec (content : List Char)

/-- Reads an f-string at one of its three places. `depth` counts the formats around it; fields nest
in a format once. Each round reads a character or goes from a format to the parts in it. -/
def formatted (readExpr : ExprReader) (kind : StringKind) (start : Nat) :
    Nat → Nat → Mode → Body → Except Fault (List Expr × Body)
  | 0, _, _, body => .error ⟨.nestingLimit, body.offset⟩
  | fuel + 1, depth, .parts content, body => do
    match body.rest with
    | [] => return (constantPart start content, body)
    | '{' :: rest =>
      let after := body.after '{' rest
      match depth, rest with
      | 0, '{' :: rest =>
        formatted readExpr kind start fuel depth (.parts (content ++ ['{'])) (after.after '{' rest)
      | 0, [] => .error ⟨.inField .unclosedField, after.offset⟩
      | _, _ =>
        let (found, after) ← formatted readExpr kind start fuel depth
          (.field after.offset .empty) after
        let (more, after) ← formatted readExpr kind start fuel depth (.parts []) after
        return (constantPart start content ++ found ++ more, after)
    | '}' :: rest =>
      if depth > 0 then return (constantPart start content, body)
      else
        let after := body.after '}' rest
        match rest with
        | '}' :: rest =>
          formatted readExpr kind start fuel depth (.parts (content ++ ['}']))
            (after.after '}' rest)
        | _ => .error ⟨.inField .loneBrace, after.offset⟩
    | c :: rest =>
      if c == '\\' && !kind.isRaw && rest.head? != some '{' && rest.head? != some '}' then
        let (meant, after) ← escape kind (body.after c rest)
        formatted readExpr kind start fuel depth (.parts (content ++ meant)) after
      else formatted readExpr kind start fuel depth (.parts (content ++ [c])) (body.after c rest)
  | fuel + 1, depth, .spec content, body => do
    match body.rest with
    | [] => return (constantPart start content, body)
    | '{' :: _ =>
      if depth ≥ 1 then .error ⟨.inField .deepField, body.offset⟩
      else
        let (found, after) ← formatted readExpr kind start fuel (depth + 1) (.parts []) body
        let (more, after) ← formatted readExpr kind start fuel depth (.spec []) after
        return (constantPart start content ++ found ++ more, after)
    | '}' :: _ => return (constantPart start content, body)
    | c :: rest =>
      formatted readExpr kind start fuel depth (.spec (content ++ [c])) (body.after c rest)
  | fuel + 1, depth, .field place field, body => do
    let go (field : Field) (after : Body) :=
      formatted readExpr kind start fuel depth (.field place field) after
    let isEmpty := Text.allBlank field.expression
    match body.rest with
    | [] => .error ⟨.inField (if isEmpty then .emptyField else .unclosedField), body.offset⟩
    | c :: rest =>
      let after := body.after c rest
      match rest with
      | '=' :: later =>
        if c == '!' || c == '=' || c == '>' || c == '<' then
          return ← go (field.push [c, '=']) (after.after '=' later)
      | _ => pure ()
      if c == '!' && field.open_.isEmpty then
        if isEmpty then .error ⟨.inField .emptyField, after.offset⟩
        else
          let (found, after) ← conversion after
          go { field with conversion := some found } after
      else if c == '=' && field.open_.isEmpty then go { field with isShown := true } after
      else if c == ':' && field.open_.isEmpty then
        let (found, after) ← formatted readExpr kind start fuel depth (.spec []) after
        go { field with spec := some (.joined start found) } after
      else if c == '(' || c == '{' || c == '[' then
        go { field.push [c] with open_ := c :: field.open_ } after
      else if c == ')' || c == ']' || (c == '}' && !field.open_.isEmpty) then
        go (← field.close c after.offset) after
      else if c == '}' then
        if isEmpty then .error ⟨.inField .emptyField, after.offset⟩
        else return (← field.parts readExpr start place, after)
      else if c == '"' || c == '\x27' then
        let (inner, after) ← quoted c after
        go (field.push (c :: inner)) after
      else if c == ' ' && field.isShown then
        go { field with trailing := field.trailing ++ [c] } after
      else if c == '\\' then .error ⟨.inField .unterminatedField, after.offset⟩
      else if field.isShown then .error ⟨.inField .unclosedField, after.offset⟩
      else go (field.push [c]) after

/-- A literal with the offset at which it starts. -/
structure Segment where
  start : Nat
  literal : StringLiteral
  deriving Repr, Inhabited

/-- The body of a literal, from its first character. -/
def Segment.content (segment : Segment) : Body :=
  ⟨segment.literal.body, segment.start + segment.literal.opening⟩

/-- The text of a literal without fields. -/
def Segment.text (segment : Segment) : Except Fault (List Char) :=
  Literal.text segment.literal.kind (segment.literal.body.length + 1) segment.content

/-- The parts of a literal; one without fields is a single constant part, empty or not. -/
def Segment.parts (readExpr : ExprReader) (segment : Segment) : Except Fault (List Expr) := do
  if segment.literal.kind.isFormatted then
    let fuel := 2 * segment.literal.body.length + 2
    return (← formatted readExpr segment.literal.kind segment.start fuel 0 (.parts [])
      segment.content).1
  else
    return [.constant segment.start (.text (String.ofList (← segment.text)))]

/-- Joins neighbouring constant parts; a joined part stands at `start`. -/
def joinParts (start : Nat) : Option String → List Expr → List Expr
  | pending, [] => pending.toList.map fun content => .constant start (.text content)
  | pending, .constant _ (.text more) :: rest =>
    joinParts start (some (pending.getD "" ++ more)) rest
  | pending, part :: rest =>
    (pending.toList.map fun content => .constant start (.text content)) ++
      part :: joinParts start none rest

/-- The expression that literals side by side make, at the start of the first. Bytes stand beside
bytes alone. -/
def expression (readExpr : ExprReader) (start : Nat) (segments : List Segment) :
    Except Fault Expr := do
  let bytes := segments.filter (·.literal.kind.isBytes)
  if !bytes.isEmpty && bytes.length < segments.length then .error ⟨.mixedBytes, start⟩
  else if !bytes.isEmpty then
    let _ ← segments.mapM Segment.text
    return .constant start .bytes
  else if segments.any (·.literal.kind.isFormatted) then
    let parts ← segments.mapM (Segment.parts readExpr)
    return .joined start (joinParts start none parts.flatten)
  else
    let contents ← segments.mapM Segment.text
    return .constant start (.text (String.ofList contents.flatten))

end SourceGate.Script.Literal
