import SourceGate.Script.Token.Numeral
import SourceGate.Unicode.Identifier
import SourceGate.Unicode.Emoji

/-! # From text to tokens

One step reads the indentation of a fresh line, if there is one, and then one token. A step that
meets a fault yields none of its tokens, so a fault is seen before the indentation it stands behind.
-/

namespace SourceGate.Script

/-- An indentation, tabs and spaces counted apart. -/
structure Level where
  tabs : Nat
  spaces : Nat
  deriving DecidableEq, Repr, Inhabited

/-- The order of two indentations, where it does not hang on the width of a tab. -/
def Level.order? (a b : Level) : Option Ordering :=
  match compare a.tabs b.tabs with
  | .lt => if a.spaces ≤ b.spaces then some .lt else none
  | .gt => if a.spaces ≥ b.spaces then some .gt else none
  | .eq => some (compare a.spaces b.spaces)

/-- Where the scan stands between two tokens. -/
structure Scan where
  text : List Glyph
  /-- At the start of a line, before its indentation. -/
  isFresh : Bool
  /-- How many brackets are open. -/
  nesting : Nat
  /-- The open indentations, the innermost first; the margin is not among them. -/
  levels : List Level
  deriving Repr, Inhabited

namespace Scan

def keywords : List String :=
  ["False", "None", "True", "and", "as", "assert", "async", "await", "break", "case", "class",
    "continue", "def", "del", "elif", "else", "except", "finally", "for", "from", "global", "if",
    "import", "in", "is", "lambda", "match", "nonlocal", "not", "or", "pass", "raise", "return",
    "try", "type", "while", "with", "yield"]

/-- Operators and delimiters, longer ones first. -/
def symbols : List String :=
  ["**=", "//=", "<<=", ">>=", "...",
    "==", "+=", "-=", "*=", "**", "/=", "//", "%=", "|=", "^=", "&=", "->", "@=", "!=", ":=",
    "<<", "<=", ">>", ">=",
    "=", "+", "-", "*", "/", "%", "|", "^", "&", "@", "~", "(", ")", "[", "]", "\x7b", "\x7d", ":",
    ";", "<", ">", ",", "."]

/-- What follows a text that opens with the given characters. -/
def afterChars? : List Char → List Glyph → Option (List Glyph)
  | [], text => some text
  | c :: rest, g :: text => if g.char == c then afterChars? rest text else none
  | _ :: _, [] => none

/-- The operator or delimiter that opens the text. -/
def symbol? (text : List Glyph) : Option (String × List Glyph) :=
  symbols.findSome? fun s => (afterChars? s.toList text).map fun rest => (s, rest)

/-- The body of a string literal up to its closing quotes. -/
def stringBody (last : Nat) (quote : Char) (isTriple : Bool) :
    List Glyph → Except Fault (List Char × List Glyph)
  | [] => .error ⟨if isTriple then .unfinished else .unterminatedString, last⟩
  | g :: rest =>
    if g.char == '\\' then
      match rest with
      | h :: rest =>
        match stringBody last quote isTriple rest with
        | .ok (body, after) => .ok ('\\' :: h.char :: body, after)
        | .error fault => .error fault
      | [] => .error ⟨if isTriple then .unfinished else .unterminatedString, last⟩
    else if g.char == '\n' && !isTriple then .error ⟨.lineEndInString, g.stop⟩
    else if g.char == quote && !isTriple then .ok ([], rest)
    else
      match g.char == quote, afterChars? [quote, quote] rest with
      | true, some after => .ok ([], after)
      | _, _ =>
        match stringBody last quote isTriple rest with
        | .ok (body, after) => .ok (g.char :: body, after)
        | .error fault => .error fault

/-- A string literal from its opening quote on. -/
def stringLiteral (last : Nat) (kind : StringKind) (text : List Glyph) :
    Except Fault (TokenKind × List Glyph) :=
  match text with
  | [] => .error ⟨.unterminatedString, last⟩
  | quote :: rest =>
    let (isTriple, rest) :=
      match afterChars? [quote.char, quote.char] rest with
      | some after => (true, after)
      | none => (false, rest)
    match stringBody last quote.char isTriple rest with
    | .ok (body, after) => .ok (.string ⟨kind, isTriple, body⟩, after)
    | .error fault => .error fault

def isQuote (c : Char) : Bool := c == '"' || c == '\x27'

/-- The kind of string literal that the text opens, with the text from its quote on. -/
def stringOpening? (text : List Glyph) : Option (StringKind × List Glyph) :=
  match text with
  | a :: b :: rest =>
    if isQuote b.char then (StringKind.ofLetters? [a.char]).map fun kind => (kind, b :: rest)
    else
      match rest with
      | q :: _ =>
        if isQuote q.char then (StringKind.ofLetters? [a.char, b.char]).map fun kind => (kind, rest)
        else none
      | [] => none
  | _ => none

/-- An identifier, a keyword, or a string literal that opens with letters. -/
def word (last : Nat) (text : List Glyph) : Except Fault (TokenKind × List Glyph) :=
  match stringOpening? text with
  | some (kind, quoted) => stringLiteral last kind quoted
  | none =>
    let (run, after) := Glyph.span Unicode.isIdentifierPart text
    let name := String.ofList run
    .ok (if keywords.contains name then .keyword name else .name name, after)

/-- The token that opens a text, which is no blank, comment, line end or continuation. -/
def tokenKind (last : Nat) (text : List Glyph) (g : Glyph) (rest : List Glyph) :
    Except Fault (TokenKind × List Glyph) :=
  if Unicode.isIdentifierStart g.char then word last text
  else if g.char.isDigit || (g.char == '.' && Glyph.nextIs Char.isDigit rest) then
    Numeral.read last text
  else if isQuote g.char then stringLiteral last .plain text
  else
    match symbol? text with
    | some (s, after) => .ok (.symbol s, after)
    | none =>
      if Unicode.isEmoji g.char then .ok (.name g.char.toString, rest)
      else if g.char == '!' then .error ⟨.strayCharacter '!', g.start⟩
      else .error ⟨.strayCharacter g.char, g.stop⟩

def isSpace (c : Char) : Bool := c == ' ' || c == '\t' || c == '\x0c'

/-- The text after the comment that opens it. -/
def afterComment (text : List Glyph) : List Glyph := (Glyph.span (· != '\n') text).2

/-- The indentation of the first line that holds more than blanks and comments, and the text from
its first character on. -/
def indentation (inComment : Bool) (level : Level) :
    List Glyph → Except Fault (Level × List Glyph)
  | [] => .ok (⟨0, 0⟩, [])
  | g :: rest =>
    if g.char == '\n' || g.char == '\x0c' && !inComment then indentation false ⟨0, 0⟩ rest
    else if inComment then indentation true ⟨0, 0⟩ rest
    else if g.char == '#' then indentation true ⟨0, 0⟩ rest
    else if g.char == ' ' then indentation false { level with spaces := level.spaces + 1 } rest
    else if g.char == '\t' then
      if level.spaces != 0 then .error ⟨.tabAfterSpace, g.start⟩
      else indentation false { level with tabs := level.tabs + 1 } rest
    else .ok (level, g :: rest)

/-- Closes the indentations deeper than `level`, which must then be an open one. Gives how many were
closed and those left. -/
def unindent (place : Nat) (level : Level) : List Level → Except Fault (Nat × List Level)
  | [] =>
    match level.order? ⟨0, 0⟩ with
    | some .eq => .ok (0, [])
    | some _ => .error ⟨.unmatchedDedent, place⟩
    | none => .error ⟨.mixedIndentation, place⟩
  | top :: levels =>
    match level.order? top with
    | some .lt =>
      match unindent place level levels with
      | .ok (closed, left) => .ok (closed + 1, left)
      | .error fault => .error fault
    | some .eq => .ok (0, top :: levels)
    | some .gt => .error ⟨.unmatchedDedent, place⟩
    | none => .error ⟨.mixedIndentation, place⟩

/-- The tokens for the step from the open indentations to `level`, and those open then. -/
def indentTokens (place : Nat) (level : Level) (levels : List Level) :
    Except Fault (List Token × List Level) :=
  match level.order? (levels.headD ⟨0, 0⟩) with
  | none => .error ⟨.mixedIndentation, place⟩
  | some .eq => .ok ([], levels)
  | some .gt =>
    .ok ([⟨.indent, place - level.spaces - level.tabs, place⟩], level :: levels)
  | some .lt =>
    match unindent place level levels with
    | .ok (closed, left) => .ok (List.replicate closed ⟨.dedent, place, place⟩, left)
    | .error fault => .error fault

/-- Brackets open after a symbol; a closer needs an open one. -/
def nestingAfter (nesting : Nat) (token : Token) : Except Fault Nat :=
  match token.kind with
  | .symbol s =>
    if openers.contains s then .ok (nesting + 1)
    else if closers.contains s then
      if nesting == 0 then .error ⟨.unmatchedCloser, token.stop⟩ else .ok (nesting - 1)
    else .ok nesting
  | _ => .ok nesting

/-- The result of a step: tokens and the scan after them, or the tokens that end the stream. -/
inductive Step where
  | more (tokens : List Token) (scan : Scan)
  | final (tokens : List Token)

/-- The tokens at the end of the text: a line end if the last line has none, and the closing of all
indentations. -/
def ending (last : Nat) (scan : Scan) : Except Fault (List Token) :=
  if scan.nesting > 0 then .error ⟨.unfinished, last⟩
  else
    .ok ((if scan.isFresh then [] else [⟨.newline, last, last⟩]) ++
      List.replicate scan.levels.length ⟨.dedent, last, last⟩)

/-- The indentation of a fresh line. -/
def settle (last : Nat) (scan : Scan) : Except Fault (List Token × Scan) :=
  if !scan.isFresh then .ok ([], scan)
  else
    match indentation false ⟨0, 0⟩ scan.text with
    | .error fault => .error fault
    | .ok (level, text) =>
      match indentTokens (Glyph.place last text) level scan.levels with
      | .error fault => .error fault
      | .ok (tokens, levels) =>
        .ok (tokens, { scan with text := text, isFresh := text.isEmpty, levels := levels })

/-- What stands at the head of the text: a blank, a comment, a line end, a continued line or a
token. -/
def advance (last : Nat) (scan : Scan) (g : Glyph) (rest : List Glyph) :
    Except Fault (List Token × Scan) :=
  if g.char == '#' then .ok ([], { scan with text := afterComment rest })
  else if g.char == '\n' then
    if scan.nesting == 0 then
      .ok ([⟨.newline, g.start, g.stop⟩], { scan with text := rest, isFresh := true })
    else .ok ([], { scan with text := rest })
  else if isSpace g.char then .ok ([], { scan with text := rest })
  else if g.char == '\\' then
    match rest with
    | h :: after =>
      if h.char != '\n' then .error ⟨.badContinuation, g.stop⟩
      else if after.isEmpty then .error ⟨.unfinished, h.stop⟩
      else .ok ([], { scan with text := after })
    | [] => .error ⟨.badContinuation, g.stop⟩
  else
    match tokenKind last (g :: rest) g rest with
    | .error fault => .error fault
    | .ok (kind, after) =>
      let token : Token := ⟨kind, g.start, Glyph.place last after⟩
      match nestingAfter scan.nesting token with
      | .error fault => .error fault
      | .ok nesting => .ok ([token], { scan with text := after, nesting := nesting })

/-- One step of the scan. -/
def step (last : Nat) (scan : Scan) : Except Fault Step :=
  match settle last scan with
  | .error fault => .error fault
  | .ok (opening, scan) =>
    match scan.text with
    | [] => (ending last scan).map fun tokens => .final (opening ++ tokens)
    | g :: rest =>
      (advance last scan g rest).map fun (tokens, scan) => .more (opening ++ tokens) scan

/-- The stop of the last of some tokens. -/
def lastStop (before : Nat) (tokens : List Token) : Nat :=
  match tokens.getLast? with
  | some token => token.stop
  | none => before

/-- The stream of a scan. Each step but the last consumes a character, so `fuel` need only exceed
the length of the text. -/
def tokens (last : Nat) (fuel : Nat) (stop : Nat) (scan : Scan) : Tokens :=
  match fuel with
  | 0 => .broken ⟨.nestingLimit, last⟩
  | fuel + 1 =>
    match step last scan with
    | .error fault => .broken fault
    | .ok (.final found) => .prepend found (.complete (lastStop stop found))
    | .ok (.more found scan) => .prepend found (tokens last fuel (lastStop stop found) scan)

end Scan

/-- The tokens of a text whose first byte is at `offset`. A byte order mark at its head is passed
over. -/
def Tokens.ofTextAt (offset : Nat) (text : List Char) : Tokens :=
  let glyphs := Glyph.ofTextAt offset text
  let last := match glyphs.getLast? with
    | some g => g.stop
    | none => offset
  let glyphs := match glyphs with
    | g :: rest => if g.char == '\ufeff' then rest else glyphs
    | [] => []
  Scan.tokens last (glyphs.length + 1) offset
    { text := glyphs, isFresh := true, nesting := 0, levels := [] }

end SourceGate.Script
