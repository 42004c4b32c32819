import SourceGate.Data.Basic
import SourceGate.Data.Scan
import SourceGate.Text.Hex

/-! # Texts, keys and white space of TOML -/

namespace SourceGate.Toml

def isSpace (c : Char) : Bool := c == ' ' || c == '\t'

/-- White space on a line. -/
def spaces : Scan Unit := Scan.skip isSpace

/-- Characters that a text or a comment may hold as they are. -/
def isPlain (c : Char) : Bool := c == '\t' || (c.toNat ≥ 0x20 && c.toNat != 0x7F)

def lineBreak : Scan Unit := Scan.char '\n' <|> Scan.word "\r\n"

def comment : Scan Unit := do Scan.char '#'; Scan.skip isPlain

/-- What ends a line that holds something. -/
def lineEnd : Scan Unit := do
  spaces
  discard (Scan.optional comment)
  lineBreak <|> Scan.finish

/-- White space, comments and line breaks between the items of a list. -/
def gaps : Scan Unit := do
  discard (Scan.many ((do discard (Scan.satisfy isSpace)) <|> (do
    discard (Scan.optional comment)
    lineBreak)))

def codePoint (digits : Nat) : Scan Char := do
  match charOf? (Text.numberOf 16 (← Scan.exactly digits Text.isHexDigit)) with
  | some c => return c
  | none => failure

/-- What follows a backslash. -/
def escape : Scan Char := do
  match ← Scan.satisfy fun _ => true with
  | 'b' => return '\x08'
  | 't' => return '\t'
  | 'n' => return '\n'
  | 'f' => return '\x0c'
  | 'r' => return '\r'
  | '"' => return '"'
  | '\\' => return '\\'
  | 'u' => codePoint 4
  | 'U' => codePoint 8
  | _ => failure

def basicChar : Scan Char := do
  match ← Scan.satisfy fun c => isPlain c && c != '"' with
  | '\\' => escape
  | c => return c

def basicText : Scan String := do
  Scan.char '"'
  let cs ← Scan.many basicChar
  Scan.char '"'
  return String.ofList cs

def literalText : Scan String := do
  Scan.char '\x27'
  let cs ← Scan.span fun c => isPlain c && c != '\x27'
  Scan.char '\x27'
  return String.ofList cs

/-- A backslash at the end of a line takes the white space and line breaks after it away. -/
def joinedLine : Scan (List Char) := do
  Scan.char '\\'
  spaces
  lineBreak
  discard (Scan.many ((do discard (Scan.satisfy isSpace)) <|> lineBreak))
  return []

def newline : Scan (List Char) := do lineBreak; return ['\n']

/-- One or two quotes with more text after them: a third would close the text. -/
def innerQuotes (quote : Char) : Scan (List Char) := do
  let found ← Scan.span (· == quote)
  let beyond ← Scan.peek
  if found.length ≤ 2 && !found.isEmpty && beyond.isSome then return found else failure

/-- The quotes that close a text of lines, and up to two that belong to it. -/
def closingQuotes (quote : Char) : Scan (List Char) := do
  let found ← Scan.span (· == quote)
  if 3 ≤ found.length && found.length ≤ 5 then return found.drop 3 else failure

/-- A text of lines between threefold quotes; a line break right after them does not count. -/
def lines (quote : Char) (content : Scan (List Char)) : Scan String := do
  Scan.word (String.ofList [quote, quote, quote])
  discard (Scan.optional lineBreak)
  let parts ← Scan.many (content <|> innerQuotes quote)
  let more ← closingQuotes quote
  return String.ofList (parts.flatten ++ more)

def basicLines : Scan String :=
  lines '"' (newline <|> joinedLine <|> do return [← basicChar])

def literalLines : Scan String :=
  lines '\x27' (newline <|> do
    return [← Scan.satisfy fun c => isPlain c && c != '\x27'])

def text : Scan String := basicLines <|> literalLines <|> basicText <|> literalText

def bareKey : Scan String := do
  let cs ← Scan.span1 fun c => c.isAlphanum || c == '-' || c == '_'
  return String.ofList cs

/-- The names of a dotted key. -/
def key : Scan (List String) :=
  Scan.sepBy1 (do
    spaces
    let name ← basicText <|> literalText <|> bareKey
    spaces
    return name) (Scan.char '.')

end SourceGate.Toml
