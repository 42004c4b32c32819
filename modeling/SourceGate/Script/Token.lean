import SourceGate.Text.Decimal

/-! # Tokens of Python and faults of its syntax

A token stream ends with the text or with the first lexical fault in it. Faults are told apart by
cause; `Cause.message` holds all their wording.
-/

namespace SourceGate.Script

/-- The kinds of string literal, by their letters before the quote. -/
inductive StringKind where
  | plain | unicode | raw | bytes | rawBytes | formatted | rawFormatted
  deriving DecidableEq, Repr, Inhabited

namespace StringKind

/-- The kind that the letters before a quote announce, in either case and order. -/
def ofLetters? (letters : List Char) : Option StringKind :=
  match letters.map Char.toLower with
  | [] => some .plain
  | ['u'] => some .unicode
  | ['r'] => some .raw
  | ['b'] => some .bytes
  | ['f'] => some .formatted
  | ['r', 'b'] | ['b', 'r'] => some .rawBytes
  | ['r', 'f'] | ['f', 'r'] => some .rawFormatted
  | _ => none

/-- The letters of a kind, lower case and `r` first. -/
def letters : StringKind → String
  | plain => ""
  | unicode => "u"
  | raw => "r"
  | bytes => "b"
  | rawBytes => "rb"
  | formatted => "f"
  | rawFormatted => "rf"

def isRaw : StringKind → Bool
  | raw | rawBytes | rawFormatted => true
  | _ => false

def isBytes : StringKind → Bool
  | bytes | rawBytes => true
  | _ => false

def isFormatted : StringKind → Bool
  | formatted | rawFormatted => true
  | _ => false

end StringKind

/-- A string literal: the text between its quotes, escapes unread and line ends read as `\n`. -/
structure StringLiteral where
  kind : StringKind
  isTriple : Bool
  body : List Char
  deriving DecidableEq, Repr, Inhabited

/-- The symbols that open a bracket. -/
def openers : List String := ["(", "[", "\x7b"]

/-- The symbols that close a bracket. -/
def closers : List String := [")", "]", "\x7d"]

/-- How many characters stand before the body. -/
def StringLiteral.opening (literal : StringLiteral) : Nat :=
  literal.kind.letters.length + if literal.isTriple then 3 else 1

inductive TokenKind where
  | name (text : String)
  | keyword (text : String)
  | symbol (text : String)
  | integer (value : Nat)
  | float (value : Text.Decimal)
  | imaginary (value : Text.Decimal)
  | string (literal : StringLiteral)
  | newline
  | indent
  | dedent
  deriving DecidableEq, Repr, Inhabited

/-- A token with the byte offsets of its two ends. -/
structure Token where
  kind : TokenKind
  start : Nat
  stop : Nat
  deriving DecidableEq, Repr, Inhabited

/-- What a token is called in messages. -/
def TokenKind.display : TokenKind → String
  | name text | keyword text | symbol text => s!"'{text}'"
  | integer value => s!"'{value}'"
  | float value => s!"'{value.written}'"
  | imaginary value => s!"0j{value.written}"
  | string literal =>
    let quotes := if literal.isTriple then "\"\"\"" else "\""
    literal.kind.letters ++ quotes ++ String.ofList literal.body ++ quotes
  | newline => "Newline"
  | indent => "Indent"
  | dedent => "Dedent"

inductive Cause where
  | unexpectedToken (kind : TokenKind)
  /-- A block has to be indented and is not. -/
  | missingBlock
  /-- The text ends where a statement has to go on. -/
  | unexpectedEnd
  /-- The text ends inside brackets, a long string or a continued line. -/
  | unfinished
  | lineEndInString
  | unterminatedString
  | badEscape
  | unmatchedCloser
  | unmatchedDedent
  | mixedIndentation
  | tabAfterSpace
  | badContinuation
  | strayCharacter (c : Char)
  | leadingZero
  | misplacedUnderscore
  | badDecimal
  | missingDigits
  | nonAsciiBytes
  | duplicateParameter (name : String)
  | defaultBeforePlain
  | bareStar
  | repeatedKeyword (name : String)
  | positionalAfterKeyword
  | starAfterDoubleStar
  | mixedBytes
  | starredInParentheses
  | doubleStarInParentheses
  | underscoreTarget
  | unclosedField
  | loneBrace
  | emptyField
  | badConversion
  | unterminatedField
  | deepField
  | mismatchedBrackets (opener closer : Char)
  | unmatchedBracket (closer : Char)
  /-- A fault inside an f-string. -/
  | inField (cause : Cause)
  /-- No text reaches this: it stands for a bound on nesting that is beyond every input. -/
  | nestingLimit
  deriving DecidableEq, Repr, Inhabited

/-- The wording of a fault. -/
def Cause.message : Cause → String
  | unexpectedToken .indent => "unexpected indent"
  | unexpectedToken kind => "invalid syntax. Got unexpected token " ++ kind.display
  | missingBlock => "expected an indented block"
  | unexpectedEnd => "Got unexpected EOF"
  | unfinished => "unexpected EOF while parsing"
  | lineEndInString => "EOL while scanning string literal"
  | unterminatedString => "Got unexpected string"
  | badEscape => "Got unexpected unicode"
  | unmatchedCloser => "Got unexpected nesting"
  | unmatchedDedent => "unindent does not match any outer indentation level"
  | mixedIndentation => "inconsistent use of tabs and spaces in indentation"
  | tabAfterSpace => "Tabs not allowed as part of indentation after spaces"
  | badContinuation => "unexpected character after line continuation character"
  | strayCharacter c => "Got unexpected token " ++ c.toString
  | leadingZero => "Invalid Token"
  | misplacedUnderscore => "Invalid Syntax"
  | badDecimal => "Invalid decimal literal"
  | missingDigits => "ParseBigIntError \x7b kind: Empty \x7d"
  | nonAsciiBytes => "bytes can only contain ASCII literal characters"
  | duplicateParameter name => s!"duplicate argument '{name}' in function definition"
  | defaultBeforePlain => "non-default argument follows default argument"
  | bareStar => "named arguments must follow bare *"
  | repeatedKeyword name => s!"keyword argument repeated: {name}"
  | positionalAfterKeyword => "positional argument follows keyword argument"
  | starAfterDoubleStar => "iterable argument unpacking follows keyword argument unpacking"
  | mixedBytes => "cannot mix bytes and nonbytes literals"
  | starredInParentheses => "cannot use starred expression here"
  | doubleStarInParentheses => "cannot use double starred expression here"
  | underscoreTarget => "cannot use '_' as a target"
  | unclosedField => "expecting '\x7d'"
  | loneBrace => "single '\x7d' is not allowed"
  | emptyField => "empty expression not allowed"
  | badConversion => "invalid conversion character"
  | unterminatedField => "unterminated string"
  | deepField => "expressions nested too deeply"
  | mismatchedBrackets opener closer =>
    s!"closing parenthesis '{closer}' does not match opening parenthesis '{opener}'"
  | unmatchedBracket closer => s!"unmatched '{closer}'"
  | inField cause => "f-string: " ++ cause.message
  | nestingLimit => "too many nested constructs"

/-- A fault and the byte offset to which it is charged. -/
structure Fault where
  cause : Cause
  offset : Nat
  deriving DecidableEq, Repr, Inhabited

/-- A token stream. -/
inductive Tokens where
  /-- The text is read; its last token ends at `stop`. -/
  | complete (stop : Nat)
  | broken (fault : Fault)
  | cons (token : Token) (rest : Tokens)
  deriving DecidableEq, Repr, Inhabited

namespace Tokens

/-- Tokens put before a stream. -/
def prepend (tokens : List Token) (rest : Tokens) : Tokens := tokens.foldr .cons rest

/-- How many tokens a stream holds. -/
def length : Tokens → Nat
  | complete _ | broken _ => 0
  | cons _ rest => rest.length + 1

/-- The fault of a stream whose next token cannot go on. -/
def unexpected : Tokens → Fault
  | complete stop => ⟨.unexpectedEnd, stop⟩
  | broken fault => fault
  | cons token _ => ⟨.unexpectedToken token.kind, token.start⟩

end Tokens

end SourceGate.Script
