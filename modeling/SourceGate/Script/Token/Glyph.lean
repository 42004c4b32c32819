/-! # Source characters with their places

A glyph is a character of the source with the byte offsets of its two ends. The three line ends
`\n`, `\r` and `\r\n` are one glyph each, read as `\n`.
-/

namespace SourceGate.Script

structure Glyph where
  char : Char
  start : Nat
  stop : Nat
  deriving DecidableEq, Repr, Inhabited

namespace Glyph

/-- The glyphs of a text whose first byte is at `offset`. -/
def ofTextAt (offset : Nat) : List Char → List Glyph
  | [] => []
  | '\r' :: '\n' :: rest => ⟨'\n', offset, offset + 2⟩ :: ofTextAt (offset + 2) rest
  | '\r' :: rest => ⟨'\n', offset, offset + 1⟩ :: ofTextAt (offset + 1) rest
  | c :: rest => ⟨c, offset, offset + c.utf8Size⟩ :: ofTextAt (offset + c.utf8Size) rest

/-- The offset of the next glyph, or `last` at the end. -/
def place (last : Nat) : List Glyph → Nat
  | [] => last
  | g :: _ => g.start

/-- Whether the next glyph has the property. -/
def nextIs (p : Char → Bool) : List Glyph → Bool
  | [] => false
  | g :: _ => p g.char

/-- The longest run of characters with a property, and what follows it. -/
def span (p : Char → Bool) : List Glyph → List Char × List Glyph
  | [] => ([], [])
  | g :: rest =>
    if p g.char then
      let (run, after) := span p rest
      (g.char :: run, after)
    else ([], g :: rest)

/-- The longest run of digits, in which single underscores may stand before digits. -/
def digitRun (isDigit : Char → Bool) : List Glyph → List Char × List Glyph
  | [] => ([], [])
  | g :: rest =>
    if isDigit g.char then
      let (run, after) := digitRun isDigit rest
      (g.char :: run, after)
    else if g.char == '_' && nextIs isDigit rest then digitRun isDigit rest
    else ([], g :: rest)

end Glyph

end SourceGate.Script
