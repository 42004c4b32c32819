import SourceGate.Data.Basic
import SourceGate.Data.Scan
import SourceGate.Text.Hex
import SourceGate.Word

/-! # Reading JSON

The grammar of RFC 8259. What is well formed but has no value of its own reads as `Data.other`:
numbers that are no 64-bit integers and texts with half a surrogate pair, and records with such a
name.
-/

namespace SourceGate.Json

/-- White space between the parts of a document. -/
def blanks : Scan Unit := Scan.skip fun c => c == ' ' || c == '\n' || c == '\r' || c == '\t'

/-- A scan and the white space after it. -/
def token {α : Type} (scan : Scan α) : Scan α := do
  let a ← scan
  blanks
  return a

/-- One piece of a text: a character, or a UTF-16 unit written by its number. -/
inductive Piece where
  | char (c : Char)
  | unit (n : Nat)

def escape : Scan Piece := do
  match ← Scan.satisfy fun _ => true with
  | '"' => return .char '"'
  | '\\' => return .char '\\'
  | '/' => return .char '/'
  | 'b' => return .char '\x08'
  | 'f' => return .char '\x0c'
  | 'n' => return .char '\n'
  | 'r' => return .char '\r'
  | 't' => return .char '\t'
  | 'u' => return .unit (Text.numberOf 16 (← Scan.exactly 4 Text.isHexDigit))
  | _ => failure

def piece : Scan Piece := do
  match ← Scan.satisfy fun c => c != '"' && c.toNat ≥ 0x20 with
  | '\\' => escape
  | c => return .char c

/-- The text of pieces; `none` if half a surrogate pair stands alone. -/
def join : List Piece → Option (List Char)
  | [] => some []
  | .char c :: rest => (join rest).map (c :: ·)
  | .unit high :: .unit low :: rest =>
    if 0xD800 ≤ high && high < 0xDC00 then
      if 0xDC00 ≤ low && low < 0xE000 then
        let n := 0x10000 + (high - 0xD800) * 0x400 + (low - 0xDC00)
        (join rest).map (Char.ofNat n :: ·)
      else none
    else do
      let c ← charOf? high
      let more ← join (.unit low :: rest)
      return c :: more
  | .unit n :: rest => do
    let c ← charOf? n
    let more ← join rest
    return c :: more

/-- A text between quotes; `none` if it does not decode. -/
def text : Scan (Option String) := do
  Scan.char '"'
  let pieces ← Scan.many piece
  Scan.char '"'
  return (join pieces).map String.ofList

/-- A number; only an integer of 64 bits is one here. A zero with a sign is none. -/
def number : Scan Data := do
  let isNegative := (← Scan.optional (Scan.char '-')).isSome
  let digits ← (do Scan.char '0'; return ['0']) <|> Scan.span1 Char.isDigit
  let fraction ← Scan.optional (do Scan.char '.'; Scan.span1 Char.isDigit)
  let exponent ← Scan.optional do
    discard (Scan.satisfy fun c => c == 'e' || c == 'E')
    discard (Scan.optional (Scan.satisfy fun c => c == '+' || c == '-'))
    Scan.span1 Char.isDigit
  let n := Text.numberOf 10 digits
  if fraction.isSome || exponent.isSome then return .other
  else if isNegative then
    return if n = 0 || n > Word.signedCount then .other else .int (-n)
  else return if n < Word.count then .int n else .other

/-- A record, unless the name of a field does not decode. -/
def recordOf (fields : List (Option String × Data)) : Data :=
  match fields.mapM fun (name, value) => name.map fun name => (name, value) with
  | some fields => .record fields
  | none => .other

/-- A value that nests at most `depth` deep. -/
def value : Nat → Scan Data
  | 0 => failure
  | depth + 1 => do
    match ← Scan.peek with
    | some 'n' => Scan.word "null"; return .null
    | some 't' => Scan.word "true"; return .flag true
    | some 'f' => Scan.word "false"; return .flag false
    | some '"' => return match ← text with
      | some text => .text text
      | none => .other
    | some '[' =>
      token (Scan.char '[')
      let items ← Scan.sepBy (token (value depth)) (token (Scan.char ','))
      Scan.char ']'
      return .list items
    | some '\x7b' =>
      token (Scan.char '\x7b')
      let fields ← Scan.sepBy (do
        let name ← token text
        token (Scan.char ':')
        return (name, ← token (value depth))) (token (Scan.char ','))
      Scan.char '\x7d'
      return recordOf fields
    | _ => number

/-- A document: one value with white space around it. -/
def read? (source : String) : Option Data :=
  Scan.ofText (do blanks; token (value (source.length + 1))) source

end SourceGate.Json
