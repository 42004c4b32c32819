import SourceGate.Script.Token
import SourceGate.Script.Token.Glyph

/-! # Numerals

Integers in four bases, floats and imaginary numbers. Every reader takes the offset of the end of
the text and the glyphs from the numeral on, and gives what follows it.
-/

namespace SourceGate.Script.Numeral

/-- The value of a digit, letters of either case counting from ten. -/
def digitValue (c : Char) : Nat :=
  if c.isDigit then c.toNat - '0'.toNat
  else if 'a' ≤ c ∧ c ≤ 'f' then c.toNat - 'a'.toNat + 10
  else c.toNat - 'A'.toNat + 10

/-- The digits of a base up to sixteen. -/
def isDigitOf (base : Nat) (c : Char) : Bool :=
  (c.isDigit || ('a' ≤ c && c ≤ 'f') || ('A' ≤ c && c ≤ 'F')) && digitValue c < base

/-- The number that a run of digits writes. -/
def value (base : Nat) (digits : List Char) : Nat :=
  digits.foldl (fun n c => n * base + digitValue c) 0

/-- The base that the letter after a leading zero announces. -/
def base? (c : Char) : Option Nat :=
  match c.toLower with
  | 'x' => some 16
  | 'o' => some 8
  | 'b' => some 2
  | _ => none

/-- An exponent that makes a float of the whole number in front of it: `e` before a digit, or before
a sign and a digit. -/
def atExponent : List Glyph → Bool
  | e :: rest =>
    e.char.toLower == 'e' &&
      match rest with
      | s :: after =>
        s.char.isDigit ||
          ((s.char == '+' || s.char == '-') && Glyph.nextIs Char.isDigit after)
      | [] => false
  | [] => false

/-- The part after a decimal point, the point included. -/
def fraction (text : List Glyph) : Except Fault (List Char × List Glyph) :=
  match text with
  | point :: rest =>
    if point.char != '.' then .ok ([], text)
    else if Glyph.nextIs (· == '_') rest then .error ⟨.misplacedUnderscore, point.start⟩
    else .ok (Glyph.digitRun Char.isDigit rest)
  | [] => .ok ([], [])

/-- An exponent with its sign; without one it is zero. Behind a decimal point every `e` opens an
exponent. -/
def exponent (last : Nat) (text : List Glyph) : Except Fault (Int × List Glyph) :=
  match text with
  | e :: rest =>
    if e.char.toLower != 'e' then .ok (0, text)
    else if Glyph.nextIs (· == '_') rest then .error ⟨.misplacedUnderscore, e.start⟩
    else
      let (negative, signed, digits) :=
        match rest with
        | s :: after => if s.char == '-' then (true, true, after)
          else if s.char == '+' then (false, true, after) else (false, false, rest)
        | [] => (false, false, rest)
      if signed && Glyph.nextIs (· == '_') digits then
        .error ⟨.misplacedUnderscore, Glyph.place last rest⟩
      else
        match Glyph.digitRun Char.isDigit digits with
        | ([], after) => .error ⟨.badDecimal, Glyph.place last after⟩
        | (run, after) => .ok ((if negative then -1 else 1) * (value 10 run : Int), after)
  | [] => .ok (0, [])

/-- Whether an imaginary unit follows, and what follows it. -/
def unit (text : List Glyph) : Bool × List Glyph :=
  match text with
  | j :: rest => if j.char.toLower == 'j' then (true, rest) else (false, text)
  | [] => (false, [])

/-- A numeral in base ten. -/
def decimal (last : Nat) (text : List Glyph) : Except Fault (TokenKind × List Glyph) := do
  let (whole, rest) := Glyph.digitRun Char.isDigit text
  if Glyph.nextIs (· == '.') rest || atExponent rest then
    let (places, rest) ← fraction rest
    let (power, rest) ← exponent last rest
    let number : Text.Decimal := ⟨value 10 (whole ++ places), power - places.length⟩
    match unit rest with
    | (true, after) => .ok (.imaginary number, after)
    | (false, after) => .ok (.float number, after)
  else
    match unit rest with
    | (true, after) => .ok (.imaginary ⟨value 10 whole, 0⟩, after)
    | (false, after) =>
      if Glyph.nextIs (· == '0') text && value 10 whole != 0 then
        .error ⟨.leadingZero, Glyph.place last after⟩
      else .ok (.integer (value 10 whole), after)

/-- The numeral that opens the text. -/
def read (last : Nat) (text : List Glyph) : Except Fault (TokenKind × List Glyph) :=
  match text with
  | zero :: letter :: rest =>
    match if zero.char == '0' then base? letter.char else none with
    | some base =>
      match Glyph.digitRun (isDigitOf base) rest with
      | ([], _) => .error ⟨.missingDigits, zero.start⟩
      | (run, after) => .ok (.integer (value base run), after)
    | none => decimal last text
  | _ => decimal last text

end SourceGate.Script.Numeral
