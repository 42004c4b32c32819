import SourceGate.Data.Toml.Text
import SourceGate.Text.Decimal
import SourceGate.Word

/-! # Numbers and times of TOML -/

namespace SourceGate.Toml

/-- Digits with single underscores between them. -/
def digits (p : Char → Bool) : Scan (List Char) := do
  let parts ← Scan.sepBy1 (Scan.span1 p) (Scan.char '_')
  return parts.flatten

/-- Whether a minus stands in front. -/
def sign : Scan Bool := do
  match ← Scan.optional (Scan.satisfy fun c => c == '+' || c == '-') with
  | some c => return c == '-'
  | none => return false

/-- Decimal digits without a leading zero. -/
def wholeDigits : Scan (List Char) := do
  if (← Scan.peek) == some '0' then
    Scan.char '0'
    return ['0']
  else digits Char.isDigit

/-- An integer of 64 bits. -/
def intOf (n : Int) : Scan Data :=
  if -(Word.signedCount : Int) ≤ n && n < Word.signedCount then return .int n else failure

def based (opening : String) (base : Nat) (p : Char → Bool) : Scan Data := do
  Scan.word opening
  intOf (Text.numberOf base (← digits p))

def decimalInt : Scan Data := do
  let isNegative ← sign
  let n : Int := Text.numberOf 10 (← wholeDigits)
  intOf (if isNegative then -n else n)

def int : Scan Data :=
  based "0x" 16 Text.isHexDigit <|> based "0o" 8 (fun c => '0' ≤ c && c ≤ '7') <|>
    based "0b" 2 (fun c => c == '0' || c == '1') <|> decimalInt

def exponent : Scan Int := do
  discard (Scan.satisfy fun c => c == 'e' || c == 'E')
  let isNegative ← sign
  let n : Int := Text.numberOf 10 (← digits Char.isDigit)
  return if isNegative then -n else n

/-- A fraction is a number at double precision; one beyond the greatest of them is refused. -/
def fraction : Scan Data := do
  let isNegative ← sign
  let whole ← wholeDigits
  let places ← Scan.optional (do Scan.char '.'; digits Char.isDigit)
  let power ← Scan.optional exponent
  if places.isNone && power.isNone then failure
  let places := places.getD []
  let size : Text.Decimal :=
    ⟨Text.numberOf 10 (whole ++ places), (power.getD 0) - (places.length : Int)⟩
  if !isNegative && size.written == "inf" then failure else return .other

/-- `inf` and `nan`. -/
def special : Scan Data := do
  discard sign
  Scan.word "inf" <|> Scan.word "nan"
  return .other

/-- Two digits of a number in a range. -/
def two (low high : Nat) : Scan Nat := do
  let n := Text.numberOf 10 (← Scan.exactly 2 Char.isDigit)
  if low ≤ n && n ≤ high then return n else failure

/-- The days of a month. -/
def daysIn (year month : Nat) : Nat :=
  if month = 2 then
    if year % 4 = 0 && (year % 100 != 0 || year % 400 = 0) then 29 else 28
  else if [4, 6, 9, 11].contains month then 30
  else 31

def date : Scan Unit := do
  let year := Text.numberOf 10 (← Scan.exactly 4 Char.isDigit)
  Scan.char '-'
  let month ← two 1 12
  Scan.char '-'
  discard (two 1 (daysIn year month))

def time : Scan Unit := do
  discard (two 0 23)
  Scan.char ':'
  discard (two 0 59)
  Scan.char ':'
  discard (two 0 60)
  discard (Scan.optional (do Scan.char '.'; Scan.span1 Char.isDigit))

def offset : Scan Unit :=
  (do discard (Scan.satisfy fun c => c == 'Z' || c == 'z')) <|> do
    discard (Scan.satisfy fun c => c == '+' || c == '-')
    discard (two 0 23)
    Scan.char ':'
    discard (two 0 59)

/-- A date, a time, or a date with a time and maybe its offset. -/
def moment : Scan Data := do
  time <|> do
    date
    discard (Scan.optional do
      discard (Scan.satisfy fun c => c == 'T' || c == 't' || c == ' ')
      time
      discard (Scan.optional offset))
  return .moment

def flag : Scan Data :=
  (do Scan.word "true"; return .flag true) <|> do Scan.word "false"; return .flag false

def scalar : Scan Data :=
  (do return .text (← text)) <|> moment <|> fraction <|> special <|> int <|> flag

end SourceGate.Toml
