import SourceGate.Data.Basic
import SourceGate.Text.Hex

/-! # Writing JSON

Two blanks for each level, one item on a line; an empty list or record stays on its line.
-/

namespace SourceGate.Json

/-- A character inside quotes. -/
def escaped (c : Char) : List Char :=
  match c with
  | '"' => ['\\', '"']
  | '\\' => ['\\', '\\']
  | '\x08' => ['\\', 'b']
  | '\x0c' => ['\\', 'f']
  | '\n' => ['\\', 'n']
  | '\r' => ['\\', 'r']
  | '\t' => ['\\', 't']
  | c =>
    let n := c.toNat
    if n < 0x20 then ['\\', 'u', '0', '0', Text.hexDigit (n / 16), Text.hexDigit (n % 16)] else [c]

def quoted (text : String) : String :=
  String.ofList ('"' :: text.toList.flatMap escaped ++ ['"'])

/-- A line break and the blanks of a level. -/
def newline (level : Nat) : String := "\n" ++ String.ofList (List.replicate (2 * level) ' ')

/-- Items between brackets, each on a line of its own. -/
def bracketed (level : Nat) (opening closing : String) (items : List String) : String :=
  if items.isEmpty then opening ++ closing
  else
    opening ++ newline (level + 1) ++ (String.intercalate ("," ++ newline (level + 1)) items) ++
      newline level ++ closing

mutual

def write (level : Nat) : Data → String
  | .null | .moment | .other => "null"
  | .flag value => if value then "true" else "false"
  | .int value => toString value
  | .text value => quoted value
  | .list items => bracketed level "[" "]" (writeItems (level + 1) items)
  | .record fields => bracketed level "\x7b" "\x7d" (writeFields (level + 1) fields)

def writeItems (level : Nat) : List Data → List String
  | [] => []
  | item :: rest => write level item :: writeItems level rest

def writeFields (level : Nat) : List (String × Data) → List String
  | [] => []
  | (name, value) :: rest => (quoted name ++ ": " ++ write level value) :: writeFields level rest

end

end SourceGate.Json
