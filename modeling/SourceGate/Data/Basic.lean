/-! # Data

What a settings file may hold and a report is written as.
-/

namespace SourceGate

inductive Data where
  | null
  | flag (value : Bool)
  | int (value : Int)
  | text (value : String)
  | list (items : List Data)
  /-- Fields in their order; a name may stand more than once. -/
  | record (fields : List (String × Data))
  /-- A date or a time. -/
  | moment
  /-- A value that no setting can have: a fraction, or text that does not decode. -/
  | other
  deriving Repr, Inhabited

namespace Data

def ofTexts (texts : List String) : Data := .list (texts.map .text)

def ofNat (n : Nat) : Data := .int n

/-- A field that is left out where there is no value. -/
def optional (name : String) (value : Option Data) : List (String × Data) :=
  value.toList.map fun v => (name, v)

end Data

end SourceGate
