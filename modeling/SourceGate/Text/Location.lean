/-! # Places in a source text

A reader meets places as byte offsets and a person as line and column. Only `\n` starts a line;
columns count characters. An offset past the end is taken as the end, and an offset inside a
character is taken to the head of its line.
-/

namespace SourceGate

/-- Line and column, both counted from one. -/
structure Location where
  line : Nat
  column : Nat
  deriving DecidableEq, Repr, Inhabited

namespace Location

/-- Where every text starts. -/
def first : Location := ⟨1, 1⟩

/-- The place after a character that stands at `here`. -/
def after (here : Location) (c : Char) : Location :=
  if c = '\n' then ⟨here.line + 1, 1⟩ else ⟨here.line, here.column + 1⟩

/-- The written form `line:column`. -/
def render (here : Location) : String := s!"{here.line}:{here.column}"

end Location

/-- The place of every byte of a text and of its end, by offset. -/
structure LineIndex where
  places : Array Location
  nonempty : 0 < places.size

namespace LineIndex

/-- One place for each byte of the text, and one for its end. -/
def placesFrom (here : Location) : List Char → List Location
  | [] => [here]
  | c :: rest =>
    here :: (List.replicate (c.utf8Size - 1) ⟨here.line, 1⟩ ++ placesFrom (here.after c) rest)

theorem placesFrom_ne_nil (here : Location) (text : List Char) : placesFrom here text ≠ [] := by
  cases text <;> simp [placesFrom]

/-- The index of a text. -/
def ofText (text : List Char) : LineIndex where
  places := (placesFrom .first text).toArray
  nonempty := by simpa using List.length_pos_iff.2 (placesFrom_ne_nil .first text)

/-- The place of a byte offset. -/
def locate (index : LineIndex) (offset : Nat) : Location :=
  have : min offset (index.places.size - 1) < index.places.size := by
    have := index.nonempty
    omega
  index.places[min offset (index.places.size - 1)]

end LineIndex

end SourceGate
