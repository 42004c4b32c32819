/-! # Scanning text

A scan takes a value off the front of a text, or fails. Alternatives are tried in order, each from
the same place.
-/

namespace SourceGate

abbrev Scan (α : Type) := StateT (List Char) Option α

namespace Scan

variable {α β : Type}

/-- What is left of the text. -/
def rest : Scan (List Char) := get

/-- The next character, left where it is. -/
def peek : Scan (Option Char) := do return (← rest).head?

/-- The next character, if it is of a class. -/
def satisfy (p : Char → Bool) : Scan Char := fun
  | c :: cs => if p c then some (c, cs) else none
  | [] => none

def char (c : Char) : Scan Unit := do discard (satisfy (· == c))

/-- A fixed piece of text. -/
def word (piece : String) : Scan Unit := piece.toList.forM char

/-- The characters of a class at the front, as many as there are. -/
def span (p : Char → Bool) : Scan (List Char) := fun cs => some (cs.takeWhile p, cs.dropWhile p)

def skip (p : Char → Bool) : Scan Unit := do discard (span p)

/-- The characters of a class at the front, at least one. -/
def span1 (p : Char → Bool) : Scan (List Char) := do
  let found ← span p
  if found.isEmpty then failure else return found

/-- Exactly `n` characters of a class. -/
def exactly (n : Nat) (p : Char → Bool) : Scan (List Char) := (List.replicate n p).mapM satisfy

def optional (scan : Scan α) : Scan (Option α) := (some <$> scan) <|> pure none

/-- At most `fuel` items. The scan ends where no item follows, or one that takes nothing. -/
def manyUpTo (item : Scan α) : Nat → Scan (List α)
  | 0 => return []
  | fuel + 1 => fun cs =>
    match item cs with
    | some (a, cs') =>
      if cs'.length < cs.length then
        (manyUpTo item fuel cs').map fun (as, cs) => (a :: as, cs)
      else some ([], cs)
    | none => some ([], cs)

/-- As many items as there are. -/
def many (item : Scan α) : Scan (List α) := fun cs => manyUpTo item cs.length cs

/-- Items with a separator between them, at least one. -/
def sepBy1 (item : Scan α) (separator : Scan β) : Scan (List α) := do
  let first ← item
  return first :: (← many (do discard separator; item))

/-- Items with a separator between them. -/
def sepBy (item : Scan α) (separator : Scan β) : Scan (List α) :=
  sepBy1 item separator <|> pure []

/-- Nothing is left. -/
def finish : Scan Unit := fun
  | [] => some ((), [])
  | _ => none

/-- A scan of a whole text. -/
def ofText (scan : Scan α) (text : String) : Option α :=
  ((do let a ← scan; finish; return a : Scan α).run text.toList).map (·.1)

end Scan

/-- The character of a code point, unless it is a surrogate or beyond the last. -/
def charOf? (n : Nat) : Option Char := if n.isValidChar then some (Char.ofNat n) else none

end SourceGate
