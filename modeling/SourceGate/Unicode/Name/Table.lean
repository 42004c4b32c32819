import SourceGate.Text.Hex
import SourceGate.Unicode.Name.Table.AncientScripts
import SourceGate.Unicode.Name.Table.EastAsianScripts
import SourceGate.Unicode.Name.Table.EuropeanScripts
import SourceGate.Unicode.Name.Table.FurtherScripts
import SourceGate.Unicode.Name.Table.Hieroglyphs
import SourceGate.Unicode.Name.Table.Logograms
import SourceGate.Unicode.Name.Table.Mathematics
import SourceGate.Unicode.Name.Table.Operators
import SourceGate.Unicode.Name.Table.Pictographs
import SourceGate.Unicode.Name.Table.Punctuation
import SourceGate.Unicode.Name.Table.SouthernScripts

/-! # Tables of character names

A table lists names in the order of their characters. A small letter opens a name and tells how many
words it shares with the name before it: none for `a`, one for `b`, and so on; the other words
follow. A name belongs to the character after that of the name before it, unless `@` and a code
point stand between the two. A character with several names has an entry for each.
-/

namespace SourceGate.Unicode.Name

/-- A mark of a table, and the text up to the next one. -/
structure Piece where
  mark : Char
  text : List Char

def isMark (c : Char) : Bool := c == '@' || c.isLower

def pieces (table : List Char) : List Piece :=
  (table.foldr
    (fun c (held, done) => if isMark c then ([], ⟨c, held⟩ :: done) else (c :: held, done))
    ([], [])).2

/-- Splits a text at the characters with a property. Two of them side by side have an empty part
between them. -/
def splitAt (isGap : Char → Bool) (text : List Char) : List (List Char) :=
  let (first, others) := text.foldr
    (fun c (part, done) => if isGap c then ([], part :: done) else (c :: part, done)) ([], [])
  first :: others

/-- The words in a piece of a table; lines are broken between words. -/
def words (text : List Char) : List (List Char) :=
  (splitAt (fun c => c == ' ' || c == '\n') text).filter (!·.isEmpty)

/-- Looks for a name, given by its words, from a place in a table where the next name belongs to
`code` and follows a name with the words `before`. -/
def seek (wanted : List (List Char)) : Nat → List (List Char) → List Piece → Option Nat
  | _, _, [] => none
  | code, before, piece :: rest =>
    if piece.mark == '@' then seek wanted (Text.numberOf 16 piece.text) before rest
    else
      let name := before.take (piece.mark.toNat - 'a'.toNat) ++ words piece.text
      if name == wanted then some code else seek wanted (code + 1) name rest

/-- All tables, in the order of their characters. -/
def tables : List String :=
  [europeanScripts, southernScripts, furtherScripts, punctuation, operators, eastAsianScripts,
    ancientScripts, hieroglyphs, logograms, mathematics, pictographs]

/-- The code point with a name in a table. -/
def listed? (name : List Char) : Option Nat :=
  let wanted := splitAt (· == ' ') name
  tables.findSome? fun table => seek wanted 0 [] (pieces table.toList)

end SourceGate.Unicode.Name
