import SourceGate.Text.Hex
import SourceGate.Unicode.Name.Table

/-! # Characters by name

The names of the Unicode standard, version 16.0, with its aliases. Some names follow a rule, and the
others stand in tables. A name counts in capitals and small letters alike, and in no other spelling.
-/

namespace SourceGate.Unicode

namespace Name

/-- Names that end in the code point itself, in base 16. -/
structure Numbered where
  opening : String
  /-- The characters that bear such a name. -/
  ranges : List (Nat × Nat)
  /-- Zeros may stand before the code point, for five digits at most. -/
  allowsZeros : Bool
  deriving Repr, Inhabited

def numbered : List Numbered :=
  [⟨"CJK COMPATIBILITY IDEOGRAPH-", [(0xF900, 0xFA6D), (0xFA70, 0xFAD9), (0x2F800, 0x2FA1D)],
      false⟩,
    ⟨"CJK UNIFIED IDEOGRAPH-",
      [(0x3400, 0x4DBF), (0x4E00, 0x9FFF), (0x20000, 0x2A6DF), (0x2A700, 0x2B739),
        (0x2B740, 0x2B81D), (0x2B820, 0x2CEA1), (0x2CEB0, 0x2EBE0), (0x2EBF0, 0x2EE5D),
        (0x30000, 0x3134A), (0x31350, 0x323AF)], true⟩,
    ⟨"EGYPTIAN HIEROGLYPH-", [(0x13460, 0x143FA)], false⟩,
    ⟨"KHITAN SMALL SCRIPT CHARACTER-", [(0x18B00, 0x18CD5), (0x18CFF, 0x18CFF)], false⟩,
    ⟨"NUSHU CHARACTER-", [(0x1B170, 0x1B2FB)], false⟩]

/-- The code point at the end of a name. -/
def Numbered.code? (names : Numbered) (name : List Char) : Option Nat :=
  let digits := name.drop names.opening.length
  let code := Text.numberOf 16 digits
  if names.opening.toList.isPrefixOf name && !digits.isEmpty && digits.length ≤ 5 &&
      digits.all Text.isHexDigit && (names.allowsZeros || digits.head? != some '0') &&
      names.ranges.any (fun (low, high) => low ≤ code && code ≤ high) then some code
  else none

def initialSounds : List String :=
  ["G", "GG", "N", "D", "DD", "R", "M", "B", "BB", "S", "SS", "", "J", "JJ", "C", "K", "T", "P",
    "H"]

def medialSounds : List String :=
  ["A", "AE", "YA", "YAE", "EO", "E", "YEO", "YE", "O", "WA", "WAE", "OE", "YO", "U", "WEO", "WE",
    "WI", "YU", "EU", "YI", "I"]

def finalSounds : List String :=
  ["", "G", "GG", "GS", "N", "NJ", "NH", "D", "L", "LG", "LM", "LB", "LS", "LT", "LP", "LH", "M",
    "B", "BS", "S", "SS", "NG", "J", "C", "K", "T", "P", "H"]

/-- The sounds of a Hangul syllable, by its place among the syllables. -/
def sounds (place : Nat) : List Char :=
  let sound (of : List String) (n : Nat) := (of[n]?.getD "").toList
  sound initialSounds (place / 588) ++ sound medialSounds (place % 588 / 28) ++
    sound finalSounds (place % 28)

/-- The Hangul syllable with a name. -/
def syllable? (name : List Char) : Option Nat :=
  let opening := "HANGUL SYLLABLE ".toList
  if opening.isPrefixOf name then
    ((List.range 11172).find? (sounds · == name.drop opening.length)).map (0xAC00 + ·)
  else none

/-- The code point with a name in capitals. -/
def code? (name : List Char) : Option Nat :=
  syllable? name <|> numbered.findSome? (·.code? name) <|> listed? name

end Name

/-- The character with a name. -/
def named? (name : List Char) : Option Char :=
  (Name.code? (name.map Char.toUpper)).map Char.ofNat

end SourceGate.Unicode
