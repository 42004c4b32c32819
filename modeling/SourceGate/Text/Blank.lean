/-! # Blank characters

The characters with the Unicode property `White_Space`, and trimming by them. The class is wider
than `Char.isWhitespace`, which knows ASCII alone.
-/

namespace SourceGate.Text

/-- The Unicode property `White_Space`. -/
def isBlank (c : Char) : Bool :=
  let n := c.toNat
  (0x9 ≤ n && n ≤ 0xD) || n == 0x20 || n == 0x85 || n == 0xA0 || n == 0x1680 ||
    (0x2000 ≤ n && n ≤ 0x200A) || n == 0x2028 || n == 0x2029 || n == 0x202F || n == 0x205F ||
    n == 0x3000

theorem isBlank_of_isWhitespace {c : Char} (h : c.isWhitespace = true) : isBlank c = true := by
  simp only [Char.isWhitespace, Bool.or_eq_true, decide_eq_true_eq] at h
  rcases h with ((h | h) | h) | h <;> subst h <;> decide

/-- The text without the blanks that open it. -/
def trimLeft (text : List Char) : List Char := text.dropWhile isBlank

/-- The text without the blanks that open it or close it. -/
def trim (text : List Char) : List Char := (trimLeft (trimLeft text).reverse).reverse

/-- `trim` on strings. -/
def trimmed (text : String) : String := String.ofList (trim text.toList)

/-- Whether only blanks are in the text. -/
def allBlank (text : List Char) : Bool := text.all isBlank

end SourceGate.Text
