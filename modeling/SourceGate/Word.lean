/-! # Words of 64 bits

How far the numbers go that a word of 64 bits holds.
-/

namespace SourceGate.Word

/-- The number of values of a word: `2 ^ 64`. -/
def count : Nat := 0x10000000000000000

/-- The number of values that are not negative in a word with a sign: `2 ^ 63`. -/
def signedCount : Nat := 0x8000000000000000

end SourceGate.Word
