/-! # Tables of code points -/

namespace SourceGate.Unicode

/-- Closed ranges of code points in increasing order. -/
abbrev Ranges := Array (Nat × Nat)

/-- Whether a character lies in one of the ranges. -/
def Ranges.holds (ranges : Ranges) (c : Char) : Bool :=
  ranges.any fun (low, high) => low ≤ c.toNat && c.toNat ≤ high

end SourceGate.Unicode
