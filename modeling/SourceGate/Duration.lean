/-! # Durations

A span of time in whole nanoseconds, so that no reading of a clock has to be rounded.
-/

namespace SourceGate

structure Duration where
  nanos : Nat
  deriving DecidableEq, Repr, Inhabited

namespace Duration

def ofMillis (n : Nat) : Duration := ⟨n * 1000000⟩

/-- The whole milliseconds in a duration. -/
def millis (d : Duration) : Nat := d.nanos / 1000000

@[simp] theorem millis_ofMillis (n : Nat) : (ofMillis n).millis = n := by
  simp [ofMillis, millis]

end Duration

end SourceGate
