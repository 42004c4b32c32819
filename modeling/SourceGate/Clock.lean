import SourceGate.Duration
import SourceGate.Word

/-! # The clock

A clock counts the time since it was started and holds its seconds in a word with a sign. A duration
can be added to what it shows only if it can hold the sum.
-/

namespace SourceGate

/-- The first time that a clock cannot hold. -/
def clockEnd : Duration := ⟨Word.signedCount * 1000000000⟩

/-- A time that a clock shows before half of the times it can hold have passed. -/
structure Instant where
  elapsed : Duration
  early : 2 * elapsed.nanos < clockEnd.nanos
  deriving DecidableEq

namespace Instant

/-- What a clock shows when it is started. -/
def start : Instant := ⟨⟨0⟩, by decide⟩

instance : Inhabited Instant := ⟨start⟩

/-- Whether the clock can hold the time that is `span` after now. -/
def canAdd (now : Instant) (span : Duration) : Bool :=
  decide (now.elapsed.nanos + span.nanos < clockEnd.nanos)

end Instant

namespace Duration

/-- A duration of at most half the time of a clock, which can be added to whatever it shows. -/
def IsBrief (d : Duration) : Prop := 2 * d.nanos ≤ clockEnd.nanos

/-- A duration that can be added to nothing that a clock shows. -/
def IsEndless (d : Duration) : Prop := clockEnd.nanos ≤ d.nanos

instance (d : Duration) : Decidable d.IsBrief := inferInstanceAs (Decidable (_ ≤ _))

instance (d : Duration) : Decidable d.IsEndless := inferInstanceAs (Decidable (_ ≤ _))

variable {span : Duration}

theorem isBrief_iff : span.IsBrief ↔ ∀ now : Instant, now.canAdd span = true := by
  simp only [IsBrief, Instant.canAdd, decide_eq_true_eq]
  constructor
  · intro brief now
    have early := now.early
    omega
  · intro always
    have even : clockEnd.nanos % 2 = 0 := by decide
    have positive : 0 < clockEnd.nanos := by decide
    have last := always ⟨⟨clockEnd.nanos / 2 - 1⟩, show 2 * (clockEnd.nanos / 2 - 1) < _ by omega⟩
    dsimp only at last
    omega

theorem isEndless_iff : span.IsEndless ↔ ∀ now : Instant, now.canAdd span = false := by
  simp only [IsEndless, Instant.canAdd, decide_eq_false_iff_not, Nat.not_lt]
  constructor
  · exact fun endless now => Nat.le_add_left_of_le endless
  · intro never
    simpa [Instant.start] using never .start

theorem IsBrief.canAdd (brief : span.IsBrief) (now : Instant) : now.canAdd span = true :=
  isBrief_iff.1 brief now

theorem not_isBrief {now : Instant} (overrun : now.canAdd span = false) : ¬ span.IsBrief :=
  fun brief => by cases overrun.symm.trans (brief.canAdd now)

theorem not_isEndless {now : Instant} (inTime : now.canAdd span = true) : ¬ span.IsEndless :=
  fun endless => by cases inTime.symm.trans (isEndless_iff.1 endless now)

end Duration

end SourceGate
