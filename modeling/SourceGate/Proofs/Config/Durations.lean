import SourceGate.Proofs.Config.Loaded

/-! # Durations that are let through

A duration is checked by its whole milliseconds, and by what a word of 64 bits holds of these. So
its least value is kept to and its greatest is not: a duration may be longer by a part of a
millisecond, or by any number of turns of the word. Durations that are made of a word of
milliseconds, as those that are loaded, are neither.
-/

namespace SourceGate

namespace Duration

/-- A duration is neither shorter nor longer than so many milliseconds. -/
structure IsBetween (d : Duration) (low high : Nat) : Prop where
  low_le : (ofMillis low).nanos ≤ d.nanos
  le_high : d.nanos ≤ (ofMillis high).nanos

/-- What the check of a duration does not see: that its milliseconds turn the word over, or that the
last of them is a part of one. -/
inductive Slips (d : Duration) (b : Bounds) : Prop where
  | turned (h : Word.count ≤ d.millis)
  | broken (last : d.millis = b.high) (longer : (ofMillis b.high).nanos < d.nanos)

/-- A duration keeps to bounds but for turns of the word and a part of a millisecond. -/
def IsBetweenTurned (d : Duration) (b : Bounds) : Prop :=
  ∃ turns, (ofMillis (b.low + turns * Word.count)).nanos ≤ d.nanos ∧
    d.nanos < (ofMillis (b.high + turns * Word.count + 1)).nanos

variable {d : Duration} {b : Bounds}

theorem admits_millisWord_iff (small : b.high < Word.count) :
    b.Admits (Config.millisWord d) ↔ d.IsBetweenTurned b := by
  simp only [Config.millisWord, millis, IsBetweenTurned, ofMillis, Word.count] at *
  constructor
  · rintro ⟨low, high⟩
    refine ⟨d.nanos / 1000000 / 0x10000000000000000, ?_, ?_⟩ <;> omega
  · rintro ⟨turns, low, high⟩
    constructor <;> omega

theorem low_le_of_admits (h : b.Admits (Config.millisWord d)) :
    (ofMillis b.low).nanos ≤ d.nanos := by
  have low := h.low_le
  simp only [Config.millisWord, millis, ofMillis, Word.count] at *
  omega

theorem le_high_iff_of_admits (small : b.high < Word.count)
    (h : b.Admits (Config.millisWord d)) :
    d.nanos ≤ (ofMillis b.high).nanos ↔ ¬ d.Slips b := by
  have high := h.le_high
  constructor
  · rintro within (turned | ⟨-, longer⟩)
    · simp only [millis, ofMillis, Word.count] at *
      omega
    · omega
  · intro exactly
    by_contra longer
    by_cases turned : Word.count ≤ d.millis
    · exact exactly (.turned turned)
    · refine exactly (.broken ?_ (by omega))
      simp only [Config.millisWord, millis, ofMillis, Word.count] at *
      omega

/-- A whole number of milliseconds that fits a word is seen by the check as it is. -/
theorem FitsMillis.not_slips (fits : d.FitsMillis) : ¬ d.Slips b := by
  obtain ⟨n, small, rfl⟩ := fits
  rintro (turned | ⟨last, longer⟩)
  · rw [millis_ofMillis] at turned
    omega
  · rw [millis_ofMillis] at last
    rw [last] at longer
    exact Nat.lt_irrefl _ longer

end Duration

namespace Config

variable {c c' : Config}

/-- The durations of a configuration, each with its bounds. -/
def durations (c : Config) : List (Bounds × Duration) :=
  [(.deadline, c.deadline), (.pollInterval, c.pollInterval), (.grace, c.grace)]

/-- Every duration is in its bounds, to the nanosecond. -/
def KeepsBounds (c : Config) : Prop :=
  ∀ part ∈ c.durations, part.2.IsBetween part.1.low part.1.high

theorem forall_mem_durations {P : Bounds × Duration → Prop} :
    (∀ part ∈ c.durations, P part) ↔
      P (.deadline, c.deadline) ∧ P (.pollInterval, c.pollInterval) ∧ P (.grace, c.grace) := by
  simp [durations]

/-- The greatest value of every duration is far from a turn of the word. -/
theorem high_lt_count : ∀ part ∈ c.durations, part.1.high < Word.count :=
  forall_mem_durations.2 ⟨(by decide : Bounds.deadline.high < Word.count),
    (by decide : Bounds.pollInterval.high < Word.count),
    (by decide : Bounds.grace.high < Word.count)⟩

theorem InBounds.admits (h : c.InBounds) :
    ∀ part ∈ c.durations, part.1.Admits (millisWord part.2) :=
  forall_mem_durations.2 ⟨h.deadline, h.pollInterval, h.grace⟩

theorem FitsMillis.durations (h : c.FitsMillis) : ∀ part ∈ c.durations, part.2.FitsMillis :=
  forall_mem_durations.2 ⟨h.deadline, h.pollInterval, h.grace⟩

theorem inBounds_iff : c.InBounds ↔ (∀ part ∈ c.durations, part.2.IsBetweenTurned part.1) ∧
    c.pollInterval.nanos ≤ c.deadline.nanos ∧ Bounds.memoryCeiling.Admits c.memoryCeilingMb ∧
    Bounds.maxPending.Admits c.maxPending := by
  have words : (∀ part ∈ c.durations, part.2.IsBetweenTurned part.1) ↔
      ∀ part ∈ c.durations, part.1.Admits (millisWord part.2) :=
    forall₂_congr fun part hp => (Duration.admits_millisWord_iff (high_lt_count part hp)).symm
  rw [words]
  constructor
  · exact fun h => ⟨h.admits, h.poll_le_deadline, h.memoryCeiling, h.maxPending⟩
  · rintro ⟨admits, order, ceiling, pending⟩
    obtain ⟨deadline, poll, grace⟩ := forall_mem_durations.1 admits
    exact ⟨deadline, ceiling, poll, grace, pending, order⟩

theorem keepsBounds_iff (h : c.InBounds) :
    c.KeepsBounds ↔ ∀ part ∈ c.durations, ¬ part.2.Slips part.1 := by
  refine forall₂_congr fun part hp => ?_
  have admits := h.admits part hp
  rw [← Duration.le_high_iff_of_admits (high_lt_count part hp) admits]
  exact ⟨fun between => between.le_high, fun high => ⟨Duration.low_le_of_admits admits, high⟩⟩

/-- What the check of a configuration says about the durations that it lets through. -/
structure LetsThrough (c : Config) : Prop where
  passes_iff : (∃ c', c.validate = .ok c') ↔
    (∀ part ∈ c.durations, part.2.IsBetweenTurned part.1) ∧
      c.pollInterval.nanos ≤ c.deadline.nanos ∧ Bounds.memoryCeiling.Admits c.memoryCeilingMb ∧
      Bounds.maxPending.Admits c.maxPending ∧ ∃ policy, c.policy = .ok policy
  kept : ∀ {c'}, c.validate = .ok c' → c'.durations = c.durations
  low_le : ∀ {c'}, c.validate = .ok c' →
    ∀ part ∈ c'.durations, (Duration.ofMillis part.1.low).nanos ≤ part.2.nanos
  poll_le_deadline : ∀ {c'}, c.validate = .ok c' → c'.pollInterval.nanos ≤ c'.deadline.nanos
  /-- The bounds are enforced just where nothing slips through. -/
  keepsBounds_iff : ∀ {c'}, c.validate = .ok c' →
    (c'.KeepsBounds ↔ ∀ part ∈ c'.durations, ¬ part.2.Slips part.1)
  whole : ∀ {c'}, c.validate = .ok c' → c.FitsMillis → c'.KeepsBounds

theorem InBounds.withLists (h : c.InBounds) (policy : Policy) : (c.withLists policy).InBounds :=
  ⟨h.deadline, h.memoryCeiling, h.pollInterval, h.grace, h.maxPending, h.poll_le_deadline⟩

theorem exists_validate_iff :
    (∃ c', c.validate = .ok c') ↔ c.InBounds ∧ ∃ policy, c.policy = .ok policy := by
  simp only [validate_eq_ok_iff]
  exact ⟨fun ⟨_, bounded, policy, made, _⟩ => ⟨bounded, policy, made⟩,
    fun ⟨bounded, policy, made⟩ => ⟨_, bounded, policy, made, rfl⟩⟩

theorem validate_lets_through (c : Config) : c.LetsThrough := by
  have kept {c' : Config} (h : c.validate = .ok c') : c'.InBounds ∧ c'.durations = c.durations := by
    obtain ⟨bounded, policy, -, rfl⟩ := validate_eq_ok_iff.1 h
    exact ⟨bounded.withLists policy, rfl⟩
  refine ⟨?_, fun h => (kept h).2, fun h part hp => ?_, fun h => (kept h).1.poll_le_deadline,
    fun h => keepsBounds_iff (kept h).1, fun h fits => ?_⟩
  · rw [exists_validate_iff, inBounds_iff]
    simp only [and_assoc]
  · exact Duration.low_le_of_admits ((kept h).1.admits part hp)
  · refine (keepsBounds_iff (kept h).1).2 fun part hp => ?_
    rw [(kept h).2] at hp
    exact (fits.durations part hp).not_slips

/-- A deadline that 64 bits of seconds and a part of one can hold passes the check and is kept, and
is not in its bounds. -/
structure PassesOverlong (deadline : Duration) : Prop where
  fits : deadline.nanos < 2 ^ 64 * 1000000000
  passes : ∃ c', ({ standard with deadline } : Config).validate = .ok c' ∧
    c'.deadline = deadline ∧ ¬ c'.KeepsBounds

/-- A deadline of 600000 milliseconds and a nanosecond passes, and so does one of ten milliseconds
and a turn of the word. -/
theorem overlong_deadlines_pass :
    PassesOverlong ⟨600000000001⟩ ∧ PassesOverlong (.ofMillis (2 ^ 64 + 10)) := by
  have made : standard.policy = .ok .standard := by decide +kernel
  have kept : standard.InBounds :=
    ⟨⟨by decide, by decide⟩, ⟨by decide, by decide⟩, ⟨by decide, by decide⟩,
      ⟨by decide, by decide⟩, ⟨by decide, by decide⟩, by decide⟩
  have passes {deadline : Duration} (fits : deadline.nanos < 2 ^ 64 * 1000000000)
      (admits : Bounds.deadline.Admits (millisWord deadline))
      (poll : standard.pollInterval.nanos ≤ deadline.nanos)
      (long : (Duration.ofMillis 600000).nanos < deadline.nanos) : PassesOverlong deadline := by
    have bounded : ({ standard with deadline } : Config).InBounds :=
      ⟨admits, kept.memoryCeiling, kept.pollInterval, kept.grace, kept.maxPending, poll⟩
    refine ⟨fits, _, validate_eq_ok_iff.2 ⟨bounded, .standard, made, rfl⟩, rfl, fun keeps => ?_⟩
    exact Nat.not_le.2 long (forall_mem_durations.1 keeps).1.le_high
  constructor
  · exact passes (by decide) ⟨by decide, by decide⟩ (by decide) (by decide)
  · exact passes (by decide) ⟨by decide, by decide⟩ (by decide) (by decide)

end Config

end SourceGate
