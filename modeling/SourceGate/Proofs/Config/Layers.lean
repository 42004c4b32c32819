import Mathlib
import SourceGate.Config.Load
import SourceGate.Proofs.Data.Words
import SourceGate.Proofs.Policy.Tables

/-! # The numbers of layered settings

A number that a settings file or a variable sets fits a word, so the durations of a configuration
are whole milliseconds that the check reads back exactly, whichever layer each of them is from.
-/

namespace SourceGate

open Data

variable {c : Config} {s : Settings} {format : SettingsFormat}

namespace Settings

/-- The numbers that a layer may set. -/
def numbers (s : Settings) : List (Option Nat) :=
  [s.deadlineMs, s.memoryCeilingMb, s.pollIntervalMs, s.graceMs, s.maxPending]

/-- Every number that is set is less than the number of words. -/
def FitWords (s : Settings) : Prop := ∀ number ∈ s.numbers, ∀ n ∈ number, n < Word.count

theorem fitWords_none : none.FitWords := by simp [FitWords, numbers, none]

/-! ## A settings file -/

theorem fitsWords_of_fields? {names : List String} {d : Data} {values : List (Option Data)}
    (fits : d.FitsWords) (h : fields? format names d = some values) :
    ∀ value ∈ values, ∀ d ∈ value, d.FitsWords := by
  intro value among d is
  cases is
  unfold fields? at h
  split at h
  · next fields =>
    obtain ⟨name, -, found⟩ := exists_of_mem_mapM h among
    split at found
    · cases found
    · cases found
    · next alone =>
      cases found
      have member : _ ∈ fields.filter (·.1 == name) := alone ▸ List.mem_singleton_self _
      exact fitsWords_record.1 fits _ (List.mem_filter.1 member).1
    · cases found
  · next items =>
    split at h
    · cases h
    · cases h
      obtain ⟨item, taken, same⟩ := List.mem_map.1 among
      split at same
      · cases same
      · cases same
        exact fitsWords_list.1 fits _ (List.mem_of_mem_take taken)
  · cases h
    obtain ⟨name, -, same⟩ := List.mem_map.1 among
    cases same
  · cases h

theorem fitsWords_of_group? {names : List String} {section? : Option Data}
    {values : List (Option Data)} (fits : ∀ d ∈ section?, d.FitsWords)
    (h : group? format names section? = some values) :
    ∀ value ∈ values, ∀ d ∈ value, d.FitsWords := by
  cases section? with
  | none =>
    cases h
    simp
  | some d => exact fitsWords_of_fields? (fits d rfl) h

theorem lt_of_read?_nat? {value : Option Data} {number : Option Nat}
    (fits : ∀ d ∈ value, d.FitsWords) (h : read? nat? value = some number) :
    ∀ n ∈ number, n < Word.count := by
  rintro n ⟨⟩
  cases value with
  | none => cases h
  | some d =>
    obtain ⟨_, read, ⟨⟩⟩ := Option.map_eq_some_iff.1 h
    unfold nat? at read
    split at read
    · next i =>
      split at read
      · cases read
        have : i < Word.count := fits _ rfl i .int
        omega
      · cases read
    · cases read

theorem fitWords_of_ofData? {d : Data} {name : Option String} (fits : d.FitsWords)
    (h : ofData? format d = some (s, name)) : s.FitWords := by
  unfold ofData? at h
  simp only [Option.bind_eq_bind, Option.bind_eq_some_iff] at h
  obtain ⟨sections, found, h⟩ := h
  have fitting := fitsWords_of_fields? fits found
  split at h
  · next policy limits concurrency =>
    simp only [Option.bind_eq_some_iff] at h
    obtain ⟨lists, -, limited, inLimits, shared, inConcurrency, h⟩ := h
    have ofLimits := fitsWords_of_group? (fitting limits (by simp)) inLimits
    have ofConcurrency := fitsWords_of_group? (fitting concurrency (by simp)) inConcurrency
    split at h
    · next allowed forbidden deadline ceiling poll grace filter pending =>
      simp only [List.forall_mem_cons] at ofLimits ofConcurrency
      obtain ⟨fitDeadline, fitCeiling, fitPoll, fitGrace, -⟩ := ofLimits
      simp only [Option.bind_eq_some_iff] at h
      obtain ⟨_, _, _, _, deadlineMs, readDeadline, ceilingMb, readCeiling, pollMs, readPoll,
        graceMs, readGrace, pendings, readPending, _, _, ⟨⟩⟩ := h
      simp only [FitWords, numbers, List.forall_mem_cons]
      exact ⟨lt_of_read?_nat? fitDeadline readDeadline, lt_of_read?_nat? fitCeiling readCeiling,
        lt_of_read?_nat? fitPoll readPoll, lt_of_read?_nat? fitGrace readGrace,
        lt_of_read?_nat? ofConcurrency.1 readPending, by simp⟩
    · cases h
  · cases h

theorem fitsWords_of_read? {source : String} {d : Data} (h : format.read? source = some d) :
    d.FitsWords := by
  cases format with
  | json => exact Json.fitsWords_of_read? h
  | toml => exact Toml.fitsWords_of_read? h

theorem fitWords_of_ofFile {path source : String} (h : ofFile path source = .ok s) :
    s.FitWords := by
  simp only [ofFile] at h
  split at h
  · cases h
  · next settings found =>
    obtain ⟨d, read, layer⟩ := Option.bind_eq_some_iff.1 found
    cases h
    exact fitWords_of_ofData? (fitsWords_of_read? read) layer
  · next settings name found =>
    obtain ⟨d, read, layer⟩ := Option.bind_eq_some_iff.1 found
    have fits : settings.FitWords := fitWords_of_ofData? (fitsWords_of_read? read) layer
    cases filtered : parseFilter "limits.syscall_filter" name with
    | error e =>
      rw [filtered] at h
      cases h
    | ok filter =>
      rw [filtered] at h
      cases h
      exact fits

end Settings

/-! ## The environment -/

namespace Environment

theorem lt_of_word? {text : String} {n : Nat} (h : word? text = some n) : n < Word.count := by
  obtain ⟨valid, same⟩ := Option.ite_none_right_eq_some.1 h
  simp only [Bool.and_eq_true, decide_eq_true_eq] at valid
  exact Option.some.inj same ▸ valid.2

theorem lt_of_number {env : Environment} {name : String} {number : Option Nat}
    (h : env.number name = .ok number) : ∀ n ∈ number, n < Word.count := by
  rintro n ⟨⟩
  unfold Environment.number at h
  split at h
  · cases h
  · split at h
    · next read =>
      cases h
      exact lt_of_word? read
    · cases h

theorem list?_of_unset {env : Environment} {name : String} (h : env name = none) :
    env.list? name = none := by
  have blank : "".splitOn "," = [""] := by cbv
  rw [list?, h, Option.getD_none, blank]
  rfl

theorem fitWords_settings {env : Environment} (h : env.settings = .ok s) : s.FitWords := by
  unfold settings at h
  simp only [bind_eq_ok_iff] at h
  obtain ⟨deadlineMs, readDeadline, ceilingMb, readCeiling, pollMs, readPoll, graceMs, readGrace,
    _, -, pending, readPending, ⟨⟩⟩ := h
  simp only [Settings.FitWords, Settings.numbers, List.forall_mem_cons]
  exact ⟨lt_of_number readDeadline, lt_of_number readCeiling, lt_of_number readPoll,
    lt_of_number readGrace, lt_of_number readPending, by simp⟩

end Environment

/-! ## The layers together -/

/-- A whole number of milliseconds that fits a word. -/
def Duration.FitsMillis (d : Duration) : Prop := ∃ n < Word.count, d = .ofMillis n

namespace Config

theorem ofMillis_millisWord {d : Duration} (h : d.FitsMillis) : d = .ofMillis (millisWord d) := by
  obtain ⟨n, small, rfl⟩ := h
  rw [millisWord, Duration.millis_ofMillis, Nat.mod_eq_of_lt small]

/-- All durations of a configuration are whole milliseconds that fit a word. -/
structure FitsMillis (c : Config) : Prop where
  deadline : c.deadline.FitsMillis
  pollInterval : c.pollInterval.FitsMillis
  grace : c.grace.FitsMillis

theorem fitsMillis_standard : standard.FitsMillis where
  deadline := ⟨30000, by decide, rfl⟩
  pollInterval := ⟨10, by decide, rfl⟩
  grace := ⟨250, by decide, rfl⟩

theorem FitsMillis.upon (hs : s.FitWords) (hc : c.FitsMillis) : (s.upon c).FitsMillis := by
  have layered {number : Option Nat} (set : number ∈ s.numbers) {d : Duration} (hd : d.FitsMillis) :
      ((number.map .ofMillis).getD d).FitsMillis := by
    cases number with
    | none => exact hd
    | some n => exact ⟨n, hs _ set n rfl, rfl⟩
  exact ⟨layered (by simp [Settings.numbers]) hc.deadline,
    layered (by simp [Settings.numbers]) hc.pollInterval,
    layered (by simp [Settings.numbers]) hc.grace⟩

theorem fitWords_fileSettings {env : Environment} {read : Readable}
    (h : fileSettings env read = .ok s) : s.FitWords := by
  unfold fileSettings at h
  split at h
  · cases h
    exact Settings.fitWords_none
  · split at h
    · cases h
    · exact Settings.fitWords_of_ofFile h

theorem fitsMillis_layered {env : Environment} {read : Readable} (h : layered env read = .ok c) :
    c.FitsMillis := by
  obtain ⟨below, file, h⟩ := bind_eq_ok_iff.1 h
  obtain ⟨above, environment, ⟨⟩⟩ := bind_eq_ok_iff.1 h
  exact (fitsMillis_standard.upon (fitWords_fileSettings file)).upon
    (Environment.fitWords_settings environment)

end Config

end SourceGate
