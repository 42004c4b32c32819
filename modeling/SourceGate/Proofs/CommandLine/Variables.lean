import SourceGate.CommandLine.Arguments
import SourceGate.Proofs.Config.Layers
import SourceGate.Proofs.Policy.Name

/-! # Variables in the place of options

A variable that stands in for an option is read by two rules: for the configuration without its
outer blanks, and not at all if it is blank or not Unicode, and for the arguments as it is. What
only the configuration accepts is not Unicode, or is blank, or is a number with outer blanks.
-/

namespace SourceGate

namespace Environment

variable {env : Environment} {name text : String} {n : Nat}

/-- Nothing in a number is blank. -/
theorem isBlank_of_word? (h : word? text = some n) :
    text.toList ≠ [] ∧ ∀ c ∈ text.toList, Text.isBlank c = false := by
  have digit {c : Char} (hc : c.isDigit = true) : Text.isBlank c = false := by
    rw [Char.isDigit, Bool.and_eq_true, decide_eq_true_eq, decide_eq_true_eq] at hc
    have low : 48 ≤ c.toNat := hc.1
    have high : c.toNat ≤ 57 := hc.2
    simp only [Text.isBlank, Bool.or_eq_false_iff, Bool.and_eq_false_iff, beq_eq_false_iff_ne,
      decide_eq_false_iff_not]
    omega
  obtain ⟨valid, -⟩ := Option.ite_none_right_eq_some.1 h
  simp only [Bool.and_eq_true, Bool.not_eq_true', List.isEmpty_eq_false_iff, List.all_eq_true]
    at valid
  obtain ⟨⟨nonempty, digits⟩, -⟩ := valid
  cases same : text.toList with
  | nil =>
    rw [same] at nonempty
    exact absurd rfl nonempty
  | cons first rest =>
    rw [same] at digits
    refine ⟨List.cons_ne_nil _ _, List.forall_mem_cons.2 ?_⟩
    by_cases plus : first = '+'
    · subst plus
      exact ⟨by decide, fun c hc => digit (digits c hc)⟩
    · have digits : ∀ c ∈ first :: rest, c.isDigit = true := by
        split at digits
        · next heq => exact absurd (List.cons.inj heq).1 plus
        · exact digits
      exact List.forall_mem_cons.1 fun c hc => digit (digits c hc)

theorem trimmed_of_word? (h : word? text = some n) : Text.trimmed text = text := by
  rw [Text.trimmed, Text.trim_eq_self (isBlank_of_word? h).2, String.ofList_toList]

theorem allBlank_of_word? (h : word? text = some n) : Text.allBlank text.toList = false := by
  obtain ⟨nonempty, clear⟩ := isBlank_of_word? h
  obtain ⟨c, hc⟩ := List.exists_mem_of_ne_nil _ nonempty
  rw [Text.allBlank, List.all_eq_false]
  exact ⟨c, hc, by simp [clear c hc]⟩

/-- The configuration passes over a blank variable. -/
theorem number_of_allBlank (set : env name = some text) (blank : Text.allBlank text.toList = true) :
    env.number name = .ok none := by
  have passed : env.filled? name = none := by simp [filled?, set, Option.filter, blank]
  simp only [Environment.number, passed]

theorem filled?_of_not_allBlank (set : env name = some text)
    (filled : Text.allBlank text.toList = false) : env.filled? name = some text := by
  simp [filled?, set, Option.filter, filled]

theorem number_of_read (set : env name = some text) (filled : Text.allBlank text.toList = false)
    (read : word? (Text.trimmed text) = some n) : env.number name = .ok (some n) := by
  simp only [Environment.number, filled?_of_not_allBlank set filled, read]

theorem number_of_unread (set : env name = some text) (filled : Text.allBlank text.toList = false)
    (unread : word? (Text.trimmed text) = none) : env.number name = .error (.notNumber name) := by
  simp only [Environment.number, filled?_of_not_allBlank set filled, unread]

end Environment

namespace CommandLine

open Environment

variable {vars : Variables} {name : String}

/-- A variable is accepted for the configuration and holds no number for the arguments. -/
def ReadByOne (vars : Variables) (name : String) : Prop :=
  (∃ found, vars.environment.number name = .ok found) ∧ vars.number name = none

theorem readByOne_of_garbled {shown : String} (set : vars name = some (.garbled shown)) :
    ReadByOne vars name := by
  have passed : vars.environment.filled? name = none := by
    simp [filled?, Variables.environment, set, Raw.text?]
  refine ⟨⟨none, ?_⟩, ?_⟩
  · simp only [Environment.number, passed]
  · simp [Variables.number, set, Raw.text?]

theorem readByOne_iff_of_text {text : String} (set : vars name = some (.text text)) :
    ReadByOne vars name ↔ Text.allBlank text.toList = true ∨
      Text.trimmed text ≠ text ∧ ∃ n, word? (Text.trimmed text) = some n := by
  have known : vars.environment name = some text := by
    simp [Variables.environment, set, Raw.text?]
  have unread_iff : vars.number name = none ↔ word? text = none := by
    simp [Variables.number, set, Raw.text?]
  rw [ReadByOne, unread_iff]
  constructor
  · rintro ⟨⟨found, read⟩, unread⟩
    cases blank : Text.allBlank text.toList with
    | true => exact .inl rfl
    | false =>
      right
      cases trimmed : word? (Text.trimmed text) with
      | none => cases (number_of_unread known blank trimmed).symm.trans read
      | some n => exact ⟨fun same => by simp [same, unread] at trimmed, n, rfl⟩
  · intro cause
    have unread : word? text = none := by
      by_contra read
      obtain ⟨n, read⟩ := Option.ne_none_iff_exists'.1 read
      rcases cause with blank | ⟨padded, -⟩
      · simp [allBlank_of_word? read] at blank
      · exact padded (trimmed_of_word? read)
    refine ⟨?_, unread⟩
    cases blank : Text.allBlank text.toList with
    | true => exact ⟨none, number_of_allBlank known blank⟩
    | false =>
      obtain ⟨-, n, trimmed⟩ := cause.resolve_left (by simp [blank])
      exact ⟨some n, number_of_read known blank trimmed⟩

theorem readByOne_iff :
    ReadByOne vars name ↔
      (∃ shown, vars name = some (.garbled shown)) ∨
        ∃ text, vars name = some (.text text) ∧
          (Text.allBlank text.toList = true ∨
            Text.trimmed text ≠ text ∧ ∃ n, word? (Text.trimmed text) = some n) := by
  cases set : vars name with
  | none =>
    have absent : vars.number name = some none := by simp [Variables.number, set]
    simp [ReadByOne, absent]
  | some raw =>
    cases raw with
    | garbled shown => exact iff_of_true (readByOne_of_garbled set) (.inl ⟨shown, rfl⟩)
    | text text => simpa using readByOne_iff_of_text set

/-! ## Arguments that are not understood -/

/-- What arguments say by themselves. -/
inductive Says (args : List Raw) : Given → Prop where
  | intro {found g} (items : items false args = some found)
      (given : Given.ofItems? found = some g) : Says args g

theorem Says.unique {args : List Raw} {g g' : Given} (h : Says args g) (h' : Says args g') :
    g = g' := by
  obtain ⟨found, given⟩ := h
  obtain ⟨found', given'⟩ := h'
  cases found.symm.trans found'
  exact Option.some.inj (given.symm.trans given')

/-- There is no file, or a variable is read in the place of an option and holds no number. -/
inductive Given.Lacks (vars : Variables) (g : Given) : Prop where
  | file (none : g.file = none)
  | deadline (none : g.deadlineMs = none)
      (unread : vars.number "GATE_DEADLINE_MS" = Option.none)
  | memoryCeiling (none : g.memoryCeilingMb = none)
      (unread : vars.number "GATE_MEMORY_CEILING_MB" = Option.none)

/-- The number of an option, or of the variable that stands in for it. -/
def standIn (vars : Variables) (given : Option Nat) (name : String) : Option (Option Nat) :=
  if given.isSome then some given else vars.number name

theorem standIn_eq_none_iff {given : Option Nat} :
    standIn vars given name = none ↔ given = none ∧ vars.number name = none := by
  cases given with
  | none => simp [standIn]
  | some n => simp [standIn]

theorem arguments?_eq_bind (g : Given) :
    g.arguments? vars = g.file.bind fun file =>
      (standIn vars g.deadlineMs "GATE_DEADLINE_MS").bind fun deadlineMs =>
        (standIn vars g.memoryCeilingMb "GATE_MEMORY_CEILING_MB").bind fun memoryCeilingMb =>
          some { file, function := g.function.getD "", json := g.json, deadlineMs,
                 memoryCeilingMb } := by
  obtain ⟨file, function, json, deadlineMs, memoryCeilingMb, help⟩ := g
  cases deadlineMs <;> cases memoryCeilingMb <;> rfl

theorem arguments?_eq_none_iff {g : Given} : g.arguments? vars = none ↔ g.Lacks vars := by
  simp only [arguments?_eq_bind, Option.bind_eq_none_iff]
  constructor
  · intro refused
    by_contra held
    obtain ⟨path, file⟩ := Option.ne_none_iff_exists'.1 fun none => held (.file none)
    obtain ⟨deadline, inTime⟩ := Option.ne_none_iff_exists'.1 fun lacking =>
      have lacking := standIn_eq_none_iff.1 lacking
      held (.deadline lacking.1 lacking.2)
    obtain ⟨ceiling, inMemory⟩ := Option.ne_none_iff_exists'.1 fun lacking =>
      have lacking := standIn_eq_none_iff.1 lacking
      held (.memoryCeiling lacking.1 lacking.2)
    cases refused path file deadline inTime ceiling inMemory
  · intro lacks path file deadline inTime ceiling inMemory
    cases lacks with
    | file none =>
      rw [none] at file
      cases file
    | deadline none unread =>
      rw [standIn_eq_none_iff.2 ⟨none, unread⟩] at inTime
      cases inTime
    | memoryCeiling none unread =>
      rw [standIn_eq_none_iff.2 ⟨none, unread⟩] at inMemory
      cases inMemory

theorem ofList?_eq_none_iff {args : List Raw} :
    Order.ofList? vars args = none ↔
      (∀ g, ¬ Says args g) ∨ ∃ g, Says args g ∧ g.help = false ∧ g.Lacks vars := by
  have order_of {g : Given} (heard : Says args g) :
      Order.ofList? vars args = none ↔ g.help = false ∧ g.Lacks vars := by
    obtain ⟨found, given⟩ := heard
    rw [← arguments?_eq_none_iff, Order.ofList?, found]
    simp only [Option.bind_eq_bind, Option.bind_some, given]
    cases g.help with
    | true => simp
    | false => cases g.arguments? vars <;> simp
  by_cases said : ∃ g, Says args g
  · obtain ⟨g, heard⟩ := said
    rw [order_of heard]
    constructor
    · exact fun lacks => .inr ⟨g, heard, lacks⟩
    · rintro (silent | ⟨g', heard', lacks⟩)
      · exact absurd heard (silent g)
      · exact heard.unique heard' ▸ lacks
  · refine iff_of_true ?_ (.inl fun g heard => said ⟨g, heard⟩)
    rw [Order.ofList?, Option.bind_eq_bind, Option.bind_eq_none_iff]
    intro found items
    rw [Option.bind_eq_bind, Option.bind_eq_none_iff]
    exact fun g given => absurd ⟨g, items, given⟩ said

/-! ## Numbers of a check -/

theorem number_lt {text : Option String} {number : Option Nat}
    (h : CommandLine.number text = some number) : ∀ n ∈ number, n < Word.count := by
  rintro n ⟨⟩
  cases text with
  | none => cases h
  | some text =>
    obtain ⟨m, read, ⟨⟩⟩ := Option.map_eq_some_iff.1 h
    exact lt_of_word? read

theorem Variables.number_lt {number : Option Nat} (h : vars.number name = some number) :
    ∀ n ∈ number, n < Word.count := by
  rintro n ⟨⟩
  unfold Variables.number at h
  split at h
  · cases h
  · obtain ⟨m, read, ⟨⟩⟩ := Option.map_eq_some_iff.1 h
    obtain ⟨text, -, read⟩ := Option.bind_eq_some_iff.1 read
    exact lt_of_word? read

theorem standIn_lt {given number : Option Nat} (small : ∀ n ∈ given, n < Word.count)
    (h : standIn vars given name = some number) : ∀ n ∈ number, n < Word.count := by
  cases given with
  | none => exact Variables.number_lt h
  | some n =>
    cases h
    exact small

/-- The deadline of a check is a word of milliseconds. -/
theorem deadlineMs_lt {args : List Raw} {a : Arguments}
    (order : Order.ofList? vars args = some (.check a)) :
    ∀ n ∈ a.deadlineMs, n < Word.count := by
  obtain ⟨found, -, order⟩ := Option.bind_eq_some_iff.1 order
  obtain ⟨g, given, order⟩ := Option.bind_eq_some_iff.1 order
  have small : ∀ n ∈ g.deadlineMs, n < Word.count := by
    simp only [Given.ofItems?, Option.bind_eq_bind, Option.bind_eq_some_iff] at given
    obtain ⟨_, -, _, -, _, -, _, -, _, read, _, -, _, -, ⟨⟩⟩ := given
    exact CommandLine.number_lt read
  split at order
  · cases order
  · obtain ⟨a', arguments, ⟨⟩⟩ := Option.bind_eq_some_iff.1 order
    simp only [arguments?_eq_bind, Option.bind_eq_some_iff] at arguments
    obtain ⟨_, -, _, deadline, _, -, ⟨⟩⟩ := arguments
    exact standIn_lt small deadline

end CommandLine

end SourceGate
