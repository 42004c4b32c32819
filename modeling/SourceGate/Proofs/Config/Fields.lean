import SourceGate.Proofs.Config.Layers

/-! # The fields of a configuration

Each field has a variable, and a key in a section of a settings file, from which alone its value is
read. What a variable has to be to count, and what a text and an entry of a file stand for, depends
on the field; the rest is the same for all of them.
-/

namespace SourceGate

namespace Config

inductive Field where
  | allowedModules | forbiddenOperations | deadline | memoryCeiling | pollInterval | grace | filter
  | maxPending
  deriving DecidableEq

namespace Field

/-- The values of a field. -/
@[reducible]
def Value : Field → Type
  | allowedModules | forbiddenOperations => List String
  | deadline | pollInterval | grace => Duration
  | memoryCeiling | maxPending => Nat
  | filter => SyscallFilter

def variableName : Field → String
  | allowedModules => "GATE_ALLOWED_MODULES"
  | forbiddenOperations => "GATE_FORBIDDEN_OPERATIONS"
  | deadline => "GATE_DEADLINE_MS"
  | memoryCeiling => "GATE_MEMORY_CEILING_MB"
  | pollInterval => "GATE_POLL_INTERVAL_MS"
  | grace => "GATE_GRACE_MS"
  | filter => "GATE_SYSCALL_FILTER"
  | maxPending => "GATE_MAX_PENDING"

theorem variableName_injective : Function.Injective variableName := by
  intro f g same
  cases f <;> cases g <;> first | rfl | simp [variableName] at same

theorem variableName_ne_file (f : Field) : f.variableName ≠ "GATE_CONFIG" := by
  cases f <;> simp [variableName]

end Field

/-- The value of a field. -/
def get (c : Config) : (f : Field) → f.Value
  | .allowedModules => c.allowedModules
  | .forbiddenOperations => c.forbiddenOperations
  | .deadline => c.deadline
  | .memoryCeiling => c.memoryCeilingMb
  | .pollInterval => c.pollInterval
  | .grace => c.grace
  | .filter => c.filter
  | .maxPending => c.maxPending

end Config

namespace Settings

/-- The value that a layer sets for a field. -/
def get (s : Settings) : (f : Config.Field) → Option f.Value
  | .allowedModules => s.allowedModules
  | .forbiddenOperations => s.forbiddenOperations
  | .deadline => s.deadlineMs.map .ofMillis
  | .memoryCeiling => s.memoryCeilingMb
  | .pollInterval => s.pollIntervalMs.map .ofMillis
  | .grace => s.graceMs.map .ofMillis
  | .filter => s.filter
  | .maxPending => s.maxPending

@[simp] theorem get_none (f : Config.Field) : none.get f = Option.none := by
  cases f <;> rfl

/-- A layer counts before what is below it, field by field. -/
@[simp] theorem get_upon (s : Settings) (c : Config) (f : Config.Field) :
    (s.upon c).get f = (s.get f).getD (c.get f) := by
  cases f <;> rfl

end Settings

namespace Config.Field

/-! ## What a text stands for -/

/-- The texts between commas that are more than blanks, without the blanks around them. -/
def entries (text : String) : List String :=
  (text.splitOn ",").filterMap fun piece =>
    if Text.allBlank piece.toList then none else some (Text.trimmed piece)

/-- A filter by its name. -/
def filter? (name : String) : Option SyscallFilter :=
  if name = "off" then some .off else if name = "required" then some .required else none

/-- A text without its outer blanks and without capital letters. -/
def lowered (text : String) : String := String.ofList ((Text.trim text.toList).map Char.toLower)

/-- Whether a variable counts that is set to a text: for a list there is some entry, and else the
text is not blank. -/
def counts (text : String) : Field → Bool
  | allowedModules | forbiddenOperations => !(entries text).isEmpty
  | _ => !Text.allBlank text.toList

/-- The value that a text stands for, if it is well-formed. -/
def ofText? (text : String) : (f : Field) → Option f.Value
  | allowedModules | forbiddenOperations => some (entries text)
  | deadline | pollInterval | grace =>
    (Environment.word? (Text.trimmed text)).map Duration.ofMillis
  | memoryCeiling | maxPending => Environment.word? (Text.trimmed text)
  | filter => filter? (lowered text)

/-- The error of a text that is not well-formed. -/
def complaint (text : String) : Field → ConfigError
  | filter => .badFilter (variableName filter) (lowered text)
  | f => .notNumber f.variableName

/-- What a text that may be left out stands for. -/
def readAs {α : Type} (kind : String → Option α) (fault : String → ConfigError) :
    Option String → Except ConfigError (Option α)
  | none => .ok none
  | some text =>
    match kind text with
    | some value => .ok (some value)
    | none => .error (fault text)

variable (f : Field) (env : Environment)

/-- The text that the variable of a field is set to, if it counts. -/
def ownText? : Option String := (env f.variableName).filter (counts · f)

/-- The value that the variable of a field sets. -/
def ofEnvironment : Except ConfigError (Option f.Value) :=
  readAs f.ofText? (complaint · f) (f.ownText? env)

/-- The variable of a field counts and does not stand for a value. -/
def Malformed : Prop := ∃ text, f.ownText? env = some text ∧ f.ofText? text = none

end Config.Field

/-! ## The environment -/

theorem bind_eq_error_iff {ε α β : Type} {x : Except ε α} {f : α → Except ε β} {e : ε} :
    x >>= f = .error e ↔ x = .error e ∨ ∃ a, x = .ok a ∧ f a = .error e := by
  cases x with
  | error e => simp [bind, Except.bind]
  | ok a => simp [bind, Except.bind]

theorem Text.trim_eq_nil_iff {text : List Char} : trim text = [] ↔ allBlank text = true := by
  have parts : text = text.takeWhile isBlank ++ trimLeft text :=
    List.takeWhile_append_dropWhile.symm
  rw [trim, List.reverse_eq_nil_iff, trimLeft, List.dropWhile_eq_nil_iff, allBlank, List.all_eq_true]
  constructor
  · intro rest c member
    rw [parts, List.mem_append] at member
    obtain opening | later := member
    · exact List.mem_takeWhile_imp opening
    · exact rest c (List.mem_reverse.2 later)
  · intro all c member
    exact all c ((List.dropWhile_sublist _).mem (List.mem_reverse.1 member))

theorem Text.isEmpty_trimmed (text : String) : (trimmed text).isEmpty = allBlank text.toList := by
  rw [Bool.eq_iff_iff, ← trim_eq_nil_iff, trimmed, String.isEmpty_iff]
  exact String.ofList_eq_empty_iff

namespace Environment

open Config (Field)

variable {env : Environment} {s : Settings}

/-- The trimmed pieces of a text that are not empty are its entries. -/
theorem filter_trimmed_eq_entries (text : String) :
    ((text.splitOn ",").map Text.trimmed).filter (!·.isEmpty) = Field.entries text := by
  rw [Field.entries]
  induction text.splitOn "," with
  | nil => rfl
  | cons piece rest ih =>
    rw [List.map_cons, List.filter_cons, List.filterMap_cons, Text.isEmpty_trimmed, ih]
    cases Text.allBlank piece.toList <;> rfl

theorem list?_eq_entries (name : String) :
    env.list? name = ((env name).filter fun text => !(Field.entries text).isEmpty).map
      Field.entries := by
  cases set : env name with
  | none => rw [list?_of_unset set, Option.filter_none, Option.map_none]
  | some text =>
    simp only [list?, set, Option.getD_some, filter_trimmed_eq_entries]
    cases none : (Field.entries text).isEmpty <;> simp [Option.filter, none]

theorem number_eq_readAs (name : String) :
    env.number name =
      Field.readAs (fun text => word? (Text.trimmed text)) (fun _ => .notNumber name)
        (env.filled? name) := by
  rw [number]
  cases env.filled? name with
  | none => rfl
  | some text =>
    simp only [Field.readAs]
    cases word? (Text.trimmed text) <;> rfl

theorem readAs_map {α β : Type} (kind : String → Option α) (fault : String → ConfigError)
    (g : α → β) (text? : Option String) :
    Field.readAs (fun text => (kind text).map g) fault text? =
      (Field.readAs kind fault text?).map (Option.map g) := by
  cases text? with
  | none => rfl
  | some text =>
    simp only [Field.readAs]
    cases kind text <;> rfl

theorem readAs_some {α : Type} (g : String → α) (fault : String → ConfigError)
    (text? : Option String) :
    Field.readAs (fun text => some (g text)) fault text? = .ok (text?.map g) := by
  cases text? <;> rfl

theorem mapM_parseFilter (key : String) (text? : Option String) :
    text?.mapM (Settings.parseFilter key) =
      Field.readAs (fun text => Field.filter? (Field.lowered text))
        (fun text => .badFilter key (Field.lowered text)) text? := by
  cases text? with
  | none => rfl
  | some text =>
    simp only [Field.readAs, Field.filter?, Option.mapM_some, Settings.parseFilter, Field.lowered,
      beq_iff_eq]
    split_ifs <;> simp_all

/-- The layer of the environment has of each field what its variable sets. -/
theorem ofEnvironment_of_settings (h : env.settings = .ok s) (f : Field) :
    f.ofEnvironment env = .ok (s.get f) := by
  unfold settings at h
  simp only [bind_eq_ok_iff, mapM_parseFilter, number_eq_readAs, list?_eq_entries] at h
  obtain ⟨deadlineMs, readDeadline, ceilingMb, readCeiling, pollMs, readPoll, graceMs, readGrace,
    filter, readFilter, pending, readPending, ⟨⟩⟩ := h
  cases f with
  | allowedModules | forbiddenOperations => exact readAs_some _ _ _
  | deadline => exact (readAs_map _ _ _ _).trans (congrArg (Except.map _) readDeadline)
  | pollInterval => exact (readAs_map _ _ _ _).trans (congrArg (Except.map _) readPoll)
  | grace => exact (readAs_map _ _ _ _).trans (congrArg (Except.map _) readGrace)
  | memoryCeiling => exact readCeiling
  | filter => exact readFilter
  | maxPending => exact readPending

/-- What is wrong with the environment is wrong with a variable of some field. -/
theorem exists_ofEnvironment_of_error {e : ConfigError} (h : env.settings = .error e) :
    ∃ f : Field, f.ofEnvironment env = .error e := by
  unfold settings at h
  simp only [bind_eq_error_iff, mapM_parseFilter, number_eq_readAs, list?_eq_entries] at h
  obtain unread | ⟨-, -, unread | ⟨-, -, unread | ⟨-, -, unread | ⟨-, -, unread | ⟨-, -, unread |
    ⟨-, -, ⟨⟩⟩⟩⟩⟩⟩⟩ := h
  · exact ⟨.deadline, (readAs_map _ _ _ _).trans (congrArg (Except.map _) unread)⟩
  · exact ⟨.memoryCeiling, unread⟩
  · exact ⟨.pollInterval, (readAs_map _ _ _ _).trans (congrArg (Except.map _) unread)⟩
  · exact ⟨.grace, (readAs_map _ _ _ _).trans (congrArg (Except.map _) unread)⟩
  · exact ⟨.filter, unread⟩
  · exact ⟨.maxPending, unread⟩

end Environment

namespace Config.Field

variable {f : Field} {env : Environment}

theorem ofEnvironment_eq_error_iff {e : ConfigError} :
    f.ofEnvironment env = .error e ↔
      ∃ text, f.ownText? env = some text ∧ f.ofText? text = none ∧ e = complaint text f := by
  rw [ofEnvironment]
  cases f.ownText? env with
  | none => simp [readAs]
  | some text =>
    simp only [readAs]
    cases said : f.ofText? text with
    | none => simp [said, eq_comm]
    | some value => simp [said]

theorem ofEnvironment_eq_ok_iff {value? : Option f.Value} :
    f.ofEnvironment env = .ok value? ↔ (f.ownText? env).map f.ofText? = value?.map some := by
  rw [ofEnvironment]
  cases f.ownText? env with
  | none => cases value? <;> simp [readAs]
  | some text =>
    simp only [readAs]
    cases said : f.ofText? text with
    | none => cases value? <;> simp [said]
    | some value => cases value? <;> simp [said]

theorem toString_eq_self (text : String) : toString text = text := rfl

theorem message_notNumber (name : String) :
    (ConfigError.notNumber name).message = name ++ " must be a non-negative integer" := by
  unfold ConfigError.message
  dsimp only
  rw [toString_eq_self, toString_eq_self]

theorem message_badFilter (key value : String) :
    (ConfigError.badFilter key value).message =
      key ++ (" must be \"off\" or \"required\", got \"" ++ value ++ "\"") := by
  unfold ConfigError.message
  dsimp only
  simp only [toString_eq_self, String.append_assoc]

/-- The message of an error begins with the variable. -/
theorem exists_message_complaint (text : String) (f : Field) :
    ∃ rest, (complaint text f).message = f.variableName ++ rest := by
  by_cases same : f = .filter
  · subst same
    exact ⟨_, message_badFilter _ _⟩
  · have number : complaint text f = .notNumber f.variableName := by
      cases f <;> first | rfl | exact absurd rfl same
    rw [number]
    exact ⟨_, message_notNumber _⟩

end Config.Field

end SourceGate
