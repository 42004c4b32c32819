import SourceGate.Proofs.Config.Entries
import SourceGate.Proofs.Config.Loaded

/-! # Layers of a configuration

Each field of a loaded configuration is what its own variable stands for, else what the settings
file has for it, else the standard value, before the lists are brought into the form that a policy
has them in. So nothing else in the environment or in the file changes a field. A variable that
counts and is not well-formed is an error whatever else is set, and it is the error that is told if
nothing else is wrong before the check.
-/

namespace SourceGate

namespace Config

variable {env env' : Environment} {read read' : Readable} {c c' : Config} {f g : Field}

namespace Field

/-- The value of a field: its own in the environment, else the one in the file, else the standard
one. -/
inductive Layered (f : Field) (env : Environment) (read : Readable) : f.Value → Prop where
  | environment {text : String} {value : f.Value} (set : f.ownText? env = some text)
      (means : f.ofText? text = some value) : Layered f env read value
  | file {entry : Data} {value : f.Value} (unset : f.ownText? env = none)
      (filed : f.filed? env read = some entry) (means : f.ofEntry? entry = some value) :
      Layered f env read value
  | standard (unset : f.ownText? env = none) (unfiled : f.filed? env read = none) :
      Layered f env read (standard.get f)

/-- The variable and the entry of a field determine its value. -/
theorem Layered.unique {value value' : f.Value} (h : f.Layered env read value)
    (h' : f.Layered env' read' value') (text : f.ownText? env' = f.ownText? env)
    (entry : f.filed? env' read' = f.filed? env read) : value' = value := by
  cases h with
  | environment set means =>
    cases h' with
    | environment set' means' => simp_all
    | file unset' => simp_all
    | standard unset' => simp_all
  | file unset filed means =>
    cases h' with
    | environment set' => simp_all
    | file _ filed' means' => simp_all
    | standard _ unfiled' => simp_all
  | standard unset unfiled =>
    cases h' with
    | environment set' => simp_all
    | file _ filed' => simp_all
    | standard => rfl

theorem ownText?_congr (text : env' f.variableName = env f.variableName) :
    f.ownText? env' = f.ownText? env := by
  rw [ownText?, ownText?, text]

theorem ownText?_of_unset (unset : env f.variableName = none) : f.ownText? env = none := by
  rw [ownText?, unset, Option.filter_none]

end Field

/-! ## What is loaded -/

theorem layered_of_layered (h : layered env read = .ok c) (f : Field) :
    f.Layered env read (c.get f) := by
  obtain ⟨below, file, h⟩ := bind_eq_ok_iff.1 h
  obtain ⟨above, environment, ⟨⟩⟩ := bind_eq_ok_iff.1 h
  have own := Field.ofEnvironment_eq_ok_iff.1 (Environment.ofEnvironment_of_settings environment f)
  have filed := filed_of_fileSettings file f
  rw [Settings.get_upon, Settings.get_upon]
  cases set : above.get f with
  | some value =>
    rw [set] at own
    obtain ⟨text, counts, means⟩ := Option.map_eq_some_iff.1 own
    exact .environment counts means
  | none =>
    rw [set, Option.map_none, Option.map_eq_none_iff] at own
    cases kept : below.get f with
    | some value =>
      rw [kept] at filed
      obtain ⟨entry, stands, means⟩ := Option.map_eq_some_iff.1 filed
      exact .file own stands means
    | none =>
      rw [kept, Option.map_none, Option.map_eq_none_iff] at filed
      exact .standard own filed

theorem madeOf_of_policy {policy : Policy} (h : c.policy = .ok policy) :
    policy.MadeOf c.allowedModules c.forbiddenOperations := by
  apply Policy.ofLists_eq_ok_iff.1
  unfold Config.policy at h
  cases made : Policy.ofLists c.allowedModules c.forbiddenOperations with
  | error e =>
    rw [made] at h
    cases h
  | ok p =>
    rw [made] at h
    cases h
    rfl

/-- The check keeps the fields apart: of each list it makes a table, whatever the other list is. -/
theorem get_eq_of_validate {u u' : Config} (h : u.validate = .ok c) (h' : u'.validate = .ok c')
    (same : u'.get f = u.get f) : c'.get f = c.get f := by
  obtain ⟨-, policy, made, rfl⟩ := validate_eq_ok_iff.1 h
  obtain ⟨-, policy', made', rfl⟩ := validate_eq_ok_iff.1 h'
  have tables := madeOf_of_policy made
  have tables' := madeOf_of_policy made'
  cases f with
  | allowedModules =>
    have same : u'.allowedModules = u.allowedModules := same
    rw [same] at tables'
    exact congrArg NameSet.names (tables'.allowed.unique tables.allowed)
  | forbiddenOperations =>
    have same : u'.forbiddenOperations = u.forbiddenOperations := same
    rw [same] at tables'
    exact congrArg NameSet.names (tables'.forbidden.unique tables.forbidden)
  | _ => exact same

/-- A configuration that is loaded is one with the fields of the layers, checked. -/
theorem exists_layered_of_load (h : load env read = .ok c) :
    ∃ u, layered env read = .ok u ∧ u.validate = .ok c ∧ ∀ f : Field, f.Layered env read (u.get f) := by
  obtain ⟨u, layers, valid⟩ := bind_eq_ok_iff.1 h
  exact ⟨u, layers, valid, layered_of_layered layers⟩

/-- Fields whose variable and whose entry are as before are as before. -/
theorem get_eq_of_load (h : load env read = .ok c) (h' : load env' read' = .ok c')
    (text : env' f.variableName = env f.variableName)
    (entry : f.filed? env' read' = f.filed? env read) : c'.get f = c.get f := by
  obtain ⟨u, -, valid, layers⟩ := exists_layered_of_load h
  obtain ⟨u', -, valid', layers'⟩ := exists_layered_of_load h'
  have same : u'.get f = u.get f :=
    (layers f).unique (layers' f) (Field.ownText?_congr text) entry
  exact get_eq_of_validate valid valid' same

theorem filed?_congr (named : env' "GATE_CONFIG" = env "GATE_CONFIG") :
    f.filed? env' read = f.filed? env read := by
  rw [Field.filed?, Field.filed?, fileData?, fileData?, Environment.filled?, Environment.filled?,
    named]

theorem filed?_of_editedAt {d d' : Data} (holds : fileData? env read = some d)
    (holds' : fileData? env read' = some d') (edited : g.EditedAt d d') (other : f ≠ g) :
    f.filed? env read' = f.filed? env read := by
  rw [Field.filed?, Field.filed?, holds, holds', Option.bind_some, Option.bind_some]
  exact Field.entryIn?_of_editedAt edited other

/-! ## What fails -/

theorem Field.malformed_iff :
    f.Malformed env ↔ ∃ e, f.ofEnvironment env = .error e := by
  simp only [Malformed, ofEnvironment_eq_error_iff]
  grind

theorem exists_settings_error (h : f.Malformed env) : ∃ e, env.settings = .error e := by
  obtain ⟨e, unread⟩ := Field.malformed_iff.1 h
  cases made : env.settings with
  | error e => exact ⟨e, rfl⟩
  | ok s =>
    rw [Environment.ofEnvironment_of_settings made] at unread
    cases unread

theorem exists_load_error (h : f.Malformed env) : ∃ e, load env read = .error e := by
  obtain ⟨e, unread⟩ := exists_settings_error h
  cases loaded : load env read with
  | error e => exact ⟨e, rfl⟩
  | ok c =>
    obtain ⟨u, layers, -⟩ := bind_eq_ok_iff.1 loaded
    obtain ⟨_, -, layers⟩ := bind_eq_ok_iff.1 layers
    obtain ⟨_, made, -⟩ := bind_eq_ok_iff.1 layers
    rw [unread] at made
    cases made

/-- The only variable that is malformed is what is complained about, if there is nothing wrong with
the file. -/
theorem load_eq_complaint {s : Settings} (h : f.Malformed env) (file : fileSettings env read = .ok s)
    (others : ∀ g ≠ f, ¬ g.Malformed env) :
    ∃ text, f.ownText? env = some text ∧ load env read = .error (f.complaint text) := by
  obtain ⟨e, unread⟩ := exists_settings_error h
  obtain ⟨g, own⟩ := Environment.exists_ofEnvironment_of_error unread
  have only : g = f := by
    by_contra other
    exact others g other (Field.malformed_iff.2 ⟨e, own⟩)
  subst only
  obtain ⟨text, set, -, rfl⟩ := Field.ofEnvironment_eq_error_iff.1 own
  refine ⟨text, set, ?_⟩
  rw [load, layered, file, unread]
  rfl

/-! ## Both -/

/-- What the layers of a configuration come to. -/
structure Layering (env : Environment) (read : Readable) : Prop where
  /-- Before the check each field has the value of its topmost layer. -/
  layers {c : Config} (h : load env read = .ok c) :
    ∃ u, layered env read = .ok u ∧ u.validate = .ok c ∧ ∀ f : Field, f.Layered env read (u.get f)
  /-- The variable of another field changes nothing. -/
  other_variable {c c' : Config} {g : Field} {text : Option String} (h : load env read = .ok c)
    (h' : load (Function.update env g.variableName text) read = .ok c') {f : Field} (other : f ≠ g) :
    c'.get f = c.get f
  /-- The key of another field in the file changes nothing. -/
  other_key {read' : Readable} {c c' : Config} {g : Field} {d d' : Data} (h : load env read = .ok c)
    (h' : load env read' = .ok c') (holds : fileData? env read = some d)
    (holds' : fileData? env read' = some d') (edited : g.EditedAt d d') {f : Field} (other : f ≠ g) :
    c'.get f = c.get f
  /-- Nor does anything else, whatever the file is, before the check or after it. -/
  same {env' : Environment} {read' : Readable} {f : Field}
    (text : env' f.variableName = env f.variableName)
    (entry : f.filed? env' read' = f.filed? env read) :
    (∀ u u', layered env read = .ok u → layered env' read' = .ok u' → u'.get f = u.get f) ∧
      ∀ c c', load env read = .ok c → load env' read' = .ok c' → c'.get f = c.get f
  /-- A malformed variable is an error whatever the file and the other variables are. -/
  fails {f : Field} (h : f.Malformed env) : ∃ e, load env read = .error e
  /-- The error names the variable if nothing is wrong before it and no other is malformed. -/
  names {f : Field} {s : Settings} (h : f.Malformed env) (file : fileSettings env read = .ok s)
    (others : ∀ g ≠ f, ¬ g.Malformed env) :
    ∃ e rest, load env read = .error e ∧ e.message = f.variableName ++ rest

theorem layering (env : Environment) (read : Readable) : Layering env read where
  layers := exists_layered_of_load
  other_variable h h' _ other := by
    apply get_eq_of_load h h'
    · exact Function.update_of_ne (Field.variableName_injective.ne other) _ _
    · exact filed?_congr (Function.update_of_ne (Field.variableName_ne_file _).symm _ _)
  other_key h h' holds holds' edited _ other :=
    get_eq_of_load h h' rfl (filed?_of_editedAt holds holds' edited other)
  same text entry := by
    constructor
    · intro u u' made made'
      exact (layered_of_layered made _).unique (layered_of_layered made' _)
        (Field.ownText?_congr text) entry
    · intro c c' loaded loaded'
      exact get_eq_of_load loaded loaded' text entry
  fails := exists_load_error
  names h file others := by
    obtain ⟨text, -, refused⟩ := load_eq_complaint h file others
    obtain ⟨rest, message⟩ := Field.exists_message_complaint text _
    exact ⟨_, rest, refused, message⟩

/-! ## A deadline over a file -/

/-- A deadline beside the path of a file. -/
def overFile : Environment := fun name =>
  if name = "GATE_CONFIG" then some "g" else if name = "GATE_DEADLINE_MS" then some " 10 " else none

/-- The same with a grace that is no number. -/
def overFileMalformed : Environment :=
  Function.update overFile Field.grace.variableName (some "ten")

/-- A file with a deadline and a poll interval. -/
def underneath : Readable := fun _ => .ok
  "\x7b\"limits\": \x7b\"deadline_ms\": 1, \"poll_interval_ms\": 10\x7d\x7d"

theorem fileSettings_overFile :
    fileSettings overFile underneath =
      .ok { Settings.none with deadlineMs := some 1, pollIntervalMs := some 10 } := by
  have format : SettingsFormat.ofPath "g" = .json := by cbv
  have named : overFile.filled? "GATE_CONFIG" = some "g" := by decide +kernel
  rw [fileSettings, named]
  simp only [underneath, Settings.ofFile, format]
  decide +kernel

theorem fileSettings_congr (named : env' "GATE_CONFIG" = env "GATE_CONFIG") :
    fileSettings env' read = fileSettings env read := by
  rw [fileSettings, fileSettings, Environment.filled?, Environment.filled?, named]

theorem load_overFile : ∃ c, load overFile underneath = .ok c ∧
    c.deadline = .ofMillis 10 ∧ c.pollInterval = .ofMillis 10 ∧ c.grace = standard.grace := by
  have environment : overFile.settings = .ok { Settings.none with deadlineMs := some 10 } := by
    rw [Environment.settings, Environment.list?_of_unset (by decide +kernel),
      Environment.list?_of_unset (by decide +kernel)]
    decide +kernel
  refine ⟨{ standard with
      allowedModules := Policy.standard.allowed.names
      forbiddenOperations := Policy.standard.forbidden.names
      deadline := .ofMillis 10
      pollInterval := .ofMillis 10 }, ?_, rfl, rfl, rfl⟩
  rw [load, layered, fileSettings_overFile, environment]
  decide +kernel

theorem malformed_overFileMalformed_iff : f.Malformed overFileMalformed ↔ f = .grace := by
  constructor
  · rintro ⟨text, set, unread⟩
    cases f with
    | grace => rfl
    | allowedModules | forbiddenOperations => cases unread
    | deadline =>
      have own : Field.deadline.ownText? overFileMalformed = some " 10 " := by decide +kernel
      have number : Field.deadline.ofText? " 10 " ≠ none := by decide +kernel
      cases own.symm.trans set
      exact absurd unread number
    | memoryCeiling | pollInterval | filter | maxPending =>
      rw [Field.ownText?_of_unset (by decide +kernel)] at set
      cases set
  · rintro rfl
    exact ⟨"ten", by decide +kernel, by decide +kernel⟩

/-- The layers of `overFile`, and the error of a grace that is no number. -/
theorem layering_overFile :
    (∃ c u, load overFile underneath = .ok c ∧ layered overFile underneath = .ok u ∧
      (∀ f : Field, f.Layered overFile underneath (u.get f)) ∧
      c.deadline = .ofMillis 10 ∧ c.pollInterval = .ofMillis 10 ∧ c.grace = standard.grace) ∧
    ∃ e rest, load overFileMalformed underneath = .error e ∧
      e.message = "GATE_GRACE_MS" ++ rest := by
  obtain ⟨c, loaded, values⟩ := load_overFile
  obtain ⟨u, layers, -, fields⟩ := (layering overFile underneath).layers loaded
  have file : fileSettings overFileMalformed underneath = .ok _ :=
    (fileSettings_congr (by decide +kernel)).trans fileSettings_overFile
  have others (g : Field) (other : g ≠ .grace) : ¬ g.Malformed overFileMalformed :=
    fun malformed => other (malformed_overFileMalformed_iff.1 malformed)
  exact ⟨⟨c, u, loaded, layers, fields, values⟩,
    (layering overFileMalformed underneath).names (malformed_overFileMalformed_iff.2 rfl) file others⟩

end Config

end SourceGate
