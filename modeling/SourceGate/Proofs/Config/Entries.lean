import SourceGate.Proofs.Config.Fields

/-! # Entries of settings files

A settings file has the value of a field under one key of one section. A record says so by names and
a list by places; what stands elsewhere in the file does not count for the field.
-/

namespace SourceGate

namespace Settings

variable {format : SettingsFormat} {names : List String} {d : Data} {values : List (Option Data)}

/-- A value that is not null. -/
def present? : Data → Option Data
  | .null => .none
  | d => some d

/-- What stands under one of the names: the field of that name in a record, and the item at the
place of the name in a list. -/
def item? (names : List String) (name : String) : Data → Option Data
  | .record fields => (fields.find? (·.1 == name)).bind fun field => present? field.2
  | .list items => items[names.idxOf name]?.bind present?
  | _ => .none

/-- Two records with the same fields but for those of a name. -/
inductive SameBut (name : String) : Data → Data → Prop where
  | record {fields fields' : List (String × Data)}
      (h : fields'.filter (·.1 != name) = fields.filter (·.1 != name)) :
      SameBut name (.record fields) (.record fields')

theorem item?_of_sameBut {name key : String} {d' : Data} (h : SameBut name d d')
    (other : key ≠ name) : item? names key d' = item? names key d := by
  have found (fields : List (String × Data)) :
      (fields.filter (·.1 != name)).find? (·.1 == key) = fields.find? (·.1 == key) := by
    rw [List.find?_filter]
    congr 1
    funext field
    by_cases same : field.1 = key
    · simp [same, other]
    · simp [same]
  cases h with
  | record h => rw [item?, item?, ← found, h, found]

theorem eq_map_of_mapM {α β : Type} {f : α → Option β} {g : α → β} {as : List α} {bs : List β}
    (same : ∀ a b, f a = some b → b = g a) (h : as.mapM f = some bs) : bs = as.map g := by
  induction as generalizing bs with
  | nil =>
    cases h
    rfl
  | cons a rest ih =>
    rw [List.mapM_cons] at h
    simp only [Option.bind_eq_bind, Option.bind_eq_some_iff] at h
    obtain ⟨b, found, others, later, ⟨⟩⟩ := h
    rw [List.map_cons, same a b found, ih later]

theorem eq_map_of_fields? (distinct : names.Nodup) (h : fields? format names d = some values) :
    values = names.map fun name => item? names name d := by
  unfold fields? at h
  split at h
  · next fields =>
    apply eq_map_of_mapM _ h
    intro name value found
    rw [item?, ← List.head?_filter]
    split at found
    · next none =>
      cases found
      rw [none]
      rfl
    · next alone =>
      cases found
      rw [alone]
      rfl
    · next value _ alone =>
      cases found
      rw [alone]
      cases value <;> first | rfl | contradiction
    · cases found
  · next items =>
    split at h
    · cases h
    · next long =>
      cases h
      have enough : names.length ≤ items.length := by
        simp only [Bool.or_eq_true, decide_eq_true_eq] at long
        omega
      apply List.ext_getElem (by simp [enough])
      intro i inside _
      simp only [List.length_map, List.length_take] at inside
      simp only [List.getElem_map, List.getElem_take, item?, distinct.idxOf_getElem]
      rw [List.getElem?_eq_getElem (by omega), Option.bind_some]
      cases items[i] <;> rfl
  · cases h
    rfl
  · cases h

theorem eq_map_of_group? {section? : Option Data} (distinct : names.Nodup)
    (h : group? format names section? = some values) :
    values = names.map fun name => section?.bind (item? names name) := by
  cases section? with
  | none =>
    cases h
    rfl
  | some d => exact eq_map_of_fields? distinct h

/-- What is read of a value that may be left out. -/
theorem map_eq_of_read? {α : Type} {kind : Data → Option α} {value : Option Data} {read : Option α}
    (h : read? kind value = some read) : value.map kind = read.map some := by
  cases value with
  | none =>
    cases h
    rfl
  | some d =>
    obtain ⟨_, said, ⟨⟩⟩ := Option.map_eq_some_iff.1 h
    rw [Option.map_some, said, Option.map_some]

end Settings

namespace Config.Field

open Settings

/-! ## The place of a field -/

def sections : List String := ["policy", "limits", "concurrency"]

/-- The section of a field in a settings file. -/
def sectionName : Field → String
  | allowedModules | forbiddenOperations => "policy"
  | maxPending => "concurrency"
  | _ => "limits"

/-- The keys of the section of a field. -/
def keys : Field → List String
  | allowedModules | forbiddenOperations => ["allowed_modules", "forbidden_operations"]
  | maxPending => ["max_pending"]
  | _ => ["deadline_ms", "memory_ceiling_mb", "poll_interval_ms", "grace_ms", "syscall_filter"]

def key : Field → String
  | allowedModules => "allowed_modules"
  | forbiddenOperations => "forbidden_operations"
  | deadline => "deadline_ms"
  | memoryCeiling => "memory_ceiling_mb"
  | pollInterval => "poll_interval_ms"
  | grace => "grace_ms"
  | filter => "syscall_filter"
  | maxPending => "max_pending"

/-- What a settings file has for a field. -/
def entryIn? (f : Field) (d : Data) : Option Data :=
  (item? sections f.sectionName d).bind (item? f.keys f.key)

theorem key_injective : Function.Injective key := by
  intro f g same
  cases f <;> cases g <;> first | rfl | simp [key] at same

/-- The section of a field in a settings file. One that is left out is as good as one without keys. -/
def sectionOf (f : Field) (d : Data) : Data :=
  (item? sections f.sectionName d).getD (.record [])

theorem entryIn?_eq (f : Field) (d : Data) : f.entryIn? d = item? f.keys f.key (f.sectionOf d) := by
  rw [entryIn?, sectionOf]
  cases item? sections f.sectionName d <;> rfl

/-- Two settings files that differ under the key of a field alone. -/
structure EditedAt (g : Field) (d d' : Data) : Prop where
  apart : SameBut g.sectionName d d'
  within : SameBut g.key (g.sectionOf d) (g.sectionOf d')

theorem entryIn?_of_editedAt {f g : Field} {d d' : Data} (h : EditedAt g d d') (other : f ≠ g) :
    f.entryIn? d' = f.entryIn? d := by
  by_cases near : f.sectionName = g.sectionName
  · have section_eq (d : Data) : f.sectionOf d = g.sectionOf d := by
      rw [sectionOf, sectionOf, near]
    rw [entryIn?_eq, entryIn?_eq, section_eq, section_eq]
    exact item?_of_sameBut h.within (key_injective.ne other)
  · rw [entryIn?, entryIn?, item?_of_sameBut h.apart near]

/-- The first key of a section brings the section with it. -/
example : EditedAt .grace (.record []) (.record [("limits", .record [("grace_ms", .int 5)])]) :=
  ⟨.record rfl, .record rfl⟩

/-- The value that an entry stands for, if it is well-formed. -/
def ofEntry? : (f : Field) → Data → Option f.Value
  | allowedModules | forbiddenOperations => texts?
  | deadline | pollInterval | grace => fun d => (nat? d).map Duration.ofMillis
  | memoryCeiling | maxPending => nat?
  | filter => fun d => (text? d).bind fun text => filter? (lowered text)

end Config.Field

namespace Settings

open Config (Field)

variable {format : SettingsFormat} {d : Data} {s : Settings}

theorem map_map_eq {α β : Type} {kind : Data → Option α} {value : Option Data} {read : Option α}
    (g : α → β) (h : value.map kind = read.map some) :
    value.map (fun d => (kind d).map g) = (read.map g).map some := by
  cases value <;> cases read <;> simp_all

/-- Before the filter is read, the layer of a settings file has of each other field what stands in
its place, and the name of the filter stands in the place of the filter. -/
theorem entries_of_ofData? {name : Option String} (h : ofData? format d = some (s, name)) :
    (∀ f ≠ Field.filter, (f.entryIn? d).map f.ofEntry? = (s.get f).map some) ∧
      (Field.filter.entryIn? d).map text? = name.map some ∧ s.filter = .none := by
  unfold ofData? at h
  simp only [Option.bind_eq_bind, Option.bind_eq_some_iff] at h
  obtain ⟨sections, found, h⟩ := h
  have placed := eq_map_of_fields? (by decide) found
  split at h
  · next policy limits concurrency =>
    simp only [Option.bind_eq_some_iff] at h
    obtain ⟨lists, inPolicy, limited, inLimits, shared, inConcurrency, h⟩ := h
    have ofPolicy := eq_map_of_group? (by decide) inPolicy
    have ofLimits := eq_map_of_group? (by decide) inLimits
    have ofConcurrency := eq_map_of_group? (by decide) inConcurrency
    split at h
    · next allowed forbidden deadline ceiling poll grace filter pending =>
      cases placed
      cases ofPolicy
      cases ofLimits
      cases ofConcurrency
      simp only [Option.bind_eq_some_iff] at h
      obtain ⟨_, readAllowed, _, readForbidden, _, readDeadline, _, readCeiling, _, readPoll,
        _, readGrace, _, readPending, _, readFilter, ⟨⟩⟩ := h
      refine ⟨fun f other => ?_, map_eq_of_read? readFilter, rfl⟩
      cases f with
      | allowedModules => exact map_eq_of_read? readAllowed
      | forbiddenOperations => exact map_eq_of_read? readForbidden
      | deadline => exact map_map_eq _ (map_eq_of_read? readDeadline)
      | memoryCeiling => exact map_eq_of_read? readCeiling
      | pollInterval => exact map_map_eq _ (map_eq_of_read? readPoll)
      | grace => exact map_map_eq _ (map_eq_of_read? readGrace)
      | filter => exact absurd rfl other
      | maxPending => exact map_eq_of_read? readPending
    · cases h
  · cases h

theorem get_filter_of_parseFilter {key text : String} {filter : SyscallFilter}
    (h : parseFilter key text = .ok filter) : Field.filter? (Field.lowered text) = some filter := by
  have read : (some text).mapM (parseFilter key) = .ok (some filter) := by
    rw [Option.mapM_some, h]
    rfl
  rw [Environment.mapM_parseFilter] at read
  simp only [Field.readAs] at read
  cases said : Field.filter? (Field.lowered text) with
  | none => simp [said] at read
  | some other => simpa [said] using read

/-- The layer of a settings file has of each field what stands in its place. -/
theorem entries_of_ofFile {path source : String} (h : ofFile path source = .ok s) :
    ∃ d, (SettingsFormat.ofPath path).read? source = some d ∧
      ∀ f : Field, (f.entryIn? d).map f.ofEntry? = (s.get f).map some := by
  simp only [ofFile] at h
  split at h
  · cases h
  · next settings found =>
    obtain ⟨d, read, layer⟩ := Option.bind_eq_some_iff.1 found
    obtain ⟨others, unnamed, unset⟩ := entries_of_ofData? layer
    cases h
    refine ⟨d, read, fun f => ?_⟩
    by_cases same : f = .filter
    · subst same
      rw [Option.map_none, Option.map_eq_none_iff] at unnamed
      rw [unnamed, get, unset]
      rfl
    · exact others f same
  · next settings name found =>
    obtain ⟨d, read, layer⟩ := Option.bind_eq_some_iff.1 found
    obtain ⟨others, named, -⟩ := entries_of_ofData? layer
    cases filtered : parseFilter "limits.syscall_filter" name with
    | error e =>
      rw [filtered] at h
      cases h
    | ok filter =>
      rw [filtered] at h
      cases h
      refine ⟨d, read, fun f => ?_⟩
      by_cases same : f = .filter
      · subst same
        obtain ⟨entry, placed, text⟩ := Option.map_eq_some_iff.1 named
        rw [placed, Option.map_some]
        simp only [Field.ofEntry?, text, Option.bind_some, get_filter_of_parseFilter filtered]
        rfl
      · have kept : Settings.get { settings with filter := some filter } f = settings.get f := by
          cases f <;> first | rfl | exact absurd rfl same
        rw [kept]
        exact others f same

end Settings

namespace Config

/-- What the settings file holds that the environment names. -/
def fileData? (env : Environment) (read : Readable) : Option Data :=
  (env.filled? "GATE_CONFIG").bind fun path =>
    (read path).toOption.bind (SettingsFormat.ofPath path).read?

/-- What a settings file has for a field, if there is one. -/
def Field.filed? (f : Field) (env : Environment) (read : Readable) : Option Data :=
  (fileData? env read).bind f.entryIn?

/-- The layer of the settings file has of each field what the file has for it. -/
theorem filed_of_fileSettings {env : Environment} {read : Readable} {s : Settings}
    (h : fileSettings env read = .ok s) (f : Field) :
    (f.filed? env read).map f.ofEntry? = (s.get f).map some := by
  unfold fileSettings at h
  split at h
  · next unnamed =>
    cases h
    rw [Field.filed?, fileData?, unnamed, Settings.get_none]
    rfl
  · next path named =>
    split at h
    · cases h
    · next source found =>
      obtain ⟨d, holds, entries⟩ := Settings.entries_of_ofFile h
      rw [Field.filed?, fileData?, named, Option.bind_some, found, Except.toOption,
        Option.bind_some, holds, Option.bind_some, entries]

end Config

end SourceGate
