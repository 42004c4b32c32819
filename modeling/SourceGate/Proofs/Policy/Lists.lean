import Mathlib.Data.List.Dedup
import SourceGate.Proofs.Policy.Tables

/-! # Which lists make a policy

Two lists make a policy if each of their entries is an identifier between its blanks and something
is forbidden, and else the first entry that is none is told, those of the allowed names first. Only
the sets of names count: lists make the same policy if and only if they can be got from each other
by reordering, by repeating an entry and by blanks around an entry.
-/

namespace SourceGate

theorem isPolicyName_iff {name : String} : isPolicyName name = true ↔ IsIdentifier name := by
  refine ⟨isIdentifier_of_isPolicyName, fun ⟨length_le, starts, word⟩ => ?_⟩
  obtain ⟨first, head, start⟩ := starts
  obtain ⟨rest, same⟩ := List.head?_eq_some_iff.1 head
  rw [same, List.length_cons] at length_le
  rw [same] at word
  simp only [isPolicyName, same, Bool.and_eq_true, Bool.or_eq_true, beq_iff_eq, List.all_eq_true,
    decide_eq_true_eq]
  exact ⟨⟨start, fun c hc => word c (List.mem_cons_of_mem _ hc)⟩, by omega⟩

/-! ## Blanks around a text -/

namespace Text

variable {left right text : List Char}

theorem trimLeft_append (blank : allBlank left = true) :
    trimLeft (left ++ text) = trimLeft text :=
  List.dropWhile_append_of_pos (List.all_eq_true.1 blank)

theorem trimLeft_eq_nil_iff : trimLeft text = [] ↔ allBlank text = true := by
  rw [trimLeft, List.dropWhile_eq_nil_iff, allBlank, List.all_eq_true]

theorem trim_append_right (blank : allBlank right = true) : trim (text ++ right) = trim text := by
  by_cases nothing : allBlank text = true
  · have both : allBlank (text ++ right) = true := by
      rw [allBlank, List.all_append, Bool.and_eq_true]
      exact ⟨nothing, blank⟩
    rw [trim, trim, trimLeft_eq_nil_iff.2 nothing, trimLeft_eq_nil_iff.2 both]
  · have opened : trimLeft (text ++ right) = trimLeft text ++ right := by
      rw [trimLeft, List.dropWhile_append, if_neg]
      · rfl
      · rw [List.isEmpty_iff]
        exact fun none => nothing (trimLeft_eq_nil_iff.1 none)
    have turned : allBlank right.reverse = true := by
      rw [allBlank, List.all_reverse]
      exact blank
    rw [trim, opened, List.reverse_append, trimLeft_append turned, trim]

theorem trim_append_left (blank : allBlank left = true) : trim (left ++ text) = trim text := by
  rw [trim, trimLeft_append blank, trim]

/-- The blanks that open a text are cut off it, and the rest of it is left. -/
theorem exists_eq_append_trimLeft (text : List Char) :
    ∃ left, allBlank left = true ∧ text = left ++ trimLeft text :=
  ⟨text.takeWhile isBlank, List.all_takeWhile, List.takeWhile_append_dropWhile.symm⟩

theorem exists_eq_append_trim (text : List Char) :
    ∃ left right, allBlank left = true ∧ allBlank right = true ∧
      text = left ++ trim text ++ right := by
  obtain ⟨left, blank, opened⟩ := exists_eq_append_trimLeft text
  obtain ⟨right, blank', closed⟩ := exists_eq_append_trimLeft (trimLeft text).reverse
  refine ⟨left, right.reverse, blank, by rwa [allBlank, List.all_reverse], ?_⟩
  have turned : trimLeft text = trim text ++ right.reverse := by
    rw [← List.reverse_reverse (trimLeft text), closed, List.reverse_append, trim]
  rw [List.append_assoc, ← turned]
  exact opened

/-- A text between other texts. -/
def padded (left text right : String) : String := left ++ text ++ right

theorem trimmed_padded {left right : String} (text : String)
    (blank : allBlank left.toList = true) (blank' : allBlank right.toList = true) :
    trimmed (padded left text right) = trimmed text := by
  rw [trimmed, padded, String.toList_append, String.toList_append, trim_append_right blank',
    trim_append_left blank, trimmed]

theorem exists_eq_padded_trimmed (text : String) :
    ∃ left right, allBlank left.toList = true ∧ allBlank right.toList = true ∧
      text = padded left (trimmed text) right := by
  obtain ⟨left, right, blank, blank', same⟩ := exists_eq_append_trim text.toList
  refine ⟨.ofList left, .ofList right, by simpa using blank, by simpa using blank', ?_⟩
  apply String.toList_inj.1
  simpa [padded, trimmed] using same

end Text

namespace Policy

/-! ## Rearranging a list -/

/-- A list is got from another by reordering, by repeating an entry and by blanks around one. -/
inductive Rearranges : List String → List String → Prop where
  | reorder {entries entries'} (h : entries.Perm entries') : Rearranges entries entries'
  | again {entry entries} (h : entry ∈ entries) : Rearranges entries (entry :: entries)
  | pad {left right} (before entry after) (blank : Text.allBlank left.toList = true)
      (blank' : Text.allBlank right.toList = true) :
      Rearranges (before ++ entry :: after) (before ++ Text.padded left entry right :: after)
  | symm {entries entries'} (h : Rearranges entries entries') : Rearranges entries' entries
  | trans {entries entries' entries''} (h : Rearranges entries entries')
      (h' : Rearranges entries' entries'') : Rearranges entries entries''

/-- Two lists have the same names between the blanks of their entries. -/
def SameNames (entries entries' : List String) : Prop :=
  ∀ n, (∃ e ∈ entries, Text.trimmed e = n) ↔ ∃ e ∈ entries', Text.trimmed e = n

variable {entries entries' : List String}

theorem Rearranges.sameNames (h : Rearranges entries entries') : SameNames entries entries' := by
  induction h with
  | reorder h => exact fun n => exists_congr fun e => and_congr_left fun _ => h.mem_iff
  | again h =>
    intro n
    simp only [List.mem_cons, exists_eq_or_imp]
    exact (or_iff_right_of_imp fun same => ⟨_, h, same⟩).symm
  | pad before entry after blank blank' =>
    intro n
    simp only [List.mem_append, List.mem_cons, or_and_right, exists_or, exists_eq_left,
      Text.trimmed_padded entry blank blank']
  | symm _ ih => exact fun n => (ih n).symm
  | trans _ _ ih ih' => exact fun n => (ih n).trans (ih' n)

theorem Rearranges.refl (entries : List String) : Rearranges entries entries := .reorder (.refl _)

theorem Rearranges.cons (entry : String) (h : Rearranges entries entries') :
    Rearranges (entry :: entries) (entry :: entries') := by
  induction h with
  | reorder h => exact .reorder (h.cons entry)
  | again h => exact .trans (.again (List.mem_cons_of_mem _ h)) (.reorder (.swap _ _ _))
  | pad before other after blank blank' => exact .pad (entry :: before) other after blank blank'
  | symm _ ih => exact .symm ih
  | trans _ _ ih ih' => exact .trans ih ih'

theorem rearranges_map_trimmed (entries : List String) :
    Rearranges entries (entries.map Text.trimmed) := by
  induction entries with
  | nil => exact .refl _
  | cons entry rest ih =>
    obtain ⟨left, right, blank, blank', same⟩ := Text.exists_eq_padded_trimmed entry
    have bare : Rearranges (entry :: rest) (Text.trimmed entry :: rest) := by
      have padded := Rearranges.pad [] (Text.trimmed entry) rest blank blank'
      rw [← same] at padded
      exact .symm padded
    exact .trans bare (ih.cons _)

theorem rearranges_dedup (entries : List String) : Rearranges entries entries.dedup := by
  induction entries with
  | nil => exact .refl _
  | cons entry rest ih =>
    by_cases h : entry ∈ rest
    · rw [List.dedup_cons_of_mem h]
      exact .trans (.symm (.again h)) ih
    · rw [List.dedup_cons_of_notMem h]
      exact ih.cons entry

/-- Nothing but the set of names is kept by rearranging. -/
theorem rearranges_iff_sameNames : Rearranges entries entries' ↔ SameNames entries entries' := by
  refine ⟨Rearranges.sameNames, fun same => ?_⟩
  have bare (entries : List String) : Rearranges entries (entries.map Text.trimmed).dedup :=
    .trans (rearranges_map_trimmed entries) (rearranges_dedup _)
  have perm : (entries.map Text.trimmed).dedup.Perm (entries'.map Text.trimmed).dedup := by
    rw [List.perm_ext_iff_of_nodup (List.nodup_dedup _) (List.nodup_dedup _)]
    intro n
    rw [List.mem_dedup, List.mem_dedup, List.mem_map, List.mem_map]
    exact same n
  exact .trans (bare entries) (.trans (.reorder perm) (.symm (bare entries')))

/-! ## The first fault -/

/-- Every entry is an identifier between its blanks. -/
def Named (entries : List String) : Prop := ∀ e ∈ entries, IsIdentifier (Text.trimmed e)

/-- What is told of two lists that make no policy. -/
inductive FirstFault : List String → List String → PolicyError → Prop where
  | allowed {before entry after forbidden} (good : Named before)
      (bad : ¬ IsIdentifier (Text.trimmed entry)) :
      FirstFault (before ++ entry :: after) forbidden (.badName .allowedModule (Text.trimmed entry))
  | forbidden {allowed before entry after} (named : Named allowed) (good : Named before)
      (bad : ¬ IsIdentifier (Text.trimmed entry)) :
      FirstFault allowed (before ++ entry :: after)
        (.badName .forbiddenOperation (Text.trimmed entry))
  | nothing {allowed} (named : Named allowed) : FirstFault allowed [] .nothingForbidden

variable {table : PolicyTable} {set : NameSet} {error : PolicyError}
  {allowed forbidden allowed' forbidden' : List String} {policy : Policy}

theorem named_iff : Named entries ↔ ∀ e ∈ entries, isPolicyName (Text.trimmed e) = true := by
  simp only [Named, isPolicyName_iff]

theorem exists_collect_iff : (∃ set', collect table set entries = .ok set') ↔ Named entries := by
  rw [named_iff]
  exact ⟨fun ⟨_, h⟩ => (adds_of_collect h).valid, fun valid => exists_collect table valid set⟩

theorem collect_eq_error_iff :
    collect table set entries = .error error ↔ ∃ before entry after,
      entries = before ++ entry :: after ∧ Named before ∧ ¬ IsIdentifier (Text.trimmed entry) ∧
        error = .badName table (Text.trimmed entry) := by
  induction entries generalizing set with
  | nil => simp [collect]
  | cons first rest ih =>
    rw [collect]
    split
    · next valid =>
      rw [ih]
      constructor
      · rintro ⟨before, entry, after, rfl, good, bad, rfl⟩
        refine ⟨first :: before, entry, after, rfl, ?_, bad, rfl⟩
        exact List.forall_mem_cons.2 ⟨isPolicyName_iff.1 valid, good⟩
      · rintro ⟨before, entry, after, same, good, bad, rfl⟩
        cases before with
        | nil =>
          obtain ⟨rfl, rfl⟩ := List.cons.inj same
          exact absurd (isPolicyName_iff.1 valid) bad
        | cons _ before =>
          obtain ⟨rfl, rfl⟩ := List.cons.inj same
          exact ⟨before, entry, after, rfl, (List.forall_mem_cons.1 good).2, bad, rfl⟩
    · next invalid =>
      rw [isPolicyName_iff] at invalid
      constructor
      · rintro ⟨⟩
        exact ⟨[], first, rest, rfl, by simp [Named], invalid, rfl⟩
      · rintro ⟨before, entry, after, same, good, bad, rfl⟩
        cases before with
        | nil =>
          obtain ⟨rfl, rfl⟩ := List.cons.inj same
          rfl
        | cons _ before =>
          obtain ⟨rfl, rfl⟩ := List.cons.inj same
          exact absurd (List.forall_mem_cons.1 good).1 invalid

theorem Adds.names_eq_nil_iff {set' : NameSet} (h : Adds .empty entries set') :
    set'.names = [] ↔ entries = [] := by
  simp only [List.eq_nil_iff_forall_not_mem, h.mem_iff]
  constructor
  · intro none e he
    exact none _ (.inr ⟨e, he, rfl⟩)
  · rintro none n (empty | ⟨e, he, -⟩)
    · cases empty
    · exact none e he

theorem ofLists_eq_error_iff :
    ofLists allowed forbidden = .error error ↔ FirstFault allowed forbidden error := by
  constructor
  · intro h
    unfold ofLists at h
    cases ha : collect .allowedModule .empty allowed with
    | error fault =>
      obtain ⟨before, entry, after, rfl, good, bad, rfl⟩ := collect_eq_error_iff.1 ha
      rw [ha] at h
      cases h
      exact .allowed good bad
    | ok allowedSet =>
      have named : Named allowed := exists_collect_iff.1 ⟨_, ha⟩
      rw [ha] at h
      cases hf : collect .forbiddenOperation .empty forbidden with
      | error fault =>
        obtain ⟨before, entry, after, rfl, good, bad, rfl⟩ := collect_eq_error_iff.1 hf
        rw [hf] at h
        cases h
        exact .forbidden named good bad
      | ok forbiddenSet =>
        rw [hf] at h
        change (if h : forbiddenSet.names ≠ [] then _ else _) = _ at h
        split at h
        · cases h
        · next empty =>
          obtain rfl := (adds_of_collect hf).names_eq_nil_iff.1 (not_not.1 empty)
          cases h
          exact .nothing named
  · intro fault
    cases fault with
    | allowed good bad =>
      rw [ofLists, collect_eq_error_iff.2 ⟨_, _, _, rfl, good, bad, rfl⟩]
      rfl
    | forbidden named good bad =>
      obtain ⟨allowedSet, ha⟩ := exists_collect .allowedModule (named_iff.1 named) .empty
      simp only [ofLists, ha, collect_eq_error_iff.2 ⟨_, _, _, rfl, good, bad, rfl⟩]
      rfl
    | nothing named =>
      obtain ⟨allowedSet, ha⟩ := exists_collect_iff.2 named
      rw [ofLists, ha]
      rfl

/-! ## The whole of it -/

theorem exists_adds_iff : (∃ set', Adds set entries set') ↔ Named entries := by
  refine ⟨fun ⟨_, adds⟩ => named_iff.2 adds.valid, fun named => ?_⟩
  obtain ⟨set', h⟩ := exists_collect .allowedModule (named_iff.1 named) set
  exact ⟨set', adds_of_collect h⟩

theorem exists_ofLists_iff :
    (∃ policy, ofLists allowed forbidden = .ok policy) ↔
      Named (allowed ++ forbidden) ∧ forbidden ≠ [] := by
  simp only [ofLists_eq_ok_iff]
  constructor
  · rintro ⟨policy, made⟩
    refine ⟨List.forall_mem_append.2 ⟨exists_adds_iff.1 ⟨_, made.allowed⟩,
      exists_adds_iff.1 ⟨_, made.forbidden⟩⟩, fun empty => ?_⟩
    exact policy.forbidden_nonempty (made.forbidden.names_eq_nil_iff.2 empty)
  · rintro ⟨named, nonempty⟩
    obtain ⟨ha, hf⟩ := List.forall_mem_append.1 named
    obtain ⟨allowedSet, allowedAdds⟩ := exists_adds_iff.2 ha
    obtain ⟨forbiddenSet, forbiddenAdds⟩ := exists_adds_iff.2 hf
    have forbids : forbiddenSet.names ≠ [] := fun empty =>
      nonempty (forbiddenAdds.names_eq_nil_iff.1 empty)
    exact ⟨⟨allowedSet, forbiddenSet, forbids⟩, allowedAdds, forbiddenAdds⟩

/-- The names of a table that is made of a list are those between the blanks of its entries. -/
theorem Adds.mem_names_iff {set' : NameSet} (h : Adds .empty entries set') (n : String) :
    n ∈ set'.names ↔ ∃ e ∈ entries, Text.trimmed e = n :=
  (h.mem_iff n).trans (or_iff_right List.not_mem_nil)

theorem SameNames.adds (same : SameNames entries entries') {set' : NameSet}
    (h : Adds .empty entries set') : Adds .empty entries' set' where
  valid e he := by
    obtain ⟨other, ho, trimmed⟩ := (same _).2 ⟨e, he, rfl⟩
    rw [← trimmed]
    exact h.valid other ho
  mem_iff n := (h.mem_iff n).trans (or_congr_right (same n))

theorem sameNames_iff_adds {set' : NameSet} (h : Adds .empty entries set') :
    SameNames entries entries' ↔ Adds .empty entries' set' :=
  ⟨fun same => same.adds h, fun h' n => (h.mem_names_iff n).symm.trans (h'.mem_names_iff n)⟩

/-- Lists make a policy that is made already just when they are rearrangements of its lists. -/
theorem ofLists_eq_ok_iff_rearranges (h : ofLists allowed forbidden = .ok policy) :
    ofLists allowed' forbidden' = .ok policy ↔
      Rearranges allowed allowed' ∧ Rearranges forbidden forbidden' := by
  obtain ⟨allowedAdds, forbiddenAdds⟩ := ofLists_eq_ok_iff.1 h
  rw [ofLists_eq_ok_iff, rearranges_iff_sameNames, rearranges_iff_sameNames,
    sameNames_iff_adds allowedAdds, sameNames_iff_adds forbiddenAdds]
  exact ⟨fun made => ⟨made.allowed, made.forbidden⟩, fun ⟨a, f⟩ => ⟨a, f⟩⟩

/-- What two lists make, and what is told where they make nothing. -/
structure SetsAlone (allowed forbidden : List String) : Prop where
  makes_iff : (∃ policy, ofLists allowed forbidden = .ok policy) ↔
    Named (allowed ++ forbidden) ∧ forbidden ≠ []
  mem_allowed_iff : ∀ {policy}, ofLists allowed forbidden = .ok policy →
    ∀ n, n ∈ policy.allowed.names ↔ ∃ e ∈ allowed, Text.trimmed e = n
  mem_forbidden_iff : ∀ {policy}, ofLists allowed forbidden = .ok policy →
    ∀ n, n ∈ policy.forbidden.names ↔ ∃ e ∈ forbidden, Text.trimmed e = n
  same_iff : ∀ {policy allowed' forbidden'}, ofLists allowed forbidden = .ok policy →
    (ofLists allowed' forbidden' = .ok policy ↔
      Rearranges allowed allowed' ∧ Rearranges forbidden forbidden')
  fingerprint : ∀ {policy allowed' forbidden'}, ofLists allowed forbidden = .ok policy →
    Rearranges allowed allowed' → Rearranges forbidden forbidden' →
      (ofLists allowed' forbidden').map Policy.fingerprint = .ok policy.fingerprint
  rebuilt : ∀ {policy}, ofLists allowed forbidden = .ok policy →
    ofLists policy.allowed.names policy.forbidden.names = .ok policy
  fault_iff : ∀ {error}, ofLists allowed forbidden = .error error ↔
    FirstFault allowed forbidden error

theorem sets_alone (allowed forbidden : List String) : SetsAlone allowed forbidden where
  makes_iff := exists_ofLists_iff
  mem_allowed_iff h := (ofLists_eq_ok_iff.1 h).allowed.mem_names_iff
  mem_forbidden_iff h := (ofLists_eq_ok_iff.1 h).forbidden.mem_names_iff
  same_iff := ofLists_eq_ok_iff_rearranges
  fingerprint h ha hf := by
    rw [(ofLists_eq_ok_iff_rearranges h).2 ⟨ha, hf⟩]
    rfl
  rebuilt {policy} _ := ofLists_names policy
  fault_iff := ofLists_eq_error_iff

/-- A name that is allowed and one that is none come before a forbidden one that is none. -/
example : ofLists ["math", " ma th ", "9"] ["os.system"] =
    .error (.badName .allowedModule "ma th") := by
  rfl

end Policy

end SourceGate
