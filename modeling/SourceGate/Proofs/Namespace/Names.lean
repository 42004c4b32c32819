import Mathlib.Tactic.Tauto
import SourceGate.Proofs.Lowering.Stores
import SourceGate.Proofs.Namespace.Loaded

/-! # Names of a loaded namespace

The names that a load keeps are those that the assignments and the imports of a module enter. They
are not quite what the module binds: the annotation of an assignment with a value is entered as if
it were a target, a name behind a star is not entered, and an imported name is entered as it is
called in the other module. A module is exact just when what is entered so is bound elsewhere, and
what is left out is entered elsewhere.
-/

namespace SourceGate

/-- The name that is mentioned. -/
def Mention.name? (m : Mention) : Option String :=
  match m.shape with
  | .name text => some text
  | _ => none

/-! ## What a module binds -/

namespace Script

/-- What an imported name is called in the module that imports it. -/
def Alias.called (a : Alias) : String := a.asName.getD a.name

namespace Stmt

/-- What a statement imports by name; a star stands for no name. -/
def imported : Stmt → List Alias
  | .importNames _ _ names _ => names.filter (·.name != "*")
  | _ => []

/-- The targets of an assignment. An annotation without a value assigns nothing. -/
def targets : Stmt → List Expr
  | .assign _ targets _ => targets
  | .augAssign _ target _ _ => [target]
  | .annAssign _ target _ (some _) => [target]
  | _ => []

/-- The annotation of an assignment that has a value. -/
def annotation : Stmt → List Expr
  | .annAssign _ _ a (some _) => [a]
  | _ => []

variable (index : LineIndex) (s : Stmt)

/-- The names that a statement binds as an assignment or as an import from a module. -/
def boundNames : List String :=
  (bindsAll index s.targets).filterMap Mention.name? ++ s.imported.map Alias.called

/-- The names that a statement enters: those that its targets and its annotation show behind no
star, and those that it imports. -/
def enteredNames : List String :=
  (plainAll index (s.targets ++ s.annotation)).filterMap Mention.name? ++
    s.imported.map Alias.name

/-- The names that a statement enters and binds. -/
def sharedNames : List String :=
  (plainAll index s.targets).filterMap Mention.name? ++
    (s.imported.filter fun a => a.called == a.name).map Alias.name

/-- The names that a statement enters where it binds none of them. -/
def strayNames : List String :=
  (plainAll index s.annotation).filterMap Mention.name? ++
    (s.imported.filter fun a => a.called != a.name).map Alias.name

/-- The names that a statement binds where it enters none of them. -/
def missedNames : List String :=
  (starredNamesAll index s.targets).filterMap Mention.name? ++
    (s.imported.filter fun a => a.called != a.name).map Alias.called

variable {index s} {name : String}

/-- An imported name is called what it is, or goes by another name. -/
theorem mem_imported_iff (f : Alias → String) :
    name ∈ s.imported.map f ↔
      name ∈ (s.imported.filter fun a => a.called == a.name).map f ∨
        name ∈ (s.imported.filter fun a => a.called != a.name).map f := by
  simp only [List.mem_map, List.mem_filter, beq_iff_eq, bne_iff_ne, ne_eq]
  grind

theorem mem_enteredNames_iff :
    name ∈ s.enteredNames index ↔ name ∈ s.sharedNames index ∨ name ∈ s.strayNames index := by
  simp only [enteredNames, sharedNames, strayNames, List.mem_append, mem_imported_iff, plainAll_eq,
    List.flatMap_append, List.filterMap_append]
  tauto

theorem mem_boundNames_iff :
    name ∈ s.boundNames index ↔ name ∈ s.sharedNames index ∨ name ∈ s.missedNames index := by
  have split := ((bindsAll_perm index s.targets).filterMap Mention.name?).mem_iff (a := name)
  have called : (s.imported.filter fun a => a.called == a.name).map Alias.called =
      (s.imported.filter fun a => a.called == a.name).map Alias.name := by
    apply List.map_congr_left
    simp
  simp only [boundNames, sharedNames, missedNames, List.mem_append, mem_imported_iff, split, called,
    List.filterMap_append]
  tauto

end Stmt

end Script

/-! ## What a load enters -/

namespace Namespace

open Program
open SourceGate.Tree (Lowered StoresInto)

variable {index : LineIndex} {s : Script.Stmt} {t : Tree.Stmt}

theorem targetNamesAll_eq_mentions (es : List Tree.Expr) :
    Tree.targetNamesAll es =
      ((Tree.storedAll es).flatMap Tree.Expr.mentions).filterMap Mention.name? := by
  rw [Tree.targetNamesAll_eq_stored, List.filterMap_flatMap]
  apply List.flatMap_congr
  intro c stored
  rw [Tree.storedAll_eq, List.mem_flatMap] at stored
  obtain ⟨e, -, stored⟩ := stored
  obtain ⟨⟨mark, text, rfl⟩, -⟩ := Tree.Expr.mem_stored_iff.1 stored
  simp [Tree.targetNames, Tree.Expr.mentions_eq, Tree.Expr.mention?, Tree.Expr.children,
    Mention.name?]

theorem namesOf_of_storesInto {es : List Script.Expr} (h : StoresInto index es t) :
    namesOf t = (Script.plainAll index es).filterMap Mention.name? := by
  have stored := h.stored
  rw [← Script.plainAll_eq] at stored
  cases h with
  | assign images => rw [namesOf, targetNamesAll_eq_mentions, ← stored, Tree.Stmt.stored]
  | block none =>
    rw [none]
    rfl

/-- What is stored into are the targets, and an annotation that comes with a value. -/
theorem storeExprs_eq (s : Script.Stmt) : Tree.storeExprs s = s.targets ++ s.annotation := by
  cases s with
  | assign start targets value => simp [Tree.storeExprs, Script.Stmt.targets, Script.Stmt.annotation]
  | annAssign start target a value => cases value <;> rfl
  | _ => rfl

theorem imported_of_isAssignment (h : s.isAssignment = true) : s.imported = [] := by
  cases s <;> first | rfl | cases h

/-- A statement of the tree enters the names of the statement that it stands for. -/
theorem namesOf_of_lowered (h : Lowered index s t) : namesOf t = s.enteredNames index := by
  cases assigns : s.isAssignment with
  | true =>
    obtain ⟨next, rfl⟩ := h
    have into := (Tree.gives_assignment index assigns).outcome next
    rw [namesOf_of_storesInto into, storeExprs_eq, Script.Stmt.enteredNames,
      imported_of_isAssignment assigns, List.map_nil, List.append_nil]
  | false =>
    obtain ⟨next, rfl⟩ := h
    cases s with
    | assign | augAssign | annAssign => cases assigns
    | importNames start source names level =>
      rw [Tree.lowerStmt]
      exact List.filter_map
    | _ =>
      rw [Tree.lowerStmt]
      rfl

theorem flatMap_namesOf (index : LineIndex) (body : List Script.Stmt) :
    (Tree.ofModule index body).flatMap namesOf = body.flatMap (Script.Stmt.enteredNames index) :=
  Tree.flatMap_eq_of_forall₂ (Tree.lowered_ofModule index body) fun _ _ _ => namesOf_of_lowered

theorem mem_placeNames_iff {name : String} {names known : List String} :
    name ∈ placeNames names known ↔ name ∈ names ∨ name ∈ known := by
  unfold placeNames
  induction names generalizing known with
  | nil => simp
  | cons first rest ih =>
    rw [List.foldl_cons, ih, Text.mem_place, List.mem_cons]
    tauto

theorem increasing_placeNames {names known : List String} (h : known.Pairwise (· < ·)) :
    (placeNames names known).Pairwise (· < ·) := by
  unfold placeNames
  induction names generalizing known with
  | nil => exact h
  | cons first rest ih => exact ih (Text.increasing_place h)

/-- How the names of a namespace stand to what its module binds. -/
structure NamesOf (index : LineIndex) (body : List Script.Stmt) (names : List String) : Prop where
  increasing : names.Pairwise (· < ·)
  mem_iff {name : String} : name ∈ names ↔ ∃ s ∈ body, name ∈ s.enteredNames index
  /-- A name that is kept is bound, or it is an annotation or imported under another name. -/
  bound_or_stray {name : String} (h : name ∈ names) :
    (∃ s ∈ body, name ∈ s.boundNames index) ∨ ∃ s ∈ body, name ∈ s.strayNames index
  /-- A name that is bound is kept, or it stands behind a star or is given in an import. -/
  kept_or_missed {name : String} (h : ∃ s ∈ body, name ∈ s.boundNames index) :
    name ∈ names ∨ ∃ s ∈ body, name ∈ s.missedNames index
  /-- The names are those that are bound just when the stray ones are bound elsewhere and the missed
  ones are kept on account of others. -/
  exact_iff : (∀ name, name ∈ names ↔ ∃ s ∈ body, name ∈ s.boundNames index) ↔
    (∀ s ∈ body, ∀ name ∈ s.strayNames index, ∃ s ∈ body, name ∈ s.boundNames index) ∧
      ∀ s ∈ body, ∀ name ∈ s.missedNames index, name ∈ names

theorem namesOf_placeNames (index : LineIndex) (body : List Script.Stmt) :
    NamesOf index body (placeNames (body.flatMap (Script.Stmt.enteredNames index)) []) := by
  have mem_iff {name : String} :
      name ∈ placeNames (body.flatMap (Script.Stmt.enteredNames index)) [] ↔
        ∃ s ∈ body, name ∈ s.enteredNames index := by
    simp [mem_placeNames_iff]
  have kept_iff {name : String} :
      name ∈ placeNames (body.flatMap (Script.Stmt.enteredNames index)) [] ↔
        (∃ s ∈ body, name ∈ s.sharedNames index) ∨ ∃ s ∈ body, name ∈ s.strayNames index := by
    simp only [mem_iff, Script.Stmt.mem_enteredNames_iff, and_or_left, exists_or]
  have bound_iff {name : String} :
      (∃ s ∈ body, name ∈ s.boundNames index) ↔
        (∃ s ∈ body, name ∈ s.sharedNames index) ∨ ∃ s ∈ body, name ∈ s.missedNames index := by
    simp only [Script.Stmt.mem_boundNames_iff, and_or_left, exists_or]
  refine ⟨increasing_placeNames .nil, mem_iff, ?_, ?_, ?_⟩
  · intro name kept
    obtain shared | stray := kept_iff.1 kept
    · exact .inl (bound_iff.2 (.inl shared))
    · exact .inr stray
  · intro name bound
    obtain shared | missed := bound_iff.1 bound
    · exact .inl (kept_iff.2 (.inl shared))
    · exact .inr missed
  · constructor
    · intro exact
      constructor
      · intro s mem name stray
        exact (exact name).1 (kept_iff.2 (.inr ⟨s, mem, stray⟩))
      · intro s mem name missed
        exact (exact name).2 (bound_iff.2 (.inr ⟨s, mem, missed⟩))
    · rintro ⟨stray_bound, missed_kept⟩ name
      constructor
      · intro kept
        obtain shared | ⟨s, mem, stray⟩ := kept_iff.1 kept
        · exact bound_iff.2 (.inl shared)
        · exact stray_bound s mem name stray
      · intro bound
        obtain shared | ⟨s, mem, missed⟩ := bound_iff.1 bound
        · exact kept_iff.2 (.inl shared)
        · exact missed_kept s mem name missed

/-- Whatever source parses and loads. -/
theorem names_of_source {source : String} {tree : List Tree.Stmt} {generation : Nat} {n : Namespace}
    {world later : World} (parsed : Tree.ofText source = .ok tree)
    (loaded : (load generation tree).run world = (some (.ok n), later)) :
    ∃ body, Script.readModule source.toList = .ok body ∧
      NamesOf (.ofText source.toList) body n.names := by
  cases read : Script.readModule source.toList with
  | ok body =>
    delta Tree.ofText at parsed
    simp only [read] at parsed
    cases parsed
    refine ⟨body, rfl, ?_⟩
    rw [names_of_load loaded, flatMap_namesOf]
    exact namesOf_placeNames _ body
  | error fault =>
    delta Tree.ofText at parsed
    simp only [read] at parsed
    cases parsed

/-- An import under another name, an annotation and a star, one statement each. -/
def mixedText : String := "from math import sqrt as root\nx: int = 1\n*a, b = c\n"

/-- What `mixedText` leaves under the fifth guard of a process. -/
def mixed : Namespace := ⟨5, 3, [.ofPath "math"], [], [], ["b", "int", "sqrt", "x"]⟩

theorem exists_load_mixedText : ∃ tree later, Tree.ofText mixedText = .ok tree ∧
    (load 5 tree).run busyWorld = (some (.ok mixed), later) := by
  have loads : ∃ tree ∈ (Tree.ofText mixedText).toOption,
      ((load 5 tree).run busyWorld).1 = some (.ok mixed) := by
    decide +kernel
  obtain ⟨tree, parses, ends⟩ := loads
  exact ⟨tree, _, eq_ok_of_mem_toOption parses, Prod.ext ends rfl⟩

theorem mixedText_names :
    ∃ tree later, Tree.ofText mixedText = .ok tree ∧
      (load 5 tree).run busyWorld = (some (.ok mixed), later) ∧
      ∃ body, Script.readModule mixedText.toList = .ok body ∧
        NamesOf (.ofText mixedText.toList) body mixed.names := by
  obtain ⟨tree, later, parsed, loaded⟩ := exists_load_mixedText
  exact ⟨tree, later, parsed, loaded, names_of_source parsed loaded⟩

/-- The module binds `root`, `x`, `a` and `b`, and the names kept are others. -/
theorem mixed_names_differ :
    (∃ tree later, Tree.ofText mixedText = .ok tree ∧
      (load 5 tree).run busyWorld = (some (.ok mixed), later)) ∧
    (∃ body ∈ (Script.readModule mixedText.toList).toOption,
      body.flatMap (Script.Stmt.boundNames (.ofText mixedText.toList)) = ["root", "x", "a", "b"]) ∧
    mixed.names = ["b", "int", "sqrt", "x"] :=
  ⟨exists_load_mixedText, by decide +kernel, rfl⟩

end Namespace

end SourceGate
