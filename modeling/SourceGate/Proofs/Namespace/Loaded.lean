import SourceGate.Proofs.Namespace.Imports

/-! # What a load leaves

A load that ends with a namespace has gone through every statement of the module, whatever guard was
live. Its functions, classes and names are those that the statements enter, one after another.
-/

namespace SourceGate

namespace Program

variable {α β : Type}

/-- A sequence ends with a value only if its first part does. -/
theorem exists_of_runFrom_bind_ok {p : Program α} {f : α → Program β} {w after : Worker} {b : β}
    (h : (p.bind f).runFrom w = (some (.ok b), after)) :
    ∃ a between, p.runFrom w = (some (.ok a), between) ∧
      (f a).runFrom between = (some (.ok b), after) := by
  rw [runFrom_bind] at h
  split at h
  · next a between first => exact ⟨a, between, first, h⟩
  · cases h
  · cases h

theorem eq_of_runFrom_ofAnswer_ok {answer : Except Refusal α} {w after : Worker} {a : α}
    (h : (ofAnswer answer).runFrom w = (some (.ok a), after)) : answer = .ok a := by
  cases answer <;> simp_all [ofAnswer, runFrom]

end Program

/-- A module is let through as its path says. -/
theorem Guardian.eq_ofPath_of_resolve_ok {g : Guardian} {generation : Nat} {path : String}
    {module : ModuleRef} (h : (g.resolve generation path).1 = .ok module) :
    module = .ofPath path := by
  unfold resolve at h
  split at h
  · split at h
    · cases h
      rfl
    · cases h
  · cases h

namespace Namespace

open Program

/-! ## Statement by statement -/

section Load

variable {n : Namespace} {w after : Worker}

theorem eq_of_importAll_ok {generation : Nat} {paths : List String} {modules : List ModuleRef}
    (h : (importAll generation paths).runFrom w = (some (.ok modules), after)) :
    modules = paths.map .ofPath := by
  induction paths generalizing w modules with
  | nil =>
    cases h
    rfl
  | cons path rest ih =>
    obtain ⟨answer, w₁, resolved, h⟩ := exists_of_runFrom_bind_ok h
    obtain ⟨module, w₂, told, h⟩ := exists_of_runFrom_bind_ok h
    obtain ⟨others, w₃, imported, h⟩ := exists_of_runFrom_bind_ok h
    have let_through : (w.guardian.resolve generation path).1 = .ok module := by
      rw [← eq_of_runFrom_ofAnswer_ok told]
      cases resolved
      rfl
    cases h
    rw [Guardian.eq_ofPath_of_resolve_ok let_through, ih imported, List.map_cons]

theorem eq_foldl_extend_of_loadFrom_ok {start : Namespace} {body : List Tree.Stmt}
    (h : (loadFrom start body).runFrom w = (some (.ok n), after)) :
    n = body.foldl extend start := by
  induction body generalizing start w with
  | nil =>
    cases h
    rfl
  | cons s rest ih =>
    obtain ⟨_, _, -, h⟩ := exists_of_runFrom_bind_ok h
    obtain ⟨_, _, -, h⟩ := exists_of_runFrom_bind_ok h
    obtain ⟨modules, _, imported, h⟩ := exists_of_runFrom_bind_ok h
    rw [eq_of_importAll_ok imported] at h
    exact ih h

/-- A loaded namespace is what the statements of the module add, in their order. -/
theorem eq_foldl_extend_of_load {generation : Nat} {body : List Tree.Stmt} {world later : World}
    (h : (load generation body).run world = (some (.ok n), later)) :
    n = body.foldl extend (empty generation body.length) := by
  have ended := congrArg Prod.fst h
  have from_worker : (loadFrom (empty generation body.length) body).runFrom ⟨world, []⟩ =
      (some (.ok n), ((load generation body).runFrom ⟨world, []⟩).2) := Prod.ext ended rfl
  exact eq_foldl_extend_of_loadFrom_ok from_worker

end Load

/-! ## What a statement enters -/

/-- The name of a method among the functions. -/
def qualified (className method : String) : String := className ++ "." ++ method

/-- The functions that a statement enters: itself, or the methods of a class. -/
def functionsOf : Tree.Stmt → List FunctionInfo
  | .function place name params _ _ => [⟨name, params, place⟩]
  | .classDef _ name _ body =>
    (methodsOf body).map fun (method, params, place) => ⟨qualified name method, params, place⟩
  | _ => []

/-- The class that a statement enters. -/
def classesOf : Tree.Stmt → List ClassInfo
  | .classDef place name _ body => [⟨name, (methodsOf body).map (·.1), place⟩]
  | _ => []

/-- The names that a statement enters: those of the targets of an assignment, and those that are
imported from a module. -/
def namesOf : Tree.Stmt → List String
  | .assign _ targets _ => Tree.targetNamesAll targets
  | .importsFrom _ _ _ names => names.filter (· != "*")
  | _ => []

/-- Functions by their qualified names, entered one after another. -/
def enterFunctions (fs : List FunctionInfo) (known : List (String × FunctionInfo)) :
    List (String × FunctionInfo) :=
  fs.foldl (fun known f => Text.enter f.qualifiedName f known) known

/-- Classes by their names, entered one after another. -/
def enterClasses (cs : List ClassInfo) (known : List (String × ClassInfo)) :
    List (String × ClassInfo) :=
  cs.foldl (fun known c => Text.enter c.name c known) known

/-- Names put in their places, one after another. -/
def placeNames (names known : List String) : List String :=
  names.foldl (fun known name => Text.place name known) known

section Tables

variable (n : Namespace)

/-- Methods are entered among the functions alone. -/
theorem addMethods_tables (className : String) (methods : List (String × List String × Location)) :
    methods.foldl
        (fun n (method, params, place) => n.addFunction s!"{className}.{method}" params place) n =
      { n with
        functions := enterFunctions
          (methods.map fun (method, params, place) => ⟨qualified className method, params, place⟩)
          n.functions } := by
  induction methods generalizing n with
  | nil => rfl
  | cons method rest ih =>
    rw [List.foldl_cons, ih]
    rfl

theorem extend_functions (s : Tree.Stmt) :
    (n.extend s).functions = enterFunctions (functionsOf s) n.functions := by
  cases s with
  | classDef place name header body => simp [extend, declare, addClass, addMethods_tables, functionsOf]
  | _ => rfl

theorem extend_classes (s : Tree.Stmt) :
    (n.extend s).classes = enterClasses (classesOf s) n.classes := by
  cases s with
  | classDef place name header body =>
    simp [extend, declare, addClass, addMethods_tables, classesOf, enterClasses]
  | _ => rfl

theorem extend_names (s : Tree.Stmt) :
    (n.extend s).names = placeNames (namesOf s) n.names := by
  cases s with
  | classDef place name header body =>
    simp [extend, declare, addClass, addMethods_tables, namesOf, placeNames]
  | _ => rfl

/-- A table that each statement adds its entries to has those of all statements in the end. -/
theorem foldl_extend_table {τ ε : Type} (table : Namespace → τ) (add : τ → ε → τ)
    (entries : Tree.Stmt → List ε)
    (step : ∀ n s, table (n.extend s) = (entries s).foldl add (table n))
    (body : List Tree.Stmt) :
    table (body.foldl extend n) = (body.flatMap entries).foldl add (table n) := by
  induction body generalizing n with
  | nil => rfl
  | cons s rest ih => rw [List.foldl_cons, ih, step, List.flatMap_cons, List.foldl_append]

end Tables

section Loaded

variable {n : Namespace} {generation : Nat} {body : List Tree.Stmt} {world later : World}
  (h : (load generation body).run world = (some (.ok n), later))

include h

theorem functions_of_load : n.functions = enterFunctions (body.flatMap functionsOf) [] := by
  rw [eq_foldl_extend_of_load h]
  exact foldl_extend_table _ (·.functions) _ functionsOf extend_functions body

theorem classes_of_load : n.classes = enterClasses (body.flatMap classesOf) [] := by
  rw [eq_foldl_extend_of_load h]
  exact foldl_extend_table _ (·.classes) _ classesOf extend_classes body

theorem names_of_load : n.names = placeNames (body.flatMap namesOf) [] := by
  rw [eq_foldl_extend_of_load h]
  exact foldl_extend_table _ (·.names) _ namesOf extend_names body

end Loaded

end Namespace

end SourceGate
