import Mathlib.Data.List.TakeWhile
import SourceGate.Namespace.Basic
import SourceGate.Proofs.Run.Worker
import SourceGate.Proofs.Verdict.Surface

/-! # The imports of a load

Loading resolves the paths that a module imports at its top level, in the order of its statements,
and ends at the first that the policy refuses. An accepted module imports no such path, so it loads,
and the log of the guard grows by exactly these paths.
-/

namespace SourceGate

/-- What becomes of a list of paths: the modules, or the refusal of the first one not allowed. -/
def Policy.resolveAll (policy : Policy) (paths : List String) : Except Failure (List ModuleRef) :=
  match paths.find? (!policy.allows ·) with
  | some path => .error (.ofRefusal (.importBlocked path (Policy.moduleRoot path)))
  | none => .ok (paths.map .ofPath)

section Admit

variable {policy : Policy}

theorem Policy.resolveAll_cons_of_allows {path : String} (h : policy.allows path = true)
    (rest : List String) :
    policy.resolveAll (path :: rest) = (policy.resolveAll rest).map (.ofPath path :: ·) := by
  rw [resolveAll, resolveAll, List.find?_cons_of_neg (by simp [h])]
  cases rest.find? (!policy.allows ·) <;> rfl

theorem Policy.resolveAll_append_of_refused {first : List String} {path : String}
    (before : ∀ p ∈ first, policy.allows p = true) (h : policy.allows path = false)
    (rest : List String) :
    policy.resolveAll (first ++ path :: rest) =
      .error (.ofRefusal (.importBlocked path (Policy.moduleRoot path))) := by
  have none_before : first.find? (!policy.allows ·) = none := by
    rw [List.find?_eq_none]
    intro p hp
    simp [before p hp]
  rw [resolveAll, List.find?_append, none_before, Option.none_or,
    List.find?_cons_of_pos (by simp [h])]

theorem Policy.resolveAll_append_of_allows {first : List String}
    (before : ∀ p ∈ first, policy.allows p = true) (rest : List String) :
    policy.resolveAll (first ++ rest) = (policy.resolveAll rest).map (first.map .ofPath ++ ·) := by
  induction first with
  | nil => cases h : policy.resolveAll rest <;> simp [h, Except.map]
  | cons path first ih =>
    rw [List.cons_append, resolveAll_cons_of_allows (before path (by simp)),
      ih fun p hp => before p (by simp [hp])]
    cases policy.resolveAll rest <;> rfl

theorem Policy.resolveAll_of_allows {paths : List String}
    (h : ∀ path ∈ paths, policy.allows path = true) :
    policy.resolveAll paths = .ok (paths.map .ofPath) := by
  have whole := resolveAll_append_of_allows h []
  rw [List.append_nil] at whole
  rw [whole]
  simp [resolveAll, Except.map]

/-- Either every path is allowed, or one is the first that is not. -/
theorem Policy.allows_or_first_refused (policy : Policy) (paths : List String) :
    (∀ path ∈ paths, policy.allows path = true) ∨
      ∃ before path after, paths = before ++ path :: after ∧
        (∀ p ∈ before, policy.allows p = true) ∧ policy.allows path = false := by
  cases found : paths.find? (!policy.allows ·) with
  | none =>
    rw [List.find?_eq_none] at found
    exact .inl (by simpa using found)
  | some path =>
    obtain ⟨refused, before, after, rfl, allowed⟩ := List.find?_eq_some_iff_append.1 found
    exact .inr ⟨before, path, after, rfl, by simpa using allowed, by simpa using refused⟩

theorem takeWhile_of_allows {first : List String}
    (before : ∀ p ∈ first, policy.allows p = true) (rest : List String) :
    (first ++ rest).takeWhile policy.allows = first ++ rest.takeWhile policy.allows :=
  List.takeWhile_append_of_pos before

theorem takeWhile_of_refused {first : List String} {path : String}
    (before : ∀ p ∈ first, policy.allows p = true) (h : policy.allows path = false)
    (rest : List String) : (first ++ path :: rest).takeWhile policy.allows = first := by
  rw [List.takeWhile_append_of_pos before, List.takeWhile_cons_of_neg (by simp [h]),
    List.append_nil]

end Admit

namespace Namespace

open Program

/-- So many dots in a row. -/
def dots : Nat → String
  | 0 => ""
  | n + 1 => "." ++ dots n

/-- The paths that a statement names as it is written: `import` names those of its list, and `from`
a dot for each level with the module behind them, if there is one. -/
def namedPaths : Tree.Stmt → List String
  | .imports _ modules => modules
  | .importsFrom _ none level _ => [dots level]
  | .importsFrom _ (some source) level _ => [dots level ++ source]
  | .function .. | .classDef .. | .assign .. | .loop .. | .block .. | .declare ..
  | .unsupported .. => []

/-- The paths that a module imports at its top level, in order. -/
def importPaths : List Tree.Stmt → List String
  | [] => []
  | s :: rest => namedPaths s ++ importPaths rest

theorem dots_eq (n : Nat) : dots n = String.ofList (List.replicate n '.') := by
  induction n with
  | zero => rfl
  | succ n ih =>
    rw [dots, ih, List.replicate_succ, ← String.toList_inj]
    simp

/-- The loader takes the paths of a statement as they are written. -/
theorem importsOf_eq_namedPaths (s : Tree.Stmt) : importsOf s = namedPaths s := by
  cases s with
  | importsFrom place source level names =>
    cases source with
    | none => simp [importsOf, namedPaths, importPath, dots_eq]
    | some source => simp [importsOf, namedPaths, importPath, dots_eq]
  | _ => rfl

theorem importPaths_cons (s : Tree.Stmt) (rest : List Tree.Stmt) :
    importPaths (s :: rest) = importsOf s ++ importPaths rest := by
  rw [importPaths, importsOf_eq_namedPaths]

theorem importPaths_eq_flatMap (body : List Tree.Stmt) :
    importPaths body = body.flatMap importsOf := by
  induction body with
  | nil => rfl
  | cons s rest ih => rw [importPaths_cons, ih, List.flatMap_cons]

variable {w : Worker} {generation : Nat} {guard : Guard}

theorem importAll_runFrom (paths : List String)
    (live : w.guardian.liveAs generation = some guard) :
    (importAll generation paths).runFrom w =
      (some (guard.policy.resolveAll paths), w.noting (paths.takeWhile guard.policy.allows)) := by
  induction paths generalizing w guard with
  | nil => simp [importAll, Policy.resolveAll, pure, runFrom]
  | cons path rest ih =>
    cases allowed : guard.policy.allows path with
    | false =>
      refine (runFrom_import_bind_of_refused live allowed _).trans ?_
      simp [Policy.resolveAll, allowed]
    | true =>
      refine (runFrom_import_bind_of_allows live allowed _).trans ?_
      have later := ih (Worker.liveAs_noting live [path])
      refine (runFrom_bind _ _ _).trans ?_
      rw [later, Guard.noting_policy, Policy.resolveAll_cons_of_allows allowed,
        List.takeWhile_cons_of_pos allowed]
      cases guard.policy.resolveAll rest <;> simp [Except.map, pure, runFrom]

/-! ## Statement by statement -/

/-- A namespace after a statement: what it imports, and what it declares. -/
def extend (n : Namespace) (s : Tree.Stmt) : Namespace :=
  { n with imports := n.imports ++ (importsOf s).map ModuleRef.ofPath }.declare s

/-- Methods are entered among the functions, and nothing else changes. -/
theorem addMethods_frame (n : Namespace) (name : String)
    (methods : List (String × List String × Location)) :
    (methods.foldl (fun n (method, params, place) =>
        n.addFunction s!"{name}.{method}" params place) n).imports = n.imports ∧
      (methods.foldl (fun n (method, params, place) =>
        n.addFunction s!"{name}.{method}" params place) n).generation = n.generation := by
  induction methods generalizing n with
  | nil => exact ⟨rfl, rfl⟩
  | cons method rest ih => exact ih _

/-- What a statement declares is no import. -/
theorem declare_frame (n : Namespace) (s : Tree.Stmt) :
    (n.declare s).imports = n.imports ∧ (n.declare s).generation = n.generation := by
  cases s with
  | classDef place name header body => exact addMethods_frame n name (methodsOf body)
  | _ => exact ⟨rfl, rfl⟩

theorem extend_generation (n : Namespace) (s : Tree.Stmt) :
    (n.extend s).generation = n.generation :=
  (declare_frame _ s).2

theorem extend_imports (n : Namespace) (s : Tree.Stmt) :
    (n.extend s).imports = n.imports ++ (importsOf s).map ModuleRef.ofPath :=
  (declare_frame _ s).1

theorem foldl_extend_imports (n : Namespace) (body : List Tree.Stmt) :
    (body.foldl extend n).imports = n.imports ++ (importPaths body).map ModuleRef.ofPath := by
  induction body generalizing n with
  | nil => simp [importPaths]
  | cons s rest ih =>
    rw [List.foldl_cons, ih, extend_imports, importPaths_cons, List.map_append, List.append_assoc]

theorem loadFrom_runFrom (n : Namespace) (body : List Tree.Stmt)
    (live : w.guardian.liveAs n.generation = some guard) (running : w.tripped = false) :
    (loadFrom n body).runFrom w =
      (some ((guard.policy.resolveAll (importPaths body)).map fun _ => body.foldl extend n),
        w.noting ((importPaths body).takeWhile guard.policy.allows)) := by
  induction body generalizing n w guard with
  | nil => simp [loadFrom, importPaths, Policy.resolveAll, pure, runFrom, Except.map]
  | cons s rest ih =>
    refine (runFrom_checkpoint_bind running _).trans ?_
    have imported := importAll_runFrom (importsOf s) live
    rw [importPaths_cons]
    rcases guard.policy.allows_or_first_refused (importsOf s) with
      allowed | ⟨before, path, after, split, allowed, refused⟩
    · rw [Policy.resolveAll_of_allows allowed, List.takeWhile_eq_self_iff.2 allowed] at imported
      refine (runFrom_bind_of_ok imported _).trans ?_
      have live := Worker.liveAs_noting live (importsOf s)
      rw [← extend_generation n s] at live
      refine (ih (n.extend s) live running).trans ?_
      rw [Policy.resolveAll_append_of_allows allowed, takeWhile_of_allows allowed,
        Guard.noting_policy, Worker.noting_noting, List.foldl_cons]
      cases guard.policy.resolveAll (importPaths rest) <;> rfl
    · rw [split, Policy.resolveAll_append_of_refused allowed refused,
        takeWhile_of_refused allowed refused, ← split] at imported
      refine (runFrom_bind_of_error imported _).trans ?_
      rw [split, List.append_assoc, List.cons_append,
        Policy.resolveAll_append_of_refused allowed refused, takeWhile_of_refused allowed refused]
      rfl

/-- A load ends, and what it ends with is settled by the paths that the module imports. -/
theorem load_run {world : World} (body : List Tree.Stmt)
    (live : world.guardian.liveAs generation = some guard) (running : world.tripped = false) :
    (load generation body).run world =
      (some ((guard.policy.resolveAll (importPaths body)).map fun _ =>
          body.foldl extend (empty generation body.length)),
        world.noting ((importPaths body).takeWhile guard.policy.allows)) := by
  have whole : (loadFrom (empty generation body.length) body).runFrom ⟨world, []⟩ = _ :=
    loadFrom_runFrom (empty generation body.length) body live running
  rw [run, load, whole]
  rfl

/-! ## The verdict and the load -/

section Agreement

variable {policy : Policy} {body : List Tree.Stmt} {world : World}

theorem allows_of_accepts (h : Tree.accepts policy body = true) {path : String}
    (hp : path ∈ importPaths body) : policy.allows path = true := by
  rw [importPaths_eq_flatMap] at hp
  obtain ⟨s, hs, hp⟩ := List.mem_flatMap.1 hp
  have silent := (Tree.StmtAt.top hs).stmtFindings_eq_nil h
  cases s with
  | imports place modules =>
    rw [Tree.stmtFindings, List.flatMap_eq_nil_iff] at silent
    exact Tree.importFindings_eq_nil_iff.1 (silent path hp)
  | importsFrom place source level names =>
    obtain rfl := List.mem_singleton.1 hp
    exact Tree.importFindings_eq_nil_iff.1 silent
  | function | classDef | assign | loop | block | declare | unsupported => cases hp

/-- How the load of a module under a guard agrees with the policy of the guard. -/
structure Agreement (policy : Policy) (body : List Tree.Stmt) (generation : Nat) (world : World) :
    Prop where
  /-- An accepted module loads, its imports are its top-level paths, and so is what the log of the
  guard gains. -/
  accepted : Tree.accepts policy body = true → ∃ n,
    (load generation body).run world = (some (.ok n), world.noting (importPaths body)) ∧
      n.imports = (importPaths body).map ModuleRef.ofPath
  succeeds_iff : (∃ n, ((load generation body).run world).1 = some (.ok n)) ↔
    ∀ path ∈ importPaths body, policy.allows path = true
  fails_iff : (∃ failure, ((load generation body).run world).1 = some (.error failure)) ↔
    ∃ path ∈ importPaths body, policy.allows path = false
  /-- The first refused path ends the load; the log gains the paths before it. -/
  blocked : ∀ before path after, importPaths body = before ++ path :: after →
    (∀ p ∈ before, policy.allows p = true) → policy.allows path = false →
      (load generation body).run world =
        (some (.error (.ofRefusal (.importBlocked path (Policy.moduleRoot path)))),
          world.noting before)

theorem load_of_allows (live : world.guardian.liveAs generation = some guard)
    (running : world.tripped = false)
    (allowed : ∀ path ∈ importPaths body, guard.policy.allows path = true) :
    ∃ n, (load generation body).run world = (some (.ok n), world.noting (importPaths body)) ∧
      n.imports = (importPaths body).map ModuleRef.ofPath := by
  refine ⟨body.foldl extend (empty generation body.length), ?_, ?_⟩
  · rw [load_run body live running, Policy.resolveAll_of_allows allowed,
      List.takeWhile_eq_self_iff.2 allowed]
    rfl
  · rw [foldl_extend_imports]
    rfl

theorem load_of_refused (live : world.guardian.liveAs generation = some guard)
    (running : world.tripped = false) {before : List String} {path : String} {after : List String}
    (paths : importPaths body = before ++ path :: after)
    (allowed : ∀ p ∈ before, guard.policy.allows p = true)
    (refused : guard.policy.allows path = false) :
    (load generation body).run world =
      (some (.error (.ofRefusal (.importBlocked path (Policy.moduleRoot path)))),
        world.noting before) := by
  rw [load_run body live running, paths, Policy.resolveAll_append_of_refused allowed refused,
    takeWhile_of_refused allowed refused]
  rfl

theorem load_agrees_with_verdict (live : world.guardian.liveAs generation = some guard)
    (own : guard.policy = policy) (running : world.tripped = false) :
    Agreement policy body generation world := by
  subst own
  have outcome := guard.policy.allows_or_first_refused (importPaths body)
  refine ⟨fun h => load_of_allows live running fun _ hp => allows_of_accepts h hp, ?_, ?_,
    fun _ _ _ paths allowed refused => load_of_refused live running paths allowed refused⟩
  all_goals
    rcases outcome with allowed | ⟨before, path, after, paths, allowed, refused⟩
  · obtain ⟨n, run_eq, -⟩ := load_of_allows live running allowed
    exact ⟨fun _ => allowed, fun _ => ⟨n, by rw [run_eq]⟩⟩
  · rw [load_of_refused live running paths allowed refused]
    have member : path ∈ importPaths body := by simp [paths]
    exact ⟨fun ⟨_, h⟩ => (by cases h), fun h => by simp [h path member] at refused⟩
  · obtain ⟨n, run_eq, -⟩ := load_of_allows live running allowed
    rw [run_eq]
    exact ⟨fun ⟨_, h⟩ => (by cases h),
      fun ⟨path, hp, refused⟩ => by simp [allowed path hp] at refused⟩
  · rw [load_of_refused live running paths allowed refused]
    exact ⟨fun _ => ⟨path, by simp [paths], refused⟩, fun _ => ⟨_, rfl⟩⟩

/-- `import math, collections.abc` and `from re import match`. -/
def threeImports : List Tree.Stmt :=
  [.imports ⟨1, 1⟩ ["math", "collections.abc"], .importsFrom ⟨2, 1⟩ (some "re") 0 ["match"]]

/-- A guard that is the fifth of its process and has let a module through before. -/
def busyWorld : World :=
  ⟨false, ⟨0⟩, ⟨some ⟨5, .standard, ["enum"]⟩, 5⟩⟩

theorem threeImports_load_agrees :
    busyWorld.guardian.liveAs 5 = some ⟨5, .standard, ["enum"]⟩ ∧
      Tree.accepts .standard threeImports = true ∧ Agreement .standard threeImports 5 busyWorld :=
  ⟨rfl, by decide +kernel, load_agrees_with_verdict rfl rfl rfl⟩

end Agreement

end Namespace

end SourceGate
