import SourceGate.Run.Program
import SourceGate.Text.Ordered
import SourceGate.Verdict.Scope

/-! # The namespace of an admitted module

What a module declares at its top level. Loading resolves the imports through the live guard and
runs nothing of the module.
-/

namespace SourceGate

structure FunctionInfo where
  /-- `name` of a function of the module, `Class.name` of a method. -/
  qualifiedName : String
  params : List String
  place : Location
  deriving DecidableEq, Repr, Inhabited

def FunctionInfo.isMethod (f : FunctionInfo) : Bool := f.qualifiedName.contains '.'

structure ClassInfo where
  name : String
  methods : List String
  place : Location
  deriving DecidableEq, Repr, Inhabited

/-- The functions and classes are kept by name, in the order of the names, as are the names bound by
assignments and imports. -/
structure Namespace where
  /-- The number of the guard it was loaded under. -/
  generation : Nat
  statements : Nat
  imports : List ModuleRef
  functions : List (String × FunctionInfo)
  classes : List (String × ClassInfo)
  names : List String
  deriving DecidableEq, Repr, Inhabited

namespace Namespace

def empty (generation statements : Nat) : Namespace := ⟨generation, statements, [], [], [], []⟩

def function? (n : Namespace) (name : String) : Option FunctionInfo := Text.lookup name n.functions

def addFunction (n : Namespace) (qualifiedName : String) (params : List String)
    (place : Location) : Namespace :=
  { n with functions := Text.enter qualifiedName ⟨qualifiedName, params, place⟩ n.functions }

def addNames (n : Namespace) (names : List String) : Namespace :=
  { n with names := names.foldl (fun known name => Text.place name known) n.names }

/-- The methods that a class body defines, with their parameters and places. -/
def methodsOf (body : List Tree.Stmt) : List (String × List String × Location) :=
  body.filterMap fun
    | .function place name params _ _ => some (name, params, place)
    | _ => none

/-- The methods under their qualified names, and the class by its name. -/
def addClass (n : Namespace) (name : String) (place : Location) (body : List Tree.Stmt) :
    Namespace :=
  let methods := methodsOf body
  let withMethods := methods.foldl
    (fun n (method, params, place) => n.addFunction s!"{name}.{method}" params place) n
  { withMethods with
    classes := Text.enter name ⟨name, methods.map (·.1), place⟩ withMethods.classes }

/-- What a statement other than an import adds. -/
def declare (n : Namespace) : Tree.Stmt → Namespace
  | .function place name params _ _ => n.addFunction name params place
  | .classDef place name _ body => n.addClass name place body
  | .assign _ targets _ => n.addNames (Tree.targetNamesAll targets)
  | .importsFrom _ _ _ names => n.addNames (names.filter (· != "*"))
  | _ => n

/-- The paths that a statement imports. -/
def importsOf : Tree.Stmt → List String
  | .imports _ modules => modules
  | .importsFrom _ source level _ => [importPath source level]
  | _ => []

/-- Paths resolved one after another, up to the first that is blocked. -/
def importAll (generation : Nat) : List String → Program (List ModuleRef)
  | [] => return []
  | path :: rest => do
    let module ← Program.ofAnswer (← Program.importModule generation path)
    return module :: (← importAll generation rest)

/-- The statements one after another; a run that was given up stops before the next of them. -/
def loadFrom (n : Namespace) : List Tree.Stmt → Program Namespace
  | [] => return n
  | s :: rest => do
    Program.ofAnswer (← Program.checkpoint)
    let modules ← importAll n.generation (importsOf s)
    loadFrom ({ n with imports := n.imports ++ modules }.declare s) rest

/-- The namespace of a module, loaded under the number of a guard. -/
def load (generation : Nat) (body : List Tree.Stmt) : Program Namespace :=
  loadFrom (empty generation body.length) body

end Namespace

end SourceGate
