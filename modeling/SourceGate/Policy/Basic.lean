import SourceGate.Policy.NameSet
import SourceGate.Text.Blank
import SourceGate.Digest.Sha256

/-! # Policies

The module roots that source may import and the operations it must not reach, however they are
spelled. A policy is made once from two lists of names and never changed.
-/

namespace SourceGate

/-- The two tables of a policy. -/
inductive PolicyTable where
  | allowedModule | forbiddenOperation
  deriving DecidableEq, Repr, Inhabited

def PolicyTable.label : PolicyTable → String
  | allowedModule => "allowed module"
  | forbiddenOperation => "forbidden operation"

/-- Why two lists make no policy. -/
inductive PolicyError where
  | badName (table : PolicyTable) (name : String)
  | nothingForbidden
  deriving DecidableEq, Repr, Inhabited

/-- The form of a policy name, as messages give it. -/
def namePattern : String := "^[A-Za-z_][A-Za-z0-9_]\x7b0,127\x7d$"

/-- What is wrong with a name. -/
def badNameMessage (name : String) : String :=
  s!"policy: '{name}' is not an identifier of at most 128 characters (expected {namePattern})"

def PolicyError.message : PolicyError → String
  | badName table name => s!"invalid {table.label}: {badNameMessage name}"
  | nothingForbidden => "policy: forbidden operation set must not be empty"

structure Policy where
  allowed : NameSet
  forbidden : NameSet
  forbidden_nonempty : forbidden.names ≠ []
  deriving DecidableEq

namespace Policy

/-- The trimmed names as a set, or the first of them that is none. -/
def collect (table : PolicyTable) (set : NameSet) : List String → Except PolicyError NameSet
  | [] => .ok set
  | entry :: rest =>
    let name := Text.trimmed entry
    if h : isPolicyName name = true then collect table (set.insert name h) rest
    else .error (.badName table name)

/-- The policy of two lists of names: their order, repetitions and outer blanks do not count. -/
def ofLists (allowed forbidden : List String) : Except PolicyError Policy := do
  let allowed ← collect .allowedModule .empty allowed
  let forbidden ← collect .forbiddenOperation .empty forbidden
  if h : forbidden.names ≠ [] then return ⟨allowed, forbidden, h⟩
  else throw .nothingForbidden

/-- Module roots allowed where no list is given. -/
def standardAllowed : List String :=
  ["__future__", "abc", "bisect", "cmath", "collections", "copy", "dataclasses", "decimal", "enum",
    "fractions", "functools", "heapq", "itertools", "math", "numbers", "operator", "re",
    "statistics", "string", "typing", "typing_extensions"]

/-- Operations forbidden where no list is given: code execution, files and processes, and the
namespaces and frames of running code. -/
def standardForbidden : List String :=
  ["eval", "exec", "compile", "__import__", "import_module", "reload", "breakpoint",
    "open", "input", "system", "popen", "spawn", "fork", "execv", "exit", "quit",
    "globals", "locals", "vars", "dir", "setattr", "delattr", "__builtins__", "__globals__",
    "__code__", "__closure__", "__subclasses__", "__bases__", "__base__", "__mro__", "__loader__",
    "__spec__", "f_globals", "f_locals", "f_back", "gi_frame", "tb_frame"]

/-- The names of a list that are policy names, as a set. -/
def namesOf (names : List String) : NameSet :=
  names.foldl (fun set name => if h : isPolicyName name = true then set.insert name h else set)
    .empty

/-- The policy where no list is given. -/
def standard : Policy where
  allowed := namesOf standardAllowed
  forbidden := namesOf standardForbidden
  forbidden_nonempty := by decide +kernel

instance : Inhabited Policy := ⟨standard⟩

/-- The first segment of a dotted path, without blanks around it; empty for a relative path. -/
def moduleRoot (path : String) : String :=
  String.ofList (Text.trim (path.toList.takeWhile (· != '.')))

/-- Whether the root of a path is allowed. -/
def allows (policy : Policy) (path : String) : Bool :=
  let root := moduleRoot path
  !root.isEmpty && policy.allowed.contains root

def forbids (policy : Policy) (operation : String) : Bool := policy.forbidden.contains operation

/-- The bytes of a text and a zero. -/
def zeroEnded (text : String) : List UInt8 := text.toUTF8.toList ++ [0]

/-- Both tables under their headings, every entry ended by a zero. -/
def tableBytes (policy : Policy) : List UInt8 :=
  zeroEnded "allowed_modules" ++ policy.allowed.names.flatMap zeroEnded ++
    (zeroEnded "forbidden_operations" ++ policy.forbidden.names.flatMap zeroEnded)

/-- The hash of both tables, which stands for the policy in reports. -/
def fingerprint (policy : Policy) : String := Digest.hex (Digest.sha256 policy.tableBytes)

end Policy

end SourceGate
