import SourceGate.Data.Basic

/-! # Tables of TOML

A table may be spread over a document, but each part of it is written once. A table that only a path
has named so far is implicit and may still get a header of its own; one that a dotted key has named
takes more dotted keys and no header.
-/

namespace SourceGate.Toml

/-- How a table came to be. -/
structure Origin where
  isImplicit : Bool
  isDotted : Bool
  deriving DecidableEq, Repr

/-- A table with a header, or one in braces. -/
def Origin.written : Origin := ⟨false, false⟩

inductive Node where
  | leaf (value : Data)
  | table (origin : Origin) (entries : List (String × Node))
  /-- The tables under headers in double brackets. -/
  | rows (rows : List (List (String × Node)))
  deriving Repr, Inhabited

abbrev Entries := List (String × Node)

namespace Entries

def get? (entries : Entries) (key : String) : Option Node :=
  (entries.find? fun entry => entry.1 == key).map (·.2)

/-- The entries with one set, in the place of an older one if there is one. -/
def set (key : String) (node : Node) : Entries → Entries
  | [] => [(key, node)]
  | (k, n) :: rest => if k = key then (k, node) :: rest else (k, n) :: set key node rest

/-- The entries with a change made in the table at the end of a path. Tables that are missing on the
path are made. By dotted keys no table with a header or in braces is reached. -/
def alter (byDots : Bool) (change : Origin → Entries → Option Entries) :
    List String → Origin → Entries → Option Entries
  | [], origin, entries => change origin entries
  | key :: path, _, entries =>
    match entries.get? key with
    | none => do
      let inner ← alter byDots change path ⟨true, byDots⟩ []
      return entries.set key (.table ⟨true, byDots⟩ inner)
    | some (.table origin inner) =>
      if byDots && !origin.isImplicit then none
      else do
        let inner ← alter byDots change path origin inner
        return entries.set key (.table origin inner)
    | some (.rows rows) =>
      match rows.getLast? with
      | some last => do
        let last ← alter byDots change path .written last
        return entries.set key (.rows (rows.dropLast ++ [last]))
      | none => none
    | some (.leaf _) => none

/-- An entry that is new in its table. A dotted path must lead to a table made by dotted keys. -/
def add (path : List String) (key : String) (value : Data) (entries : Entries) : Option Entries :=
  alter true (fun origin entries =>
    if origin.isDotted != !path.isEmpty then none
    else
      match entries.get? key with
      | some _ => none
      | none => some (entries.set key (.leaf value))) path .written entries

end Entries

mutual

def Node.data : Node → Data
  | .leaf value => value
  | .table _ entries => .record (fieldsOf entries)
  | .rows rows => .list (rowsOf rows)

def fieldsOf : List (String × Node) → List (String × Data)
  | [] => []
  | (key, node) :: rest => (key, node.data) :: fieldsOf rest

def rowsOf : List (List (String × Node)) → List Data
  | [] => []
  | row :: rest => .record (fieldsOf row) :: rowsOf rest

end

end SourceGate.Toml
