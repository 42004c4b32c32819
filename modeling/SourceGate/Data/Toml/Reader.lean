import SourceGate.Data.Toml.Scalar
import SourceGate.Data.Toml.Table

/-! # Reading TOML

A document is read as a list of sections, each a header and its entries, and the sections are then
put together.
-/

namespace SourceGate.Toml

/-- A dotted key without its last name, that name, and a value. -/
structure Entry where
  path : List String
  key : String
  value : Data

/-- How deep values and dotted keys may nest. -/
def depthLimit : Nat := 80

/-- The names of a key, split before the last. -/
def splitKey (names : List String) : Option (List String × String) :=
  if names.length < depthLimit then names.getLast?.map fun last => (names.dropLast, last) else none

def entry (value : Scan Data) : Scan Entry := do
  match splitKey (← key) with
  | some (path, key) =>
    Scan.char '='
    spaces
    return ⟨path, key, ← value⟩
  | none => failure

/-- Entries put into a table one after another. -/
def addAll (entries : Entries) (added : List Entry) : Option Entries :=
  added.foldlM (fun entries e => entries.add e.path e.key e.value) entries

def list (value : Scan Data) : Scan Data := do
  Scan.char '['
  gaps
  let items ← Scan.sepBy (do
    gaps
    let item ← value
    gaps
    return item) (Scan.char ',')
  unless items.isEmpty do discard (Scan.optional (Scan.char ','))
  gaps
  Scan.char ']'
  return .list items

/-- A table in braces, on one line. -/
def inlineTable (value : Scan Data) : Scan Data := do
  Scan.char '\x7b'
  spaces
  let added ← Scan.sepBy (do
    let e ← entry value
    spaces
    return e) (Scan.char ',')
  spaces
  Scan.char '\x7d'
  match addAll [] added with
  | some entries => return .record (fieldsOf entries)
  | none => failure

/-- A value that nests at most `depth` deep. -/
def value : Nat → Scan Data
  | 0 => scalar
  | depth + 1 => scalar <|> list (value depth) <|> inlineTable (value depth)

inductive Header where
  /-- The entries before any header. -/
  | root
  | table (path : List String) (key : String)
  /-- Another row of a list of tables. -/
  | row (path : List String) (key : String)

structure Section where
  header : Header
  entries : List Entry

/-- Empty lines and comments. -/
def emptyLines : Scan Unit := do
  discard (Scan.many ((do discard (Scan.satisfy isSpace)) <|> lineBreak <|> do
    comment
    lineBreak <|> Scan.finish))

def entryLine : Scan Entry := do
  let e ← entry (value (depthLimit - 1))
  lineEnd
  emptyLines
  return e

def headerLine : Scan Header := do
  let isRow ← (do Scan.word "[["; return true) <|> (do Scan.char '['; return false)
  match splitKey (← key) with
  | some (path, key) =>
    Scan.word (if isRow then "]]" else "]")
    lineEnd
    emptyLines
    return if isRow then .row path key else .table path key
  | none => failure

def document : Scan (List Section) := do
  discard (Scan.optional (Scan.char '\uFEFF'))
  emptyLines
  let first ← Scan.many entryLine
  let rest ← Scan.many (do
    let header ← headerLine
    return ⟨header, ← Scan.many entryLine⟩)
  return ⟨.root, first⟩ :: rest

/-- A document with one more section. -/
def addSection (entries : Entries) (s : Section) : Option Entries :=
  match s.header with
  | .root => addAll entries s.entries
  | .table path key =>
    Entries.alter false (fun _ entries => do
      let known ← match entries.get? key with
        | none => some []
        | some (.table origin inner) =>
          if origin.isImplicit && !origin.isDotted then some inner else none
        | some _ => none
      let inner ← addAll known s.entries
      return entries.set key (.table .written inner)) path .written entries
  | .row path key =>
    Entries.alter false (fun _ entries => do
      let known ← match entries.get? key with
        | none => some []
        | some (.rows rows) => some rows
        | some _ => none
      let inner ← addAll [] s.entries
      return entries.set key (.rows (known ++ [inner]))) path .written entries

/-- The record that a document holds. -/
def read? (source : String) : Option Data := do
  let sections ← Scan.ofText document source
  let entries ← sections.foldlM addSection []
  return .record (fieldsOf entries)

end SourceGate.Toml
