import SourceGate.Script.Grammar.Statement
import SourceGate.Tree.Lowering

/-! # Reading source text -/

namespace SourceGate

/-- Source text that does not parse, and where. -/
structure SyntaxError where
  cause : Script.Cause
  place : Location
  deriving DecidableEq, Repr, Inhabited

namespace Tree

/-- The tree of a source text. -/
def ofText (source : String) : Except SyntaxError (List Stmt) :=
  let text := source.toList
  let index := LineIndex.ofText text
  match Script.readModule text with
  | .ok body => .ok (ofModule index body)
  | .error fault => .error ⟨fault.cause, index.locate fault.offset⟩

end Tree

end SourceGate
