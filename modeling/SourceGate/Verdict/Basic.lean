import SourceGate.Verdict.Finding

/-! # The verdict on a tree

Every expression that names a forbidden operation is reported once, by the first finding about it;
what is not an operation is reported as often as it occurs. One violation is enough to reject.
-/

namespace SourceGate.Tree

/-- The findings without those about an expression that is in `seen` or had one before. -/
def firstPerLeaf (seen : List Nat) : List Finding → List Finding
  | [] => []
  | f :: rest =>
    match f.leaf with
    | none => f :: firstPerLeaf seen rest
    | some leaf =>
      if seen.contains leaf then firstPerLeaf seen rest
      else f :: firstPerLeaf (leaf :: seen) rest

/-- The violations of a module, in the order of the walk. -/
def violations (policy : Policy) (body : List Stmt) : List Violation :=
  (firstPerLeaf [] (stmtsFindings policy [] body)).map (·.violation)

/-- Whether a module may run under a policy. -/
def accepts (policy : Policy) (body : List Stmt) : Bool := (violations policy body).isEmpty

end SourceGate.Tree
