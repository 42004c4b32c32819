import SourceGate.Proofs.Verdict.Walk
import SourceGate.Verdict.Basic

/-! # An accepted module is silent everywhere

What is found at an occurrence is found by the walk over the module, and reporting every expression
once never drops the first finding. So nothing at all is found anywhere in an accepted module.
-/

namespace SourceGate.Tree

variable {policy : Policy} {bound : Bound}

/-! ## Reporting once -/

/-- Only a finding about an expression that was reported before is dropped. -/
theorem firstPerLeaf_eq_nil_iff {seen : List Nat} {findings : List Finding} :
    firstPerLeaf seen findings = [] ↔ ∀ f ∈ findings, ∃ leaf ∈ seen, f.leaf = some leaf := by
  induction findings generalizing seen with
  | nil => simp [firstPerLeaf]
  | cons f rest ih =>
    rw [firstPerLeaf, List.forall_mem_cons]
    cases hf : f.leaf with
    | none => simp
    | some leaf =>
      by_cases hs : leaf ∈ seen
      · simp [hs, ih]
      · simp [hs]

theorem accepts_iff_findings_eq_nil {body : List Stmt} :
    accepts policy body = true ↔ stmtsFindings policy [] body = [] := by
  rw [accepts, violations, List.isEmpty_iff, List.map_eq_nil_iff, firstPerLeaf_eq_nil_iff]
  simp [List.eq_nil_iff_forall_not_mem]

/-! ## At every place -/

section Accepted

variable {root : List Stmt} {frames : List Frame}

theorem StmtAt.stmtFindings_eq_nil (h : accepts policy root = true) {s : Stmt}
    (hs : StmtAt root frames s) : stmtFindings policy (recordedNames frames) s = [] := by
  rw [accepts_iff_findings_eq_nil] at h
  exact List.eq_nil_of_subset_nil (h ▸ stmtFindings_subset_of_stmtAt hs)

theorem ExprAt.exprFindings_eq_nil (h : accepts policy root = true) {p : Position} {e : Expr}
    (he : ExprAt root frames p e) : exprFindings policy (recordedNames frames) p e = [] := by
  rw [accepts_iff_findings_eq_nil] at h
  exact List.eq_nil_of_subset_nil (h ▸ exprFindings_subset_of_exprAt he)

end Accepted

end SourceGate.Tree
