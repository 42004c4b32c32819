import SourceGate.Proofs.Verdict.Leaves
import SourceGate.Proofs.Verdict.Silence

/-! # A module is judged statement by statement

What is found at a statement is about the expressions of that statement, and no statement opens or
closes a scope for the next. So where the statements of a module share no identity, its violations
are those of each statement by itself, one block after another, in whatever order they stand. For
the question whether there are any, shared identities make no difference.
-/

namespace SourceGate.Tree

variable {policy : Policy} {root root' before after : List Stmt}

/-- The violations of each statement by itself. -/
def blocks (policy : Policy) (root : List Stmt) : List (List Violation) :=
  root.map fun s => violations policy [s]

theorem Apart.symm {s t : Stmt} (h : Apart s t) : Apart t s := fun _ ht hs => h hs ht

theorem violations_eq_flatten_blocks (apart : root.Pairwise Apart) :
    violations policy root = (blocks policy root).flatten := by
  rw [violations_eq_flatMap_of_apart apart, blocks, List.flatMap_def]

/-- A module is accepted if each of its statements is, also where they share identities. -/
theorem accepts_iff_forall_accepts :
    accepts policy root = true ↔ ∀ s ∈ root, accepts policy [s] = true := by
  simp only [accepts_iff_findings_eq_nil, stmtsFindings_eq, List.flatMap_eq_nil_iff,
    List.mem_singleton, forall_eq]

/-- How the violations of modules hang together with those of their parts. -/
structure JudgedInBlocks (policy : Policy) : Prop where
  append : ∀ {before after}, (ids before).Disjoint (ids after) →
    violations policy (before ++ after) = violations policy before ++ violations policy after
  accepted : ∀ {root}, accepts policy root = true ↔ ∀ s ∈ root, accepts policy [s] = true
  flatten : ∀ {root}, root.Pairwise Apart → violations policy root = (blocks policy root).flatten
  reordered : ∀ {root root'}, root.Pairwise Apart → root.Perm root' →
    violations policy root' = (blocks policy root').flatten ∧
      (blocks policy root).Perm (blocks policy root')

theorem judged_in_blocks (policy : Policy) : JudgedInBlocks policy where
  append := violations_append
  accepted := accepts_iff_forall_accepts
  flatten := violations_eq_flatten_blocks
  reordered apart reordering := by
    have apart' := (reordering.pairwise_iff Apart.symm).1 apart
    exact ⟨violations_eq_flatten_blocks apart', reordering.map _⟩

/-- Two statements that share an identity do not have their blocks side by side: the second name is
taken for the first. -/
example :
    let root := [.block ⟨1, 1⟩ [.name ⟨0, ⟨1, 1⟩⟩ "eval"] [],
      .block ⟨2, 1⟩ [.name ⟨0, ⟨2, 1⟩⟩ "exec"] []]
    (violations .standard root).map (·.target) = ["eval"] ∧
      (blocks .standard root).map (·.map (·.target)) = [["eval"], ["exec"]] := by
  decide +kernel

end SourceGate.Tree
