import SourceGate.Proofs.Lowering.Statement
import SourceGate.Proofs.Verdict.Silence
import SourceGate.Tree.OfText

/-! # What becomes of the syntax in the tree

The tree of a module mentions every name, attribute, item and call of its syntax with the same text
at the same place, and a walk meets each of them. `type` statements are left out, as statements that
are not modelled. The bounds of type parameters are left out as well, and of these nothing is said:
they are the one part of the syntax that is lost.
-/

namespace SourceGate.Tree

open Script (Entry Inside census kept)

/-- How a tree accounts for the syntax of its module. -/
structure Accounts (index : LineIndex) (body : List Script.Stmt) : Prop where
  mentions : mentions (ofModule index body) = kept (census index body)
  /-- What is found about a mention that is kept is among the findings of the module. -/
  met {entry : Entry} (h : entry ∈ census index body) (hk : entry.origin.isKept = true) :
    ∃ frames p e, ExprAt (ofModule index body) frames p e ∧ e.mention? = some entry.mention ∧
      ∀ policy, exprFindings policy (recordedNames frames) p e ⊆
        stmtsFindings policy [] (ofModule index body)
  /-- What a `type` statement mentions belongs to a statement that is not modelled. -/
  unsupported {entry : Entry} (h : entry ∈ census index body) (ho : entry.origin = .typeAlias) :
    ∃ s, Inside body s ∧ entry ∈ s.own index ∧
      ∃ frames place, StmtAt (ofModule index body) frames (.unsupported place) ∧
        Lowered index s (.unsupported place)
  /-- Nothing else is lost just when no type parameter has a bound that mentions something. -/
  complete_iff :
    ((census index body).filter (·.origin ≠ .typeAlias)).map (·.mention) =
        Tree.mentions (ofModule index body) ↔
      ∀ entry ∈ census index body, entry.origin ≠ .bound

variable {index : LineIndex} {body : List Script.Stmt}

theorem met_of_mem_census {entry : Entry} (h : entry ∈ census index body)
    (hk : entry.origin.isKept = true) : MentionedAt (ofModule index body) entry.mention := by
  apply mentionedAt_of_mem_mentions
  rw [mentions_ofModule]
  exact Script.mem_kept h hk

theorem Lowered.unsupported {start : Nat} {name : String} {typeParams : List Script.TypeParameter}
    {value : Script.Expr} {t : Stmt}
    (h : Lowered index (.typeAlias start name typeParams value) t) :
    t = .unsupported (index.locate start) := by
  obtain ⟨next, rfl⟩ := h
  rw [lowerStmt]
  rfl

theorem accounts_ofModule (index : LineIndex) (body : List Script.Stmt) : Accounts index body where
  mentions := mentions_ofModule index body
  met h hk := by
    obtain ⟨frames, p, e, he, hm⟩ := met_of_mem_census h hk
    exact ⟨frames, p, e, he, hm, fun policy => exprFindings_subset_of_exprAt he⟩
  unsupported h ho := by
    obtain ⟨s, hs, ho'⟩ := Script.exists_own_of_mem h
    obtain ⟨start, name, typeParams, value, rfl⟩ := Script.Stmt.isTypeAlias_of_mem_own ho' ho
    obtain ⟨frames, t, ht, hl⟩ := exists_lowered index hs
    obtain rfl := hl.unsupported
    exact ⟨_, hs, ho', frames, _, ht, hl⟩
  complete_iff := by
    rw [mentions_ofModule]
    exact Script.kept_eq_iff

/-- A function whose type parameter has the bound `eval`. -/
def boundedText : String := "def f[T: eval](x: T) -> T:\n    return x\n"

/-- The bound is mentioned by the syntax and not by the tree, which is accepted. -/
theorem boundedText_loses_bound :
    ∃ body ∈ (Script.readModule boundedText.toList).toOption,
      ⟨.bound, .name "eval", ⟨1, 10⟩⟩ ∈ census (.ofText boundedText.toList) body ∧
      ⟨.name "eval", ⟨1, 10⟩⟩ ∉ mentions (ofModule (.ofText boundedText.toList) body) ∧
      accepts .standard (ofModule (.ofText boundedText.toList) body) = true := by
  decide +kernel

end SourceGate.Tree
