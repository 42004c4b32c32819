import Mathlib.Data.Set.Function
import SourceGate.Proofs.Recast.Walk
import SourceGate.Proofs.Renaming.Tree
import SourceGate.Proofs.Verdict.Leaves
import SourceGate.Proofs.Verdict.Silence

/-! # Identities never decide the verdict

Identities that become one may merge reports, as the second is taken for a repetition of the first.
The first is never lost, so a tree is accepted under a map on identities only if it is accepted.
-/

namespace SourceGate.Tree

variable {policy : Policy} (f : Nat → Nat) {seen seen' : List Nat} {findings : List Finding}

theorem stmtsFindings_rename (bound : Bound) (body : List Stmt) :
    stmtsFindings policy bound (body.map (Stmt.rename f)) =
      (stmtsFindings policy bound body).map (Finding.rename f) :=
  (Recasting.rename f).stmtsFindings_map bound body

/-- What was seen is seen under the map, so nothing more is reported. -/
theorem firstPerLeaf_rename_sublist (h : ∀ leaf ∈ seen, f leaf ∈ seen') :
    ((firstPerLeaf seen' (findings.map (Finding.rename f))).map (·.violation)).Sublist
      ((firstPerLeaf seen findings).map (·.violation)) := by
  induction findings generalizing seen seen' with
  | nil => exact .slnil
  | cons g rest ih =>
    have kept : ∀ leaf ∈ g.leaf.toList ++ seen, f leaf ∈ (g.rename f).leaf.toList ++ seen' := by
      simp only [List.mem_append, Option.mem_toList]
      rintro leaf (own | old)
      · exact .inl (by simp [Finding.rename, own])
      · exact .inr (h leaf old)
    rw [List.map_cons, firstPerLeaf_cons, firstPerLeaf_cons]
    by_cases old : g.isAmong seen = true
    · obtain ⟨leaf, hl, old⟩ := Finding.isAmong_iff.1 old
      have old' : (g.rename f).isAmong seen' = true :=
        Finding.isAmong_iff.2 ⟨f leaf, by simp [Finding.rename, hl], h leaf old⟩
      rw [if_pos old', if_pos (Finding.isAmong_iff.2 ⟨leaf, hl, old⟩)]
      exact ih h
    rw [if_neg old]
    split
    · next merged =>
      -- The finding is taken for one about another expression.
      obtain ⟨leaf', hl, merged⟩ := Finding.isAmong_iff.1 merged
      refine (ih fun leaf hleaf => ?_).cons _
      rcases List.mem_append.1 (kept leaf hleaf) with own | old
      · obtain rfl := Option.some.inj (hl.symm.trans (Option.mem_toList.1 own))
        exact merged
      · exact old
    · exact (ih kept).cons_cons _

/-- Where no two of the identities become one, the same is reported. -/
theorem firstPerLeaf_rename_of_injOn {known : Set Nat} (inj : Set.InjOn f known)
    (old : ∀ leaf ∈ seen, leaf ∈ known)
    (named : ∀ g ∈ findings, ∀ leaf, g.leaf = some leaf → leaf ∈ known) :
    firstPerLeaf (seen.map f) (findings.map (Finding.rename f)) =
      (firstPerLeaf seen findings).map (Finding.rename f) := by
  induction findings generalizing seen with
  | nil => rfl
  | cons g rest ih =>
    obtain ⟨first, later⟩ := List.forall_mem_cons.1 named
    have same : (g.rename f).isAmong (seen.map f) = g.isAmong seen := by
      rw [Bool.eq_iff_iff, Finding.isAmong_iff, Finding.isAmong_iff]
      constructor
      · rintro ⟨_, hl, hm⟩
        obtain ⟨leaf, own, rfl⟩ := Option.map_eq_some_iff.1 hl
        obtain ⟨other, ho, same⟩ := List.mem_map.1 hm
        exact ⟨leaf, own, inj (old other ho) (first leaf own) same ▸ ho⟩
      · rintro ⟨leaf, hl, hm⟩
        exact ⟨f leaf, by simp [Finding.rename, hl], List.mem_map_of_mem hm⟩
    have grown : ∀ leaf ∈ g.leaf.toList ++ seen, leaf ∈ known := fun leaf h =>
      (List.mem_append.1 h).elim (fun own => first leaf (Option.mem_toList.1 own)) (old leaf)
    have leaves : (g.rename f).leaf.toList ++ seen.map f = (g.leaf.toList ++ seen).map f := by
      cases h : g.leaf <;> simp [Finding.rename, h]
    rw [List.map_cons, firstPerLeaf_cons, firstPerLeaf_cons, same, leaves, ih old later,
      ih grown later]
    split <;> rfl

/-- What becomes of the verdict on a tree when its identities are mapped. -/
structure RenamedVerdict (policy : Policy) (f : Nat → Nat) (root : List Stmt) : Prop where
  identities : ids (root.map (Stmt.rename f)) = (ids root).map f
  sublist : (violations policy (root.map (Stmt.rename f))).Sublist (violations policy root)
  accepted : violations policy (root.map (Stmt.rename f)) = [] ↔ violations policy root = []
  injective : Set.InjOn f {id | id ∈ ids root} →
    violations policy (root.map (Stmt.rename f)) = violations policy root

theorem violations_eq_nil_iff {root : List Stmt} :
    violations policy root = [] ↔ stmtsFindings policy [] root = [] := by
  rw [← accepts_iff_findings_eq_nil, accepts, List.isEmpty_iff]

theorem verdict_rename (policy : Policy) (f : Nat → Nat) (root : List Stmt) :
    RenamedVerdict policy f root where
  identities := ids_rename f root
  sublist := by
    rw [violations, stmtsFindings_rename]
    exact firstPerLeaf_rename_sublist f (by simp)
  accepted := by
    rw [violations_eq_nil_iff, violations_eq_nil_iff, stmtsFindings_rename, List.map_eq_nil_iff]
  injective inj := by
    have same := @firstPerLeaf_rename_of_injOn f [] (stmtsFindings policy [] root) _ inj
      (by simp) fun g hg leaf hl => leaf_mem_ids hg hl
    rw [List.map_nil] at same
    rw [violations, stmtsFindings_rename, same, List.map_map]
    rfl

/-- `eval` and `exec`, mentioned side by side. -/
def sideBySide : List Stmt :=
  [.block ⟨1, 1⟩ [.name ⟨0, ⟨1, 1⟩⟩ "eval", .name ⟨1, ⟨1, 7⟩⟩ "exec"] []]

/-- Where they become one, one of them is reported still. -/
theorem sideBySide_rename :
    RenamedVerdict .standard (fun _ => 0) sideBySide ∧
      (violations .standard sideBySide).map (·.target) = ["eval", "exec"] ∧
      (violations .standard (sideBySide.map (Stmt.rename fun _ => 0))).map (·.target) =
        ["eval"] :=
  ⟨verdict_rename .standard _ sideBySide, by decide +kernel, by decide +kernel⟩

end SourceGate.Tree
