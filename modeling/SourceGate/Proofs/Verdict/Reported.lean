import Mathlib.Data.List.Nodup
import SourceGate.Proofs.Verdict.Walk
import SourceGate.Verdict.Basic

/-! # Reporting every expression once

Of all findings about an expression the first is reported and no other; findings that are about no
expression are all reported. So the report loses no expression and names none twice.
-/

namespace SourceGate.Tree

/-- The findings in a module that are reported, in the order of the walk. -/
def reported (policy : Policy) (root : List Stmt) : List Finding :=
  firstPerLeaf [] (stmtsFindings policy [] root)

/-- The verdict tells of what is reported, and of nothing else. -/
theorem violations_eq_reported (policy : Policy) (root : List Stmt) :
    violations policy root = (reported policy root).map (·.violation) := rfl

namespace Finding

/-- A finding about an expression that is among some. -/
def isAmong (seen : List Nat) (f : Finding) : Bool := f.leaf.any seen.contains

theorem isAmong_iff {seen : List Nat} {f : Finding} :
    f.isAmong seen = true ↔ ∃ leaf, f.leaf = some leaf ∧ leaf ∈ seen := by
  cases h : f.leaf <;> simp [isAmong, h]

end Finding

variable {seen : List Nat} {f : Finding} {findings : List Finding} {leaf : Nat}

theorem firstPerLeaf_cons (seen : List Nat) (f : Finding) (rest : List Finding) :
    firstPerLeaf seen (f :: rest) =
      if f.isAmong seen then firstPerLeaf seen rest
      else f :: firstPerLeaf (f.leaf.toList ++ seen) rest := by
  rw [firstPerLeaf, Finding.isAmong]
  cases f.leaf <;> rfl

/-! ## What is kept -/

theorem firstPerLeaf_sublist : (firstPerLeaf seen findings).Sublist findings := by
  induction findings generalizing seen with
  | nil => exact .slnil
  | cons f rest ih =>
    rw [firstPerLeaf_cons]
    split
    · exact ih.cons f
    · exact ih.cons_cons f

/-- What is about no expression is kept. -/
theorem filter_leafless_firstPerLeaf (seen : List Nat) :
    (firstPerLeaf seen findings).filter (·.leaf.isNone) = findings.filter (·.leaf.isNone) := by
  induction findings generalizing seen with
  | nil => rfl
  | cons f rest ih =>
    rw [firstPerLeaf_cons]
    split
    · next among =>
      obtain ⟨leaf, hl, -⟩ := Finding.isAmong_iff.1 among
      rw [ih, List.filter_cons_of_neg (by simp [hl])]
    · rw [List.filter_cons, List.filter_cons, ih]

/-- No expression is lost that was not seen before. -/
theorem exists_mem_firstPerLeaf (hf : f ∈ findings) (hl : f.leaf = some leaf)
    (unseen : leaf ∉ seen) : ∃ g ∈ firstPerLeaf seen findings, g.leaf = some leaf := by
  induction findings generalizing seen with
  | nil => cases hf
  | cons first rest ih =>
    rw [firstPerLeaf_cons]
    split
    · next among =>
      refine ih ((List.mem_cons.1 hf).resolve_left ?_) unseen
      rintro rfl
      obtain ⟨other, ho, seen⟩ := Finding.isAmong_iff.1 among
      obtain rfl := Option.some.inj (hl.symm.trans ho)
      exact unseen seen
    · by_cases hn : first.leaf = some leaf
      · exact ⟨first, List.mem_cons_self, hn⟩
      · have hf : f ∈ rest := (List.mem_cons.1 hf).resolve_left fun same => hn (same ▸ hl)
        have unseen : leaf ∉ first.leaf.toList ++ seen := by simp [hn, unseen]
        obtain ⟨g, hg, hl⟩ := ih hf unseen
        exact ⟨g, List.mem_cons_of_mem _ hg, hl⟩

/-! ## No expression twice -/

theorem not_mem_seen_of_mem_firstPerLeaf (hf : f ∈ firstPerLeaf seen findings)
    (hl : f.leaf = some leaf) : leaf ∉ seen := by
  induction findings generalizing seen with
  | nil => cases hf
  | cons first rest ih =>
    rw [firstPerLeaf_cons] at hf
    split at hf
    · exact ih hf
    · next unseen =>
      rcases List.mem_cons.1 hf with rfl | hf
      · exact fun among => unseen (Finding.isAmong_iff.2 ⟨leaf, hl, among⟩)
      · exact fun among => ih hf (List.mem_append_right _ among)

theorem nodup_leaves_firstPerLeaf :
    ((firstPerLeaf seen findings).filterMap (·.leaf)).Nodup := by
  induction findings generalizing seen with
  | nil => exact List.nodup_nil
  | cons f rest ih =>
    rw [firstPerLeaf_cons]
    split
    · exact ih
    · cases hl : f.leaf with
      | none =>
        rw [List.filterMap_cons_none hl]
        exact ih
      | some leaf =>
        rw [List.filterMap_cons_some hl]
        refine List.nodup_cons.2 ⟨fun again => ?_, ih⟩
        obtain ⟨g, hg, hl⟩ := List.mem_filterMap.1 again
        exact not_mem_seen_of_mem_firstPerLeaf hg hl (by simp)

/-- An expression about which something is found is reported by exactly one finding. -/
theorem exists_filter_firstPerLeaf_eq (hf : f ∈ findings) (hl : f.leaf = some leaf) :
    ∃ g, (firstPerLeaf [] findings).filter (·.leaf == some leaf) = [g] := by
  obtain ⟨g, hg, hl⟩ := exists_mem_firstPerLeaf hf hl (List.not_mem_nil)
  have once := List.nodup_iff_count_le_one.1
    (nodup_leaves_firstPerLeaf : ((firstPerLeaf [] findings).filterMap (·.leaf)).Nodup) leaf
  rw [List.count_filterMap, List.countP_eq_length_filter] at once
  have here : g ∈ (firstPerLeaf [] findings).filter (·.leaf == some leaf) :=
    List.mem_filter.2 ⟨hg, by simp [hl]⟩
  exact List.length_eq_one_iff.1 (Nat.le_antisymm once (List.length_pos_of_mem here))

/-! ## Lists of findings about different expressions -/

theorem firstPerLeaf_congr {seen seen' : List Nat}
    (h : ∀ f ∈ findings, ∀ leaf, f.leaf = some leaf → (leaf ∈ seen ↔ leaf ∈ seen')) :
    firstPerLeaf seen findings = firstPerLeaf seen' findings := by
  induction findings generalizing seen seen' with
  | nil => rfl
  | cons f rest ih =>
    obtain ⟨first, later⟩ := List.forall_mem_cons.1 h
    have same : f.isAmong seen = f.isAmong seen' := by
      rw [Bool.eq_iff_iff, Finding.isAmong_iff, Finding.isAmong_iff]
      exact exists_congr fun leaf => and_congr_right fun hl => first leaf hl
    have kept : firstPerLeaf (f.leaf.toList ++ seen) rest =
        firstPerLeaf (f.leaf.toList ++ seen') rest :=
      ih fun g hg leaf hl => by rw [List.mem_append, List.mem_append, later g hg leaf hl]
    rw [firstPerLeaf_cons, firstPerLeaf_cons, same, ih later, kept]

theorem firstPerLeaf_append {before after : List Finding}
    (apart : ∀ f ∈ before, ∀ leaf, f.leaf = some leaf → ∀ g ∈ after, g.leaf ≠ some leaf) :
    firstPerLeaf seen (before ++ after) = firstPerLeaf seen before ++ firstPerLeaf seen after := by
  induction before generalizing seen with
  | nil => rfl
  | cons f rest ih =>
    obtain ⟨first, later⟩ := List.forall_mem_cons.1 apart
    rw [List.cons_append, firstPerLeaf_cons, firstPerLeaf_cons]
    split
    · exact ih later
    · have unaware : firstPerLeaf (f.leaf.toList ++ seen) after = firstPerLeaf seen after :=
        firstPerLeaf_congr fun g hg leaf hl => by
          rw [List.mem_append, or_iff_right fun same => ?_]
          exact first leaf (Option.mem_toList.1 same) g hg hl
      rw [ih later, unaware, List.cons_append]

end SourceGate.Tree
