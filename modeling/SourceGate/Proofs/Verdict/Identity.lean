import SourceGate.Proofs.Lowering.Distinct
import SourceGate.Proofs.Verdict.Leaves
import SourceGate.Tree.OfText

/-! # What is suppressed has been reported

The report leaves a finding out where one with the same identity came before. In the tree of a text
an identity belongs to one expression, so both are about this expression, and no other loses its
report by it.
-/

namespace SourceGate.Tree

variable {policy : Policy} {root : List Stmt} {f : Finding} {findings : List Finding}
  {seen : List Nat}

/-! ## What is left out -/

/-- A finding adds nothing to a report. -/
def Suppressed (before : List Finding) (f : Finding) : Prop :=
  firstPerLeaf [] (before ++ [f]) = firstPerLeaf [] before

theorem exists_leaf_of_firstPerLeaf_eq
    (same : firstPerLeaf seen (findings ++ [f]) = firstPerLeaf seen findings) :
    ∃ leaf, f.leaf = some leaf ∧
      (leaf ∈ seen ∨ ∃ g ∈ firstPerLeaf seen findings, g.leaf = some leaf) := by
  induction findings generalizing seen with
  | nil =>
    rw [List.nil_append, firstPerLeaf_cons] at same
    split at same
    · next among =>
      obtain ⟨leaf, hl, hs⟩ := Finding.isAmong_iff.1 among
      exact ⟨leaf, hl, .inl hs⟩
    · cases same
  | cons first rest ih =>
    rw [List.cons_append, firstPerLeaf_cons, firstPerLeaf_cons] at same
    rw [firstPerLeaf_cons]
    split at same
    · next among =>
      rw [if_pos among]
      exact ih same
    · next unseen =>
      rw [if_neg unseen]
      obtain ⟨leaf, hl, among | ⟨g, hg, again⟩⟩ := ih (List.cons.inj same).2
      · rcases List.mem_append.1 among with here | among
        · exact ⟨leaf, hl, .inr ⟨first, List.mem_cons_self, Option.mem_toList.1 here⟩⟩
        · exact ⟨leaf, hl, .inl among⟩
      · exact ⟨leaf, hl, .inr ⟨g, List.mem_cons_of_mem _ hg, again⟩⟩

/-- Only a finding with the identity of one that is reported is suppressed. -/
theorem Suppressed.exists_reported (h : Suppressed findings f) :
    ∃ leaf, f.leaf = some leaf ∧ ∃ g ∈ firstPerLeaf [] findings, g.leaf = some leaf := by
  obtain ⟨leaf, hl, none | reported⟩ := exists_leaf_of_firstPerLeaf_eq h
  · cases none
  · exact ⟨leaf, hl, reported⟩

/-! ## What a finding is about -/

/-- A finding has the identity of an expression, and calls it by what it spells, or unknown if that
is the callee of a lookup by name. -/
structure Finding.IsAbout (policy : Policy) (root : List Stmt) (f : Finding) (n : Expr) : Prop where
  leaf : f.leaf = some n.id
  called : Spells policy n f.violation.target ∨
    f.violation.target = dynamicTarget ∧ IsHelperCallee root n

theorem exists_isAbout {leaf : Nat} (hf : f ∈ stmtsFindings policy [] root)
    (hl : f.leaf = some leaf) : ∃ n ∈ allExprs root, n.id = leaf ∧ f.IsAbout policy root n := by
  obtain ⟨_, _, n, hn, rfl, called⟩ := exists_exprAt_of_leaf hf hl
  exact ⟨n, hn.mem_allExprs, rfl, hl, called⟩

/-- Of all expressions of a module, only one has this identity. -/
def Sole (root : List Stmt) (n : Expr) : Prop := (allExprs root).filter (·.id == n.id) = [n]

theorem sole_of_distinct (distinct : (ids root).Nodup) {n : Expr} (h : n ∈ allExprs root) :
    Sole root n := by
  have once : ((allExprs root).filter (·.id == n.id)).Nodup := (distinct.of_map _).filter _
  refine List.perm_singleton.1 ((List.perm_ext_iff_of_nodup once (List.nodup_singleton n)).2 ?_)
  intro e
  rw [List.mem_filter, beq_iff_eq, List.mem_singleton]
  constructor
  · rintro ⟨he, same⟩
    exact List.inj_on_of_nodup_map distinct he h same
  · rintro rfl
    exact ⟨h, rfl⟩

/-- Where identities are distinct, what is suppressed is about the expression that one of the
reported findings before it is about. -/
theorem Suppressed.exists_sole {before after : List Finding} (distinct : (ids root).Nodup)
    (found : stmtsFindings policy [] root = before ++ f :: after) (h : Suppressed before f) :
    ∃ n, Sole root n ∧ f.IsAbout policy root n ∧
      ∃ g ∈ firstPerLeaf [] before, g.IsAbout policy root n := by
  obtain ⟨leaf, hl, g, hg, again⟩ := h.exists_reported
  have early : g ∈ stmtsFindings policy [] root := by
    rw [found]
    exact List.mem_append_left _ (firstPerLeaf_sublist.subset hg)
  have late : f ∈ stmtsFindings policy [] root := by
    rw [found]
    exact List.mem_append_right _ List.mem_cons_self
  obtain ⟨n, hn, rfl, about⟩ := exists_isAbout late hl
  obtain ⟨m, hm, same, about'⟩ := exists_isAbout early again
  obtain rfl := List.inj_on_of_nodup_map distinct hm hn same
  exact ⟨m, sole_of_distinct distinct hn, about, g, hg, about'⟩

/-! ## The tree of a text -/

/-- The expressions that are made for the tree of a text, those that are dropped included. -/
def created (source : String) : Nat :=
  match Script.readModule source.toList with
  | .ok body => (lowerStmts (.ofText source.toList) body 0).2
  | .error _ => 0

/-- The number of values of a word of 32 bits: `2 ^ 32`. -/
def shortWords : Nat := 0x100000000

/-- Identities are distinct words of 32 bits, so what is suppressed is about the one expression that
another finding before it has reported. -/
structure Identified (root : List Stmt) : Prop where
  fits : ∀ id ∈ ids root, id < shortWords
  distinct : (ids root).Nodup
  suppressed : ∀ {policy before f after}, stmtsFindings policy [] root = before ++ f :: after →
    Suppressed before f → ∃ n, Sole root n ∧ f.IsAbout policy root n ∧
      ∃ g ∈ firstPerLeaf [] before, g.IsAbout policy root n

theorem handedOut_ofText {source : String} (h : ofText source = .ok root) :
    HandedOut 0 (created source) (ids root) := by
  delta ofText at h
  delta created
  cases read : Script.readModule source.toList with
  | error fault =>
    simp only [read] at h
    cases h
  | ok body =>
    simp only [read] at h
    cases h
    exact handedOut_ofModule _ body

theorem identified_ofText {source : String} (h : ofText source = .ok root)
    (few : created source < shortWords) : Identified root where
  fits id hid := Nat.lt_trans ((handedOut_ofText h).between id hid).2 few
  distinct := (handedOut_ofText h).nodup
  suppressed found dropped := dropped.exists_sole (handedOut_ofText h).nodup found

/-- Lookups in a pattern, a folded index, and a name that two findings are about. -/
def numberedText : String :=
  "match [eval][-1](x):\n    case \x7b'open': v\x7d | C(attr=w):\n        pass\n"

/-- The call and the name itself are found to reach `eval`, and the second is suppressed. -/
theorem identified_numberedText :
    created numberedText = 13 ∧ ∃ root, ofText numberedText = .ok root ∧ Identified root ∧
      (stmtsFindings .standard [] root).map (·.leaf) = [some 3, some 3, some 7] := by
  have few : created numberedText = 13 := by decide +kernel
  have parsed : ∃ root ∈ (ofText numberedText).toOption,
      (stmtsFindings .standard [] root).map (·.leaf) = [some 3, some 3, some 7] := by
    decide +kernel
  obtain ⟨root, read, leaves⟩ := parsed
  have read := eq_ok_of_mem_toOption read
  exact ⟨few, root, read, identified_ofText read (few ▸ by decide), leaves⟩

end SourceGate.Tree
