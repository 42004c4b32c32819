import SourceGate.Proofs.Verdict.Grounds

/-! # Every named operation is reported once

A rule that follows an expression may come to the same name from several calls, subscripts and
containers around it, and the walk comes to the name itself after them. Where no two expressions
share an identity, the report has exactly one violation about the name, and it calls it by its name
or, for the callee of a lookup, unknown. What is about no expression is all reported.
-/

namespace SourceGate.Tree

variable {policy : Policy} {bound : Bound} {root : List Stmt} {f : Finding}

/-! ## What is about no expression -/

/-- The violations among findings that are about no expression. -/
def leafless (findings : List Finding) : List Violation :=
  (findings.filter (·.leaf.isNone)).map (·.violation)

@[simp] theorem leafless_nil : leafless [] = [] := rfl

@[simp] theorem leafless_append (before after : List Finding) :
    leafless (before ++ after) = leafless before ++ leafless after := by
  simp [leafless]

theorem leafless_flatMap {α : Type} (xs : List α) (found : α → List Finding) :
    leafless (xs.flatMap found) = xs.flatMap fun x => leafless (found x) := by
  rw [leafless, List.filter_flatMap, List.map_flatMap]
  rfl

theorem leafless_eq_nil {findings : List Finding}
    (h : ∀ f ∈ findings, ∃ place hit, f = .ofHit place hit) : leafless findings = [] := by
  rw [leafless, List.map_eq_nil_iff, List.filter_eq_nil_iff]
  intro f hf
  obtain ⟨place, hit, rfl⟩ := h f hf
  simp [Finding.ofHit]

@[simp] theorem leafless_exprFindings (p : Position) (e : Expr) :
    leafless (exprFindings policy bound p e) = [] := by
  refine leafless_eq_nil fun f hf => ?_
  induction e using Expr.byChildren generalizing bound p with
  | step e ih =>
    rcases mem_exprFindings_iff.1 hf with hf | ⟨entered, q, c, h, hf⟩
    · obtain ⟨place, hit, rfl, -⟩ := Expr.blamed_of_mem_ownFindings hf
      exact ⟨place, hit, rfl⟩
    · exact ih c h.mem_children q hf

@[simp] theorem leafless_exprsFindings (p : Position) (es : List Expr) :
    leafless (exprsFindings policy bound p es) = [] := by
  simp [exprsFindings_eq, leafless_flatMap]

@[simp] theorem leafless_memberFindings (e : Expr) : leafless (memberFindings policy e) = [] := by
  refine leafless_eq_nil fun f hf => ?_
  obtain ⟨hit, rfl, -⟩ := exists_of_mem_memberFindings hf
  exact ⟨e.place, hit, rfl⟩

theorem leafless_flatMap_importFindings (place : Location) (paths : List String) :
    leafless (paths.flatMap (importFindings policy place)) =
      (paths.filter fun path => !policy.allows path).map (⟨.importing, ·, place, none⟩) := by
  simp [flatMap_importFindings, leafless, Finding.importing, List.filter_map, Function.comp_def]

/-- About no expression are the faults of a statement and of those inside, wherever they stand. -/
theorem leafless_stmtFindings_eq (s : Stmt) :
    leafless (stmtFindings policy bound s) =
      s.faults policy ++
        leafless (stmtsFindings policy (recordedNames s.entered ++ bound) s.inner) := by
  cases s with
  | imports place modules =>
    rw [stmtFindings, leafless_flatMap_importFindings]
    simp [Stmt.faults, Stmt.refusedPaths, Namespace.importsOf, Stmt.inner, stmtsFindings,
      Stmt.place]
  | importsFrom place source level names =>
    have alone : importFindings policy place (importPath source level) =
        [importPath source level].flatMap (importFindings policy place) := by simp
    rw [stmtFindings, alone, leafless_flatMap_importFindings]
    simp [Stmt.faults, Stmt.refusedPaths, Namespace.importsOf, Stmt.inner, stmtsFindings,
      Stmt.place]
  | assign place targets value =>
    -- A display as target unpacks the value; what that finds is about expressions.
    have own (target : Expr) : leafless (targetFindings policy bound value target) = [] := by
      rw [targetFindings, leafless_append, leafless_exprFindings]
      split <;> simp
    simp [stmtFindings, leafless_flatMap, own, Stmt.faults, Stmt.refusedPaths, Namespace.importsOf,
      Stmt.inner, stmtsFindings]
  | unsupported place => rfl
  | _ =>
    simp [stmtFindings, bodiesFindings_eq, stmtsFindings_append, Stmt.faults, Stmt.refusedPaths,
      Namespace.importsOf, Stmt.inner, Stmt.entered, recordedNames, Frame.recorded, stmtsFindings]

theorem leafless_stmtFindings (s : Stmt) :
    leafless (stmtFindings policy bound s) = s.nested.flatMap (Stmt.faults policy) := by
  induction s using Stmt.byInner generalizing bound with
  | step s ih =>
    rw [leafless_stmtFindings_eq, Stmt.nested_eq, List.flatMap_cons, List.flatMap_assoc,
      stmtsFindings_eq, leafless_flatMap]
    exact congrArg _ (List.flatMap_congr fun c hc => ih c hc)

theorem leafless_stmtsFindings (bound : Bound) (root : List Stmt) :
    leafless (stmtsFindings policy bound root) = (allStmts root).flatMap (Stmt.faults policy) := by
  simp only [stmtsFindings_eq, leafless_flatMap, leafless_stmtFindings, allStmts,
    List.flatMap_assoc]

/-! ## What is about an expression -/

/-- The expression that a lookup by name calls, somewhere in a module. -/
def IsHelperCallee (root : List Stmt) (n : Expr) : Prop :=
  isNameHelper n = true ∧
    ∃ frames p mark args keywords, ExprAt root frames p (.call mark n args keywords)

/-- A finding about an expression stands for an expression of the module, and calls it by what it
spells, or unknown. -/
theorem exists_exprAt_of_leaf {leaf : Nat} (hf : f ∈ stmtsFindings policy [] root)
    (hl : f.leaf = some leaf) :
    ∃ frames p n, ExprAt root frames p n ∧ n.id = leaf ∧
      (Spells policy n f.violation.target ∨
        f.violation.target = dynamicTarget ∧ IsHelperCallee root n) := by
  rcases blamed_of_mem_stmtsFindings hf with
    ⟨-, -, -, none, -⟩ | ⟨frames, p, e, place, hit, he, rfl, ⟨n, hn, about⟩, -⟩
  · cases none.symm.trans hl
  obtain ⟨frames, p, hn⟩ := he.exists_of_mem_subterms hn
  obtain rfl := Option.some.inj hl
  cases about with
  | spelled leaf h => exact ⟨frames, p, n, hn, leaf, .inl h⟩
  | @unknown mark func args keywords leaf helper name =>
    have hc := hn.part .func
    exact ⟨_, _, func, hc, leaf, .inr ⟨name, helper, frames, p, mark, args, keywords, hn⟩⟩

theorem leaf_mem_ids {leaf : Nat} (hf : f ∈ stmtsFindings policy [] root)
    (hl : f.leaf = some leaf) : leaf ∈ ids root := by
  obtain ⟨_, _, n, hn, rfl, -⟩ := exists_exprAt_of_leaf hf hl
  exact hn.id_mem_ids

theorem isNone_leaf_eq (hf : f ∈ stmtsFindings policy [] root) :
    f.leaf.isNone = f.violation.route.isNone := by
  rcases blamed_of_mem_stmtsFindings hf with ⟨_, _, _, hl, hv⟩ | ⟨_, _, _, _, _, _, rfl, -⟩
  · simp [hl, Stmt.route_of_mem_faults hv]
  · rfl

/-- The violations without a route are the faults of the statements, in the order of the text. -/
theorem filter_isNone_violations (policy : Policy) (root : List Stmt) :
    (violations policy root).filter (·.route.isNone) =
      (allStmts root).flatMap (Stmt.faults policy) := by
  rw [← leafless_stmtsFindings [], leafless, ← filter_leafless_firstPerLeaf [],
    violations, List.filter_map]
  refine congrArg _ (List.filter_congr fun f hf => ?_)
  exact (isNone_leaf_eq (firstPerLeaf_sublist.subset hf)).symm

/-! ## Reporting once -/

/-- Exactly one violation is about an expression. It calls it by the name, or unknown if that is the
callee of a lookup by name. -/
def ReportedOnceAs (policy : Policy) (root : List Stmt) (e : Expr) (name : String) : Prop :=
  ∃ f, (reported policy root).filter (·.leaf == some e.id) = [f] ∧
    f.violation ∈ violations policy root ∧
    (f.violation.target = name ∨ f.violation.target = dynamicTarget ∧ IsHelperCallee root e)

/-- Every forbidden leaf, import and statement of a module counts once among its violations. -/
structure ReportsOnce (policy : Policy) (root : List Stmt) : Prop where
  verdict : violations policy root = (reported policy root).map (·.violation)
  attributes : ∀ {frames p mark value attr}, ExprAt root frames p (.attribute mark value attr) →
    policy.forbids attr = true → ReportedOnceAs policy root (.attribute mark value attr) attr
  names : ∀ {frames mark text}, ExprAt root frames .load (.name mark text) →
    policy.forbids text = true → (∀ frame ∈ frames, text ∉ frame.recorded) →
      ReportedOnceAs policy root (.name mark text) text
  callees : ∀ {frames p mark inner text args keywords},
    ExprAt root frames p (.call mark (.name inner text) args keywords) →
      policy.forbids text = true → ReportedOnceAs policy root (.name inner text) text
  leaves : ((reported policy root).filterMap (·.leaf)).Nodup
  faults : (violations policy root).filter (·.route.isNone) =
    (allStmts root).flatMap (Stmt.faults policy)
  blocks : violations policy root = root.flatMap fun s => violations policy [s]

/-- An expression with a finding about it is reported once, by the only name that it spells. -/
theorem reportedOnceAs_of_mem {frames : List Frame} {p : Position} {e : Expr} {name : String}
    (distinct : (ids root).Nodup) (he : ExprAt root frames p e)
    (only : ∀ other, Spells policy e other → other = name)
    (hf : f ∈ stmtsFindings policy [] root) (hl : f.leaf = some e.id) :
    ReportedOnceAs policy root e name := by
  obtain ⟨g, sole⟩ := exists_filter_firstPerLeaf_eq hf hl
  have found : g ∈ (reported policy root).filter (·.leaf == some e.id) :=
    sole ▸ List.mem_singleton_self g
  obtain ⟨hg, leaf⟩ := List.mem_filter.1 found
  obtain ⟨_, _, n, hn, same, called⟩ :=
    exists_exprAt_of_leaf (firstPerLeaf_sublist.subset hg) (by simpa using leaf)
  obtain rfl := he.eq_of_id_eq distinct hn same
  exact ⟨g, sole, List.mem_map_of_mem hg, called.imp_left (only _)⟩

theorem Spells.eq_of_name {mark : Mark} {text name : String}
    (h : Spells policy (.name mark text) name) : name = text := by
  cases h with
  | name => rfl
  | text folds => cases folds

theorem Spells.eq_of_attribute {mark : Mark} {value : Expr} {attr name : String}
    (h : Spells policy (.attribute mark value attr) name) : name = attr := by
  cases h with
  | «attribute» => rfl
  | text folds => cases folds

/-- Modules that share no identity are judged one after the other. -/
theorem violations_append {before after : List Stmt}
    (apart : (ids before).Disjoint (ids after)) :
    violations policy (before ++ after) = violations policy before ++ violations policy after := by
  rw [violations, stmtsFindings_append, firstPerLeaf_append, List.map_append]
  · rfl
  -- No leaf of the one is a leaf of the other, so the second starts as if nothing were reported.
  intro f hf leaf hl g hg again
  exact apart (leaf_mem_ids hf hl) (leaf_mem_ids hg again)

theorem violations_eq_flatMap_of_apart (apart : root.Pairwise Apart) :
    violations policy root = root.flatMap fun s => violations policy [s] := by
  induction root with
  | nil => rfl
  | cons s rest ih =>
    obtain ⟨first, later⟩ := List.pairwise_cons.1 apart
    have split : s :: rest = [s] ++ rest := rfl
    rw [split, violations_append (disjoint_ids_of_apart first), ih later]
    rfl

theorem violations_eq_flatMap (distinct : (ids root).Nodup) :
    violations policy root = root.flatMap fun s => violations policy [s] :=
  violations_eq_flatMap_of_apart (pairwise_apart_of_nodup distinct)

theorem reportsOnce_of_distinct (policy : Policy) (root : List Stmt) (distinct : (ids root).Nodup) :
    ReportsOnce policy root where
  verdict := violations_eq_reported policy root
  attributes {frames p mark value attr} he forbidden := by
    have found : Finding.own attr .attributeAccess mark ∈
        (Expr.attribute mark value attr).ownFindings policy (recordedNames frames) p := by
      simp [Expr.ownFindings, forbidden]
    exact reportedOnceAs_of_mem distinct he (fun _ => Spells.eq_of_attribute)
      (mem_stmtsFindings_iff.2 (.inr ⟨_, _, _, he, found⟩)) rfl
  names {frames mark text} he forbidden free := by
    have found : Finding.own text .aliasReference mark ∈
        (Expr.name mark text).ownFindings policy (recordedNames frames) .load := by
      simpa [Expr.ownFindings, forbidden, recordedNames] using free
    exact reportedOnceAs_of_mem distinct he (fun _ => Spells.eq_of_name)
      (mem_stmtsFindings_iff.2 (.inr ⟨_, _, _, he, found⟩)) rfl
  callees {frames p mark inner text args keywords} he forbidden := by
    have found : Finding.ofHit mark.place ⟨text, .directCall, inner.id⟩ ∈
        (Expr.call mark (.name inner text) args keywords).ownFindings policy
          (recordedNames frames) p := by
      simp [Expr.ownFindings, callFindings, Finding.ofHits, reference, forbidden]
    exact reportedOnceAs_of_mem distinct (he.part .func) (fun _ => Spells.eq_of_name)
      (mem_stmtsFindings_iff.2 (.inr ⟨_, _, _, he, found⟩)) rfl
  leaves := nodup_leaves_firstPerLeaf
  faults := filter_isNone_violations policy root
  blocks := violations_eq_flatMap distinct

/-- `import math, os`, a function that holds a statement of no modelled form and `x.__globals__`,
and a call of `[eval][0]` with `eval` as argument. -/
def offending : List Stmt :=
  [.imports ⟨1, 1⟩ ["math", "os"],
    .function ⟨2, 1⟩ "f" [] []
      [.unsupported ⟨3, 5⟩,
        .block ⟨4, 5⟩ [.attribute ⟨0, ⟨4, 5⟩⟩ (.name ⟨1, ⟨4, 5⟩⟩ "x") "__globals__"] []],
    .block ⟨5, 1⟩
      [.call ⟨2, ⟨5, 1⟩⟩
        (.subscript ⟨3, ⟨5, 1⟩⟩ (.list ⟨4, ⟨5, 1⟩⟩ [.name ⟨5, ⟨5, 2⟩⟩ "eval"]) (.int ⟨6, ⟨5, 8⟩⟩ 0))
        [.name ⟨7, ⟨5, 11⟩⟩ "eval"] []] []]

theorem ids_offending : ids offending = [0, 1, 2, 3, 4, 5, 6, 7] := by
  simp [ids, allExprs, allStmts, offending, Stmt.nested_eq, Stmt.inner, Stmt.exprs,
    Expr.subterms_eq, Expr.children, Expr.id, Expr.mark]

/-- The name in the list is reported at the call, and not again where it stands. -/
theorem offending_reportsOnce :
    (ids offending).Nodup ∧ ReportsOnce .standard offending ∧
      (reported .standard offending).map (·.leaf) = [none, none, some 0, some 5, some 7] := by
  have distinct : (ids offending).Nodup := by
    rw [ids_offending]
    decide
  exact ⟨distinct, reportsOnce_of_distinct .standard offending distinct, by decide +kernel⟩

end SourceGate.Tree
