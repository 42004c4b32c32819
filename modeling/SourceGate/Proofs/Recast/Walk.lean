import SourceGate.Proofs.Recast.Following
import SourceGate.Proofs.Verdict.Scope
import SourceGate.Proofs.Verdict.Walk

/-! # A walk over a recast tree

A walk meets the same expressions in the same positions and under the same names, and finds the same
about them, as they are called then. Nothing is found in strings, however they are joined.
-/

namespace SourceGate.Tree

variable {policy : Policy} {f : Nat → Nat}

/-- The finding with its leaf as it is called then. -/
def Finding.rename (f : Nat → Nat) (g : Finding) : Finding := { g with leaf := g.leaf.map f }

theorem ofHits_rename (place : Location) (hits : List Hit) :
    Finding.ofHits place (hits.map (Hit.rename f)) =
      (Finding.ofHits place hits).map (Finding.rename f) := by
  simp [Finding.ofHits, Finding.ofHit, Finding.rename, Hit.rename]

theorem importFindings_rename (place : Location) (path : String) :
    (importFindings policy place path).map (Finding.rename f) =
      importFindings policy place path := by
  rw [importFindings]
  split <;> rfl

/-- Nothing is found in strings that are joined. -/
theorem exprFindings_eq_nil_of_folds {bound : Bound} {p : Position} {e : Expr} {text : String}
    (h : staticText? e = some text) : exprFindings policy bound p e = [] := by
  induction e using Expr.byChildren generalizing p text with
  | step e ih =>
    cases e with
    | str => rw [exprFindings]
    | concat mark left right =>
      rw [staticText?] at h
      split at h
      · next a b ha hb =>
        rw [exprFindings, ih left (by simp [Expr.children]) ha,
          ih right (by simp [Expr.children]) hb, List.append_nil]
      · cases h
    | _ => cases h

namespace Recasting

variable (r : Recasting f)

/-! ## Scopes -/

@[simp] theorem targetNames_expr (e : Expr) : targetNames (r.expr e) = targetNames e := by
  induction e using Expr.byChildren with
  | step e ih =>
    rcases r.shape e with same | ⟨mark, left, right, text, rfl, -, same⟩
    · rw [same]
      cases e with
      | list mark items | tuple mark items =>
        rw [Expr.mapParts, targetNames, targetNames, targetNamesAll_eq, targetNamesAll_eq,
          List.flatMap_map]
        exact List.flatMap_congr ih
      | _ => rfl
    · rw [same]
      rfl

mutual

theorem ownStmts_stmt (s : Stmt) : ownStmts (r.stmt s) = (ownStmts s).map r.stmt := by
  cases s with
  | loop place target iter body orelse =>
    simp [r.inner, Stmt.mapParts, ownStmts, ownStmtsAll_map body, ownStmtsAll_map orelse]
  | block place exprs bodies =>
    simp [r.inner, Stmt.mapParts, ownStmts, ownStmtsNested_map bodies]
  | _ => simp [r.inner, Stmt.mapParts, ownStmts]

theorem ownStmtsAll_map (body : List Stmt) :
    ownStmtsAll (body.map r.stmt) = (ownStmtsAll body).map r.stmt := by
  cases body with
  | nil => rfl
  | cons s rest => simp [ownStmtsAll, ownStmts_stmt s, ownStmtsAll_map rest]

theorem ownStmtsNested_map (bodies : List (List Stmt)) :
    ownStmtsNested (bodies.map (List.map r.stmt)) = (ownStmtsNested bodies).map r.stmt := by
  cases bodies with
  | nil => rfl
  | cons body rest => simp [ownStmtsNested, ownStmtsAll_map body, ownStmtsNested_map rest]

end

@[simp] theorem assigned_stmt (s : Stmt) : (r.stmt s).assigned = s.assigned := by
  rw [r.inner]
  cases s <;> simp [Stmt.mapParts, Stmt.assigned, List.flatMap_map]

@[simp] theorem declared_stmt (s : Stmt) : (r.stmt s).declared = s.declared := by
  rw [r.inner]
  cases s <;> rfl

@[simp] theorem functionNames_map (params : List String) (body : List Stmt) :
    functionNames params (body.map r.stmt) = functionNames params body := by
  simp [functionNames, assignedNamesAll_eq, declaredNamesAll_eq, ownStmtsAll_map,
    List.flatMap_map]

@[simp] theorem comprehensionNames_map (clauses : List (Clause Expr)) :
    comprehensionNames (clauses.map (Clause.map r.expr)) = comprehensionNames clauses := by
  simp [comprehensionNames, List.flatMap_map, Clause.map]

/-! ## What is found at an expression -/

@[simp] theorem memberFindings_expr (e : Expr) :
    memberFindings policy (r.expr e) = (memberFindings policy e).map (Finding.rename f) := by
  rw [memberFindings, (r.follows e).2, place_expr, ofHits_rename, memberFindings]

@[simp] theorem callFindings_expr (place : Location) (func : Expr) (args : List Expr) :
    callFindings policy place (r.expr func) (args.map r.expr) =
      (callFindings policy place func args).map (Finding.rename f) := by
  have reached : (args.map r.expr).flatMap (reference policy) =
      (args.flatMap (reference policy)).map (Hit.rename f) :=
    flatMap_map_eq_map_flatMap fun a _ => (r.follows a).1
  simp only [callFindings, (r.follows func).1, isNameHelper_expr, reached, computed_expr,
    lookupKeys_expr, ← ofHits_rename]
  split <;> simp

theorem ownFindings_mapParts (bound : Bound) (p : Position) (e : Expr) :
    (e.mapParts f r.expr).ownFindings policy bound p =
      (e.ownFindings policy bound p).map (Finding.rename f) := by
  cases e with
  | name mark text =>
    simp only [Expr.mapParts, Expr.ownFindings]
    split <;> rfl
  | «attribute» mark value attr =>
    simp only [Expr.mapParts, Expr.ownFindings]
    split <;> rfl
  | subscript mark value index =>
    simp only [Expr.mapParts, Expr.ownFindings, isDisplay_expr, keyHit_expr]
    split
    · rfl
    · cases keyHit policy index <;> rfl
  | call mark func args keywords => exact r.callFindings_expr mark.place func args
  | comprehension mark elements clauses =>
    exact flatMap_map_eq_map_flatMap fun c _ => r.memberFindings_expr c.iter
  | _ => rfl

/-! ## What is found below -/

/-- The construct around recast parts. -/
def frame : Frame → Frame
  | .function params body => .function params (body.map r.stmt)
  | .lambda params => .lambda params
  | .comprehension clauses => .comprehension (clauses.map (Clause.map r.expr))
  | .classBody body => .classBody (body.map r.stmt)

@[simp] theorem recorded_frame (frame : Frame) : (r.frame frame).recorded = frame.recorded := by
  cases frame <;> simp [Recasting.frame, Frame.recorded]

/-- The recast part with the constructs around it. -/
def placed (part : Placed) : Placed :=
  ⟨part.entered.map r.frame, part.position, r.expr part.expr⟩

theorem placedClause_map (frame : Frame) (iters : List Expr) (c : Clause Expr) :
    placedClause (r.frame frame) (iters.map r.expr) (c.map r.expr) =
      (placedClause frame iters c).map r.placed := by
  simp [placedClause, placed, Clause.map, Function.comp_def]

theorem placedClauses_map (frame : Frame) (clauses : List (Clause Expr)) :
    placedClauses (r.frame frame) (clauses.map (Clause.map r.expr)) =
      (placedClauses frame clauses).map r.placed := by
  cases clauses with
  | nil => rfl
  | cons first rest =>
    have later : (rest.map (Clause.map r.expr)).flatMap
        (fun c => placedClause (r.frame frame) [c.iter] c) =
          (rest.flatMap fun c => placedClause frame [c.iter] c).map r.placed :=
      flatMap_map_eq_map_flatMap fun c _ => r.placedClause_map frame [c.iter] c
    have here := r.placedClause_map frame [] first
    rw [List.map_cons, placedClauses, later, placedClauses, List.map_cons, List.map_append, ← here]
    rfl

theorem placed_mapParts (p : Position) (e : Expr) :
    (e.mapParts f r.expr).placed p = (e.placed p).map r.placed := by
  cases e with
  | comprehension mark elements clauses =>
    have inside := r.placedClauses_map (.comprehension clauses) clauses
    simp only [frame] at inside
    simp [Expr.mapParts, Expr.placed, inside, placed, frame, Function.comp_def]
  | dict mark entries =>
    have values : (entries.map (Prod.map (Option.map r.expr) r.expr)).flatMap
        (fun entry => entry.1.toList ++ [entry.2]) =
          (entries.flatMap fun entry => entry.1.toList ++ [entry.2]).map r.expr := by
      refine flatMap_map_eq_map_flatMap fun entry _ => ?_
      obtain ⟨_ | key, value⟩ := entry <;> rfl
    simp [Expr.mapParts, Expr.placed, values, placed, Function.comp_def]
  | _ => simp [Expr.mapParts, Expr.placed, placed, frame, Keyword.map, Function.comp_def]

theorem exprFindings_expr (bound : Bound) (p : Position) (e : Expr) :
    exprFindings policy bound p (r.expr e) =
      (exprFindings policy bound p e).map (Finding.rename f) := by
  induction e using Expr.byChildren generalizing bound p with
  | step e ih =>
    rcases r.shape e with same | ⟨mark, left, right, text, rfl, folds, same⟩
    · rw [same, exprFindings_eq, exprFindings_eq, ownFindings_mapParts, placed_mapParts,
        List.map_append]
      refine congrArg _ (flatMap_map_eq_map_flatMap fun part hp => ?_)
      have names : recordedNames (part.entered.map r.frame) = recordedNames part.entered := by
        simp [recordedNames, List.flatMap_map]
      rw [Placed.findings, placed, names]
      exact ih part.expr (Expr.holds_iff_mem_placed.2 hp).mem_children _ _
    · rw [exprFindings_eq_nil_of_folds folds, same, exprFindings]
      rfl

@[simp] theorem exprsFindings_map (bound : Bound) (p : Position) (es : List Expr) :
    exprsFindings policy bound p (es.map r.expr) =
      (exprsFindings policy bound p es).map (Finding.rename f) := by
  rw [exprsFindings_eq, exprsFindings_eq]
  exact flatMap_map_eq_map_flatMap fun e _ => r.exprFindings_expr bound p e

/-! ## What is found in a module -/

theorem targetFindings_expr (bound : Bound) (value target : Expr) :
    targetFindings policy bound (r.expr value) (r.expr target) =
      (targetFindings policy bound value target).map (Finding.rename f) := by
  simp only [targetFindings, isSome_sequenceItems?_expr, memberFindings_expr, exprFindings_expr,
    List.map_append]
  split <;> rfl

theorem stmtFindings_stmt (bound : Bound) (s : Stmt) :
    stmtFindings policy bound (r.stmt s) =
      (stmtFindings policy bound s).map (Finding.rename f) := by
  induction s using Stmt.byInner generalizing bound with
  | step s ih =>
    have inside {body : List Stmt} (hb : body ⊆ s.inner) (bound : Bound) :
        stmtsFindings policy bound (body.map r.stmt) =
          (stmtsFindings policy bound body).map (Finding.rename f) := by
      rw [stmtsFindings_eq, stmtsFindings_eq]
      exact flatMap_map_eq_map_flatMap fun c hc => ih c (hb hc) bound
    rw [r.inner]
    cases s with
    | imports place modules =>
      simp [Stmt.mapParts, stmtFindings, List.map_flatMap, importFindings_rename]
    | importsFrom place source level names =>
      simp [Stmt.mapParts, stmtFindings, importFindings_rename]
    | function place name params header body =>
      simp [Stmt.mapParts, stmtFindings, inside (List.Subset.refl body)]
    | classDef place name header body =>
      simp [Stmt.mapParts, stmtFindings, inside (List.Subset.refl body)]
    | assign place targets value =>
      have unpacked : (targets.map r.expr).flatMap (targetFindings policy bound (r.expr value)) =
          (targets.flatMap (targetFindings policy bound value)).map (Finding.rename f) :=
        flatMap_map_eq_map_flatMap fun target _ => r.targetFindings_expr bound value target
      simp [Stmt.mapParts, stmtFindings, unpacked, exprFindings_expr]
    | loop place target iter body orelse =>
      simp [Stmt.mapParts, stmtFindings, exprFindings_expr,
        inside (List.subset_append_left body orelse), inside (List.subset_append_right body orelse)]
    | block place exprs bodies =>
      rw [Stmt.mapParts, stmtFindings, stmtFindings, bodiesFindings_eq, bodiesFindings_eq,
        ← List.map_flatten, inside (List.Subset.refl bodies.flatten), exprsFindings_map,
        List.map_append]
    | declare | unsupported => rfl

theorem stmtsFindings_map (bound : Bound) (body : List Stmt) :
    stmtsFindings policy bound (body.map r.stmt) =
      (stmtsFindings policy bound body).map (Finding.rename f) := by
  rw [stmtsFindings_eq, stmtsFindings_eq]
  exact flatMap_map_eq_map_flatMap fun s _ => r.stmtFindings_stmt bound s

end Recasting

end SourceGate.Tree
