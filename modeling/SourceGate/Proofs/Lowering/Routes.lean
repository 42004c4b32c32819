import SourceGate.Proofs.Lowering.Pattern
import SourceGate.Proofs.Verdict.Computed
import SourceGate.Proofs.Verdict.Scope
import SourceGate.Tree.OfText

/-! # Routes to a forbidden operation

An operation may be fetched as an attribute, as an item, by a lookup helper, by a keyword of a
`case` pattern or by its own name. Each of these is refused by a rule of its own. What a
`from` import lists is not looked at: such an import is judged by its path alone, so an operation
that is imported under another name passes.
-/

namespace SourceGate.Tree

variable {policy : Policy} {bound : Bound}

/-! ## Expressions that fetch an operation -/

/-- An expression that takes an operation from an object by the name of the operation. -/
inductive Expr.Fetches (operation : String) : Expr → Prop where
  | attribute {mark value} : Fetches operation (.attribute mark value operation)
  | item {mark base key} (other : base.isDisplay = false)
      (folds : staticText? key = some operation) : Fetches operation (.subscript mark base key)
  | lookup {mark func args keywords a} (helper : isNameHelper func = true) (ha : a ∈ args)
      (folds : staticText? a = some operation) : Fetches operation (.call mark func args keywords)

/-- Wherever it stands, an expression that fetches a forbidden operation is refused. -/
theorem Expr.Fetches.isRefused {e : Expr} {operation : String} (h : e.Fetches operation)
    (forbidden : policy.forbids operation = true) : e.IsRefused policy := by
  cases h with
  | «attribute» => exact isRefused_attribute forbidden
  | item other folds => exact isRefused_key other folds forbidden
  | lookup helper ha folds =>
    intro bound p silent
    have none := (callFindings_eq_nil_iff.1 (callFindings_of_silent silent)).2.1 helper
    have allowed := keyHit_eq_none_iff.1 ((computed_eq_nil_iff.1 none).2.1 _ ha) operation folds
    cases forbidden.symm.trans allowed

theorem ExprAt.accepts_eq_false {root : List Stmt} {frames : List Frame} {p : Position} {e : Expr}
    (he : ExprAt root frames p e) (h : e.IsRefused policy) : accepts policy root = false := by
  rw [← Bool.not_eq_true]
  exact fun accepted => h _ _ (he.exprFindings_eq_nil accepted)

/-! ## What an import lists -/

/-- The names that a statement itself imports. -/
def Stmt.listed : Stmt → List String
  | .importsFrom _ _ _ names => names
  | _ => []

mutual

/-- A statement without the names that its imports list. -/
def Stmt.unlisted : Stmt → Stmt
  | .importsFrom place source level _ => .importsFrom place source level []
  | .function place name params header body =>
    .function place name params header (unlistedAll body)
  | .classDef place name header body => .classDef place name header (unlistedAll body)
  | .loop place target iter body orelse =>
    .loop place target iter (unlistedAll body) (unlistedAll orelse)
  | .block place exprs bodies => .block place exprs (unlistedNested bodies)
  | s => s

def unlistedAll : List Stmt → List Stmt
  | [] => []
  | s :: rest => s.unlisted :: unlistedAll rest

def unlistedNested : List (List Stmt) → List (List Stmt)
  | [] => []
  | body :: rest => unlistedAll body :: unlistedNested rest

end

theorem unlistedAll_eq (body : List Stmt) : unlistedAll body = body.map Stmt.unlisted := by
  induction body with
  | nil => rfl
  | cons s rest ih => rw [unlistedAll, ih, List.map_cons]

theorem unlistedNested_eq (bodies : List (List Stmt)) :
    unlistedNested bodies = bodies.map (List.map Stmt.unlisted) := by
  induction bodies with
  | nil => rfl
  | cons body rest ih => rw [unlistedNested, ih, unlistedAll_eq, List.map_cons]

mutual

theorem ownStmts_unlisted (s : Stmt) : ownStmts s.unlisted = (ownStmts s).map Stmt.unlisted := by
  cases s with
  | loop place target iter body orelse =>
    simp [Stmt.unlisted, ownStmts, ownStmtsAll_unlisted body, ownStmtsAll_unlisted orelse]
  | block place exprs bodies => simp [Stmt.unlisted, ownStmts, ownStmtsNested_unlisted bodies]
  | _ => simp [Stmt.unlisted, ownStmts]

theorem ownStmtsAll_unlisted (body : List Stmt) :
    ownStmtsAll (unlistedAll body) = (ownStmtsAll body).map Stmt.unlisted := by
  cases body with
  | nil => rfl
  | cons s rest =>
    simp [unlistedAll, ownStmtsAll, ownStmts_unlisted s, ownStmtsAll_unlisted rest]

theorem ownStmtsNested_unlisted (bodies : List (List Stmt)) :
    ownStmtsNested (unlistedNested bodies) = (ownStmtsNested bodies).map Stmt.unlisted := by
  cases bodies with
  | nil => rfl
  | cons body rest =>
    simp [unlistedNested, ownStmtsNested, ownStmtsAll_unlisted body, ownStmtsNested_unlisted rest]

end

/-- Names that an import lists are no variables of the function around it. -/
theorem functionNames_unlisted (params : List String) (body : List Stmt) :
    functionNames params (body.map Stmt.unlisted) = functionNames params body := by
  have assigned (s : Stmt) : s.unlisted.assigned = s.assigned := by cases s <;> rfl
  have declared (s : Stmt) : s.unlisted.declared = s.declared := by cases s <;> rfl
  rw [← unlistedAll_eq]
  simp [functionNames, assignedNamesAll_eq, declaredNamesAll_eq, ownStmtsAll_unlisted,
    List.flatMap_map, assigned, declared]

theorem stmtFindings_unlisted (bound : Bound) (s : Stmt) :
    stmtFindings policy bound s.unlisted = stmtFindings policy bound s := by
  induction s using Stmt.byInner generalizing bound with
  | step s ih =>
    have inside {body : List Stmt} (hb : body ⊆ s.inner) (bound : Bound) :
        stmtsFindings policy bound (body.map Stmt.unlisted) = stmtsFindings policy bound body := by
      rw [stmtsFindings_eq, stmtsFindings_eq, List.flatMap_map]
      exact List.flatMap_congr fun c hc => ih c (hb hc) bound
    cases s with
    | function place name params header body =>
      rw [Stmt.unlisted, unlistedAll_eq, stmtFindings, stmtFindings, functionNames_unlisted,
        inside (List.Subset.refl body)]
    | classDef place name header body =>
      rw [Stmt.unlisted, unlistedAll_eq, stmtFindings, stmtFindings,
        inside (List.Subset.refl body)]
    | loop place target iter body orelse =>
      rw [Stmt.unlisted, unlistedAll_eq, unlistedAll_eq, stmtFindings, stmtFindings,
        inside (List.subset_append_left body orelse), inside (List.subset_append_right body orelse)]
    | block place exprs bodies =>
      rw [Stmt.unlisted, unlistedNested_eq, stmtFindings, stmtFindings, bodiesFindings_eq,
        bodiesFindings_eq, ← List.map_flatten, inside (List.Subset.refl bodies.flatten)]
    | _ => rfl

theorem violations_unlisted (root : List Stmt) :
    violations policy (root.map Stmt.unlisted) = violations policy root := by
  rw [violations, violations, stmtsFindings_eq, stmtsFindings_eq, List.flatMap_map]
  simp only [stmtFindings_unlisted]

/-- A module that is one `from` import is judged by the path. -/
theorem accepts_importsFrom (place : Location) (source : Option String) (level : Nat)
    (names : List String) : accepts policy [.importsFrom place source level names] =
      policy.allows (importPath source level) := by
  rw [Bool.eq_iff_iff, accepts_iff_findings_eq_nil, stmtsFindings, stmtsFindings, stmtFindings,
    List.append_nil, importFindings_eq_nil_iff]

/-! ## The routes side by side -/

/-- Every way to take a forbidden operation by its name is refused, except for importing it. -/
structure RoutesClosed (policy : Policy) : Prop where
  fetched : ∀ {operation root frames p e}, policy.forbids operation = true →
    ExprAt root frames p e → e.Fetches operation → accepts policy root = false
  keywords : ∀ {operation index body start subject cases c cls items attrs attrItems},
    policy.forbids operation = true → Script.Inside body (.match start subject cases) →
    c ∈ cases → Script.Pattern.IsWithin (.instanceOf cls items attrs attrItems) c.pattern →
    operation ∈ attrs → accepts policy (ofModule index body) = false
  names : ∀ {operation root frames mark}, policy.forbids operation = true →
    ExprAt root frames .load (.name mark operation) →
    (∀ frame ∈ frames, operation ∉ frame.recorded) → accepts policy root = false
  /-- Modules that differ in what their imports list have the same violations. -/
  listed : ∀ {root root'}, root.map Stmt.unlisted = root'.map Stmt.unlisted →
    violations policy root = violations policy root'
  imported : ∀ {index start source aliases level},
    accepts policy (ofModule index [.importNames start source aliases level]) =
      policy.allows (importPath source level)

theorem routes_closed_but_imports (policy : Policy) : RoutesClosed policy where
  fetched forbidden he h := he.accepts_eq_false (h.isRefused forbidden)
  keywords forbidden hs hc within ha :=
    (neverAccepted_of_pattern hc within fun _ => gives_keywords_refused ha forbidden).module hs
  names {operation root frames mark} forbidden he free := by
    rw [← Bool.not_eq_true]
    intro accepted
    have recorded := mem_bound_of_silent (he.exprFindings_eq_nil accepted) forbidden
    obtain ⟨frame, hf, recorded⟩ := List.mem_flatMap.1 recorded
    exact free frame hf recorded
  listed {root root'} same := by
    rw [← violations_unlisted root, same, violations_unlisted]
  imported {index start source aliases level} := by
    have tree : ofModule index [.importNames start source aliases level] =
        [.importsFrom (index.locate start) source level (aliases.map (·.name))] := rfl
    rw [tree, accepts_importsFrom]

/-- The loader of a module, imported under another name, loads a module that is not allowed. -/
def aliasedText : String := "from math import __loader__ as l\nl.load_module('os')\n"

theorem aliasedText_accepted :
    Policy.standard.allows "math" = true ∧ Policy.standard.forbids "__loader__" = true ∧
      ∃ body ∈ (Script.readModule aliasedText.toList).toOption,
        (ofModule (.ofText aliasedText.toList) body).flatMap Stmt.listed = ["__loader__"] ∧
        accepts .standard (ofModule (.ofText aliasedText.toList) body) = true := by
  decide +kernel

end SourceGate.Tree
