import Mathlib.Data.List.Basic
import SourceGate.Proofs.Verdict.Walk
import SourceGate.Verdict.Basic

/-! # Nested code is judged like the code of a module

Only for forbidden names does a walk ask what the scopes around it bind. So a body has the same
violations in a block, in a class and in a function, unless the function binds a forbidden name.
-/

namespace SourceGate.Tree

variable {policy : Policy} {bound bound' : Bound}

/-- Two lists of names bind the same forbidden operations. -/
def BindAlike (policy : Policy) (bound bound' : Bound) : Prop :=
  ∀ name, policy.forbids name = true → (name ∈ bound ↔ name ∈ bound')

namespace BindAlike

/-- A further scope outside of both or inside of both makes no difference. -/
theorem inside (h : BindAlike policy bound bound') (names : List String) :
    BindAlike policy (names ++ bound) (names ++ bound') := by
  intro name forbidden
  rw [List.mem_append, List.mem_append, h name forbidden]

/-- Names that are not forbidden make no difference. -/
theorem of_allowed {names : List String} (h : ∀ name ∈ names, policy.forbids name = false)
    (bound : Bound) : BindAlike policy (names ++ bound) bound := by
  intro name forbidden
  rw [List.mem_append, or_iff_right]
  intro hn
  simp [h name hn] at forbidden

end BindAlike

/-! ## What a walk asks its scopes -/

theorem ownFindings_congr (h : BindAlike policy bound bound') (p : Position) (e : Expr) :
    e.ownFindings policy bound p = e.ownFindings policy bound' p := by
  cases e with
  | name mark text =>
    cases forbidden : policy.forbids text with
    | false => simp [Expr.ownFindings, forbidden]
    | true => simp [Expr.ownFindings, h text forbidden]
  | _ => rfl

theorem exprFindings_congr (h : BindAlike policy bound bound') (p : Position) (e : Expr) :
    exprFindings policy bound p e = exprFindings policy bound' p e := by
  induction e using Expr.byChildren generalizing bound bound' p with
  | step e ih =>
    rw [exprFindings_eq, exprFindings_eq, ownFindings_congr h]
    refine congrArg _ (List.flatMap_congr fun part hp => ?_)
    exact ih part.expr (Expr.holds_iff_mem_placed.2 hp).mem_children (h.inside _) part.position

theorem exprsFindings_congr (h : BindAlike policy bound bound') (p : Position) (es : List Expr) :
    exprsFindings policy bound p es = exprsFindings policy bound' p es := by
  rw [exprsFindings_eq, exprsFindings_eq]
  exact List.flatMap_congr fun e _ => exprFindings_congr h p e

theorem targetFindings_congr (h : BindAlike policy bound bound') (value target : Expr) :
    targetFindings policy bound value target = targetFindings policy bound' value target := by
  rw [targetFindings, targetFindings, exprFindings_congr h]

theorem stmtFindings_congr (h : BindAlike policy bound bound') (s : Stmt) :
    stmtFindings policy bound s = stmtFindings policy bound' s := by
  induction s using Stmt.byInner generalizing bound bound' with
  | step s ih =>
    have inner {body : List Stmt} (hb : body ⊆ s.inner) {bound bound' : Bound}
        (h : BindAlike policy bound bound') :
        stmtsFindings policy bound body = stmtsFindings policy bound' body := by
      rw [stmtsFindings_eq, stmtsFindings_eq]
      exact List.flatMap_congr fun c hc => ih c (hb hc) h
    cases s with
    | function place name params header body =>
      rw [stmtFindings, stmtFindings, exprsFindings_congr h,
        inner (List.Subset.refl body) (h.inside _)]
    | classDef place name header body =>
      rw [stmtFindings, stmtFindings, exprsFindings_congr h, inner (List.Subset.refl body) h]
    | assign place targets value =>
      have unpacked : targets.flatMap (targetFindings policy bound value) =
          targets.flatMap (targetFindings policy bound' value) :=
        List.flatMap_congr fun target _ => targetFindings_congr h value target
      rw [stmtFindings, stmtFindings, unpacked, exprFindings_congr h]
    | loop place target iter body orelse =>
      rw [stmtFindings, stmtFindings, exprFindings_congr h .store, exprFindings_congr h .load,
        inner (List.subset_append_left body orelse) h,
        inner (List.subset_append_right body orelse) h]
    | block place exprs bodies =>
      rw [stmtFindings, stmtFindings, exprsFindings_congr h, bodiesFindings_eq, bodiesFindings_eq,
        inner (List.Subset.refl bodies.flatten) h]
    | imports | importsFrom | declare | unsupported => rfl

theorem stmtsFindings_congr (h : BindAlike policy bound bound') (body : List Stmt) :
    stmtsFindings policy bound body = stmtsFindings policy bound' body := by
  rw [stmtsFindings_eq, stmtsFindings_eq]
  exact List.flatMap_congr fun s _ => stmtFindings_congr h s

/-! ## Bodies -/

/-- The variables of a function are among its parameters and what it assigns. -/
theorem allowed_functionNames {params : List String} {body : List Stmt}
    (hp : ∀ param ∈ params, policy.forbids (bareParam param) = false)
    (ha : ∀ name ∈ assignedNamesAll body, policy.forbids name = false) :
    ∀ name ∈ functionNames params body, policy.forbids name = false := by
  intro name hn
  rcases List.mem_append.1 (List.mem_filter.1 hn).1 with hn | hn
  · obtain ⟨param, hm, rfl⟩ := List.mem_map.1 hn
    exact hp param hm
  · exact ha name hn

/-- A body has the violations that it has as a module, wherever it is nested. -/
structure NestedAlike (policy : Policy) (body : List Stmt) : Prop where
  block : ∀ place, violations policy [.block place [] [body]] = violations policy body
  classBody : ∀ place name,
    violations policy [.classDef place name [] body] = violations policy body
  function : (∀ name ∈ assignedNamesAll body, policy.forbids name = false) → ∀ place name,
    violations policy [.function place name [] [] body] = violations policy body
  /-- What counts of a function is what it binds, parameters included and declared names not. -/
  scope : ∀ params, (∀ name ∈ functionNames params body, policy.forbids name = false) →
    ∀ place name, violations policy [.function place name params [] body] = violations policy body

theorem violations_function {params : List String} {body : List Stmt}
    (h : ∀ name ∈ functionNames params body, policy.forbids name = false) (place : Location)
    (name : String) :
    violations policy [.function place name params [] body] = violations policy body := by
  have same := stmtsFindings_congr (BindAlike.of_allowed h []) body
  rw [violations, stmtsFindings, stmtFindings, same]
  simp [violations, stmtsFindings, exprsFindings]

theorem violations_nested (policy : Policy) (body : List Stmt) : NestedAlike policy body where
  block place := by
    simp [violations, stmtsFindings, stmtFindings, exprsFindings, bodiesFindings]
  classBody place name := by
    simp [violations, stmtsFindings, stmtFindings, exprsFindings]
  function h := violations_function (allowed_functionNames (by simp) h)
  scope params h := violations_function h

/-- A function that binds the forbidden name hides it: the body alone reports it. -/
example :
    let body := [.assign ⟨2, 5⟩ [.name ⟨0, ⟨2, 5⟩⟩ "open"] (.constant ⟨1, ⟨2, 12⟩⟩),
      .block ⟨3, 5⟩ [.name ⟨2, ⟨3, 5⟩⟩ "open"] []]
    (violations .standard body).map (·.target) = ["open"] ∧
      violations .standard [.function ⟨1, 1⟩ "f" [] [] body] = [] := by
  decide +kernel

end SourceGate.Tree
