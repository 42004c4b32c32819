import SourceGate.Proofs.Lowering.Identities
import SourceGate.Proofs.Lowering.Statement

/-! # No two expressions of a tree share an identity

The lookups of patterns and their bases have identities of their own, handed out after the key or
the class that they belong to. A statement keeps what its expressions and the statements inside it
keep; `except` and `case` clauses give theirs in another order than they were handed out in. So the
identities of a tree are different numbers below the reading at which the counter ends.
-/

namespace SourceGate.Tree

variable {index : LineIndex} {held : List Nat}

/-! ## Patterns -/

theorem Expr.ids_opaque (mark : Mark) : (Expr.other mark []).ids = [mark.id] := by
  rw [Expr.ids_eq]
  rfl

-- These show the identities of what is made, those of its parts told apart.
attribute [local simp] Expr.ids_opaque Expr.id Expr.mark Expr.children

/-- The lookup of a key and the base of the lookup come after the key. -/
theorem issues_keyLookup (index : LineIndex) (key : Script.Expr) :
    Issues [] (keyLookup index key) Expr.ids := by
  rw [keyLookup]
  apply (issues_lowerExpr index key).bind
  intro key'
  apply (issues_freshAt key'.place).bind
  intro base
  apply (issues_freshAt key'.place).bind
  intro mark
  apply issues_of_perm
  rw [Expr.ids_eq, Expr.children, List.perm_iff_count]
  intro id
  simp only [Expr.id, Expr.mark, List.flatMap_cons, List.flatMap_nil, Expr.ids_opaque,
    List.count_append, List.count_cons, List.count_nil]
  omega

theorem issues_attributeLookup (place : Location) (attr : String) :
    Issues [] (attributeLookup place attr) Expr.ids := by
  rw [attributeLookup]
  apply (issues_freshAt place).bind
  intro base
  apply (issues_freshAt place).bind
  intro mark
  apply issues_of_perm
  rw [Expr.ids_eq, Expr.children, List.flatMap_singleton, Expr.ids_opaque]
  exact .swap base.id mark.id []

mutual

theorem issues_lowerPattern (index : LineIndex) (p : Script.Pattern) :
    Issues [] (lowerPattern index p) (List.flatMap Expr.ids) := by
  cases p with
  | value value =>
    rw [lowerPattern]
    apply (issues_lowerExpr index value).bind
    intro value'
    exact issues_pure (by simp)
  | singleton value =>
    rw [lowerPattern]
    exact issues_pure rfl
  | star name =>
    rw [lowerPattern]
    exact issues_pure rfl
  | sequence items =>
    rw [lowerPattern]
    exact issues_lowerPatterns index items
  | either items =>
    rw [lowerPattern]
    exact issues_lowerPatterns index items
  | mapping keys items rest =>
    rw [lowerPattern]
    apply (issues_mapM (issues_keyLookup index) keys).bind
    intro lookups
    apply (issues_lowerPatterns index items).bind
    intro items'
    exact issues_pure (by simp)
  | instanceOf cls items attrs attrItems =>
    rw [lowerPattern]
    apply (issues_lowerExpr index cls).bind
    intro cls'
    apply (issues_mapM (issues_attributeLookup cls'.place) attrs).bind
    intro lookups
    apply (issues_lowerPatterns index items).bind
    intro items'
    apply (issues_lowerPatterns index attrItems).bind
    intro attrItems'
    exact issues_pure (by simp)
  | capture inner name =>
    cases inner with
    | none =>
      rw [lowerPattern]
      exact issues_pure rfl
    | some inner =>
      rw [lowerPattern]
      exact issues_lowerPattern index inner

theorem issues_lowerPatterns (index : LineIndex) (ps : List Script.Pattern) :
    Issues [] (lowerPatterns index ps) (List.flatMap Expr.ids) := by
  cases ps with
  | nil =>
    rw [lowerPatterns]
    exact issues_pure rfl
  | cons p rest =>
    rw [lowerPatterns]
    apply (issues_lowerPattern index p).bind
    intro found
    apply (issues_lowerPatterns index rest).bind
    intro rest'
    exact issues_pure (by simp)

end

/-! ## Groups of statements -/

/-- The expressions of a statement come before the statements inside. -/
theorem ids_stmt (s : Stmt) : ids [s] = s.exprs.flatMap Expr.ids ++ ids s.inner := by
  simp only [ids, allExprs, allStmts, List.flatMap_cons, List.flatMap_nil, List.append_nil,
    Stmt.nested_eq, List.map_append, List.map_flatMap]
  rfl

theorem ids_nil : ids [] = [] := rfl

theorem ids_cons (s : Stmt) (rest : List Stmt) : ids (s :: rest) = ids [s] ++ ids rest :=
  ids_append [s] rest

/-- Each of these statements is lowered to one whose identities are handed out for it. -/
def NumbersStmts (index : LineIndex) (body : List Script.Stmt) : Prop :=
  ∀ s ∈ body, Issues [] (lowerStmt index s) fun t => ids [t]

theorem NumbersStmts.cons_iff {s : Script.Stmt} {body : List Script.Stmt} :
    NumbersStmts index (s :: body) ↔
      Issues [] (lowerStmt index s) (fun t => ids [t]) ∧ NumbersStmts index body :=
  List.forall_mem_cons

theorem NumbersStmts.append_iff {body orelse : List Script.Stmt} :
    NumbersStmts index (body ++ orelse) ↔ NumbersStmts index body ∧ NumbersStmts index orelse :=
  List.forall_mem_append

theorem issues_lowerStmts {body : List Script.Stmt} (h : NumbersStmts index body) :
    Issues [] (lowerStmts index body) ids := by
  induction body with
  | nil =>
    rw [lowerStmts]
    exact issues_pure rfl
  | cons s rest ih =>
    obtain ⟨hs, hr⟩ := NumbersStmts.cons_iff.1 h
    rw [lowerStmts]
    apply hs.bind
    intro t
    apply (ih hr).bind
    intro rest'
    exact issues_pure (ids_cons t rest')

theorem issues_lowerItems (index : LineIndex) (items : List Script.ContextItem) :
    Issues [] (lowerItems index items) (List.flatMap Expr.ids) := by
  induction items with
  | nil =>
    rw [lowerItems]
    exact issues_pure rfl
  | cons item rest ih =>
    obtain ⟨context, target⟩ := item
    rw [lowerItems]
    apply (issues_lowerExpr index context).bind
    intro context'
    apply (issues_lowerOption (numbers index target.toList)).bind
    intro target'
    apply ih.bind
    intro rest'
    exact issues_pure (by simp)

theorem issues_lowerKeywordValues (index : LineIndex)
    (keywords : List (Script.KeywordArgument Script.Expr)) :
    Issues [] (lowerKeywordValues index keywords) (List.flatMap Expr.ids) := by
  rw [lowerKeywordValues]
  exact (issues_lowerKeywords (numbers index _)).bind fun keywords' => issues_pure rfl

/-- The identities of the expressions and the bodies of clauses. -/
def clauseIds : List Expr × List (List Stmt) → List Nat
  | (es, bodies) => es.flatMap Expr.ids ++ ids bodies.flatten

/-- The expressions of all clauses are put before the body of the first. -/
theorem perm_clauseIds (found es : List Expr) (body : List Stmt) (bodies : List (List Stmt)) :
    (clauseIds (found ++ es, body :: bodies)).Perm
      (found.flatMap Expr.ids ++ ids body ++ clauseIds (es, bodies)) := by
  simp only [clauseIds, List.flatMap_append, List.flatten_cons, ids_append, List.append_assoc]
  exact List.perm_append_comm_assoc _ _ _ |>.append_left _

theorem issues_lowerCases {cases : List (Script.MatchCase Script.Stmt)}
    (h : NumbersStmts index (cases.flatMap (·.body))) :
    Issues [] (lowerCases index cases) clauseIds := by
  induction cases with
  | nil =>
    rw [lowerCases]
    exact issues_pure rfl
  | cons c rest ih =>
    obtain ⟨pattern, guard, body⟩ := c
    rw [List.flatMap_cons] at h
    obtain ⟨hb, hr⟩ := NumbersStmts.append_iff.1 h
    rw [lowerCases]
    apply (issues_lowerPattern index pattern).bind
    intro found
    apply (issues_lowerOption (numbers index guard.toList)).bind
    intro guard'
    apply (issues_lowerStmts hb).bind
    intro body'
    apply (ih hr).bind
    rintro ⟨es, bodies⟩
    apply issues_of_perm
    refine (perm_clauseIds _ es body' bodies).trans (.of_eq ?_)
    simp

theorem issues_lowerHandlers {handlers : List (Script.Handler Script.Stmt)}
    (h : NumbersStmts index (handlers.flatMap (·.body))) :
    Issues [] (lowerHandlers index handlers) clauseIds := by
  induction handlers with
  | nil =>
    rw [lowerHandlers]
    exact issues_pure rfl
  | cons handler rest ih =>
    obtain ⟨cause, name, body⟩ := handler
    rw [List.flatMap_cons] at h
    obtain ⟨hb, hr⟩ := NumbersStmts.append_iff.1 h
    rw [lowerHandlers]
    apply (issues_lowerOption (numbers index cause.toList)).bind
    intro cause'
    apply (issues_lowerStmts hb).bind
    intro body'
    apply (ih hr).bind
    rintro ⟨es, bodies⟩
    exact issues_of_perm (perm_clauseIds cause' es body' bodies)

/-! ## One lemma for each kind of form -/

/-- A statement that is made last has the identities of its expressions and of its bodies. -/
theorem issues_stmt {t : Stmt} (parts : t.exprs.flatMap Expr.ids ++ ids t.inner = held) :
    Issues held (pure t) fun t => ids [t] :=
  issues_pure ((ids_stmt t).trans parts)

-- The equations are made here once; the others show the parts of what is made.
attribute [local simp] lowerStmt Stmt.exprs Stmt.inner ids_nil ids_append clauseIds

/-- If the statements inside get identities of their own, so does the statement. -/
def PassesStmt (index : LineIndex) (s : Script.Stmt) : Prop :=
  NumbersStmts index s.inner → Issues [] (lowerStmt index s) fun t => ids [t]

theorem passes_function (start : Nat) (isAsync : Bool) (name : String)
    (typeParams : List Script.TypeParameter) (params : Script.Parameters Script.Expr)
    (body : List Script.Stmt) (decorators : List Script.Expr) (returns : Option Script.Expr) :
    PassesStmt index
      (.function start isAsync name typeParams params body decorators returns) := by
  intro h
  rw [lowerStmt]
  apply (issues_lowerExprs (numbers index decorators)).bind
  intro decorators'
  apply (issues_lowerParameters (numbers index params.exprs)).bind
  intro header
  apply (issues_lowerOption (numbers index returns.toList)).bind
  intro returns'
  apply (issues_lowerStmts h).bind
  intro body'
  exact issues_stmt (by simp)

theorem passes_classDef (start : Nat) (name : String) (typeParams : List Script.TypeParameter)
    (bases : List Script.Expr) (keywords : List (Script.KeywordArgument Script.Expr))
    (body : List Script.Stmt) (decorators : List Script.Expr) :
    PassesStmt index (.classDef start name typeParams bases keywords body decorators) := by
  intro h
  rw [lowerStmt]
  apply (issues_lowerExprs (numbers index decorators)).bind
  intro decorators'
  apply (issues_lowerExprs (numbers index bases)).bind
  intro bases'
  apply (issues_lowerKeywordValues index keywords).bind
  intro keywords'
  apply (issues_lowerStmts h).bind
  intro body'
  exact issues_stmt (by simp)

theorem passes_annAssign (start : Nat) (target a : Script.Expr) (value : Option Script.Expr) :
    PassesStmt index (.annAssign start target a value) := by
  intro _
  cases value with
  | none =>
    rw [lowerStmt]
    apply (issues_lowerExpr index target).bind
    intro target'
    apply (issues_lowerExpr index a).bind
    intro a'
    exact issues_stmt (by simp)
  | some value =>
    rw [lowerStmt]
    apply (issues_lowerExpr index target).bind
    intro target'
    apply (issues_lowerExpr index a).bind
    intro a'
    apply (issues_lowerExpr index value).bind
    intro value'
    exact issues_stmt (by simp)

theorem passes_for (start : Nat) (isAsync : Bool) (target iter : Script.Expr)
    (body orelse : List Script.Stmt) :
    PassesStmt index (.for start isAsync target iter body orelse) := by
  intro h
  obtain ⟨hb, ho⟩ := NumbersStmts.append_iff.1 h
  rw [lowerStmt]
  apply (issues_lowerExpr index target).bind
  intro target'
  apply (issues_lowerExpr index iter).bind
  intro iter'
  apply (issues_lowerStmts hb).bind
  intro body'
  apply (issues_lowerStmts ho).bind
  intro orelse'
  exact issues_stmt (by simp)

theorem passes_with (start : Nat) (isAsync : Bool) (items : List Script.ContextItem)
    (body : List Script.Stmt) : PassesStmt index (.with start isAsync items body) := by
  intro h
  rw [lowerStmt]
  apply (issues_lowerItems index items).bind
  intro exprs
  apply (issues_lowerStmts h).bind
  intro body'
  exact issues_stmt (by simp)

theorem passes_match (start : Nat) (subject : Script.Expr)
    (cases : List (Script.MatchCase Script.Stmt)) :
    PassesStmt index (.match start subject cases) := by
  intro h
  rw [lowerStmt]
  apply (issues_lowerExpr index subject).bind
  intro subject'
  apply (issues_lowerCases h).bind
  rintro ⟨exprs, bodies⟩
  exact issues_stmt (by simp)

/-- The body is lowered before the types of the handlers, which the statement holds first. -/
theorem passes_try (start : Nat) (isStar : Bool) (body : List Script.Stmt)
    (handlers : List (Script.Handler Script.Stmt)) (orelse final : List Script.Stmt) :
    PassesStmt index (.try start isStar body handlers orelse final) := by
  intro h
  obtain ⟨hb, h⟩ := NumbersStmts.append_iff.1 h
  obtain ⟨hh, h⟩ := NumbersStmts.append_iff.1 h
  obtain ⟨ho, hf⟩ := NumbersStmts.append_iff.1 h
  rw [lowerStmt]
  apply (issues_lowerStmts hb).bind
  intro body'
  apply (issues_lowerHandlers hh).bind
  rintro ⟨exprs, bodies⟩
  apply (issues_lowerStmts ho).bind
  intro orelse'
  apply (issues_lowerStmts hf).bind
  intro final'
  apply issues_of_perm
  rw [ids_stmt, Stmt.exprs, Stmt.inner, List.perm_iff_count]
  intro id
  simp only [clauseIds, List.cons_append, List.flatten_cons, List.flatten_append, List.flatten_nil,
    ids_append, ids_nil, List.count_append, List.count_nil]
  omega

/-! ## Every form -/

theorem issues_lowerStmt (index : LineIndex) (s : Script.Stmt) :
    Issues [] (lowerStmt index s) fun t => ids [t] := by
  induction s using Script.Stmt.byInner with
  | step s ih =>
    match s, ih with
    | .function start isAsync name typeParams params body decorators returns, ih =>
      exact passes_function start isAsync name typeParams params body decorators returns ih
    | .classDef start name typeParams bases keywords body decorators, ih =>
      exact passes_classDef start name typeParams bases keywords body decorators ih
    | .assign start targets value, _ =>
      rw [lowerStmt]
      apply (issues_lowerExprs (numbers index targets)).bind
      intro targets'
      apply (issues_lowerExpr index value).bind
      intro value'
      exact issues_stmt (by simp)
    | .augAssign start target op value, _ =>
      rw [lowerStmt]
      apply (issues_lowerExpr index target).bind
      intro target'
      apply (issues_lowerExpr index value).bind
      intro value'
      exact issues_stmt (by simp)
    | .annAssign start target a value, ih => exact passes_annAssign start target a value ih
    | .for start isAsync target iter body orelse, ih =>
      exact passes_for start isAsync target iter body orelse ih
    | .while start test body orelse, ih | .if start test body orelse, ih =>
      obtain ⟨hb, ho⟩ := NumbersStmts.append_iff.1 ih
      rw [lowerStmt]
      apply (issues_lowerExpr index test).bind
      intro test'
      apply (issues_lowerStmts hb).bind
      intro body'
      apply (issues_lowerStmts ho).bind
      intro orelse'
      exact issues_stmt (by simp)
    | .with start isAsync items body, ih => exact passes_with start isAsync items body ih
    | .match start subject cases, ih => exact passes_match start subject cases ih
    | .try start isStar body handlers orelse final, ih =>
      exact passes_try start isStar body handlers orelse final ih
    | .return start value, _ =>
      rw [lowerStmt]
      apply (issues_lowerOption (numbers index value.toList)).bind
      intro value'
      exact issues_stmt (by simp)
    | .delete start targets, _ =>
      rw [lowerStmt]
      apply (issues_lowerExprs (numbers index targets)).bind
      intro targets'
      exact issues_stmt (by simp)
    | .raise start exception cause, _ =>
      rw [lowerStmt]
      apply (issues_lowerOption (numbers index exception.toList)).bind
      intro exception'
      apply (issues_lowerOption (numbers index cause.toList)).bind
      intro cause'
      exact issues_stmt (by simp)
    | .assert start test message, _ =>
      rw [lowerStmt]
      apply (issues_lowerExpr index test).bind
      intro test'
      apply (issues_lowerOption (numbers index message.toList)).bind
      intro message'
      exact issues_stmt (by simp)
    | .expr start value, _ =>
      rw [lowerStmt]
      apply (issues_lowerExpr index value).bind
      intro value'
      exact issues_stmt (by simp)
    | .importModules .., _ | .importNames .., _ | .global .., _ | .nonlocal .., _ | .pass .., _
    | .break .., _ | .continue .., _ | .typeAlias .., _ =>
      rw [lowerStmt]
      exact issues_stmt rfl

/-- A tree keeps identities from the first one on, each of them once. -/
theorem handedOut_ofModule (index : LineIndex) (body : List Script.Stmt) :
    HandedOut 0 (lowerStmts index body 0).2 (ids (ofModule index body)) :=
  (issues_lowerStmts fun s _ => issues_lowerStmt index s).outcome (.nothing 0)

end SourceGate.Tree
