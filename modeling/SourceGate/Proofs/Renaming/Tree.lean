import SourceGate.Proofs.Recast.Tree

/-! # Other identities for the expressions of a tree

A tree under a map on identities has the shape, the texts and the places of the tree. Distinct
identities may become one. The tree is recast without any joining of its strings.
-/

namespace SourceGate.Tree

mutual

/-- The expression with all identities in it mapped. -/
def Expr.rename (f : Nat → Nat) : Expr → Expr
  | .name mark text => .name (mark.rename f) text
  | .attribute mark value attr => .attribute (mark.rename f) (value.rename f) attr
  | .subscript mark value index => .subscript (mark.rename f) (value.rename f) (index.rename f)
  | .call mark func args keywords =>
    .call (mark.rename f) (func.rename f) (renameAll f args) (renameKeywords f keywords)
  | .list mark items => .list (mark.rename f) (renameAll f items)
  | .tuple mark items => .tuple (mark.rename f) (renameAll f items)
  | .set mark items => .set (mark.rename f) (renameAll f items)
  | .dict mark entries => .dict (mark.rename f) (renameEntries f entries)
  | .str mark text => .str (mark.rename f) text
  | .int mark value => .int (mark.rename f) value
  | .constant mark => .constant (mark.rename f)
  | .comprehension mark elements clauses =>
    .comprehension (mark.rename f) (renameAll f elements) (renameClauses f clauses)
  | .lambda mark params header body =>
    .lambda (mark.rename f) params (renameAll f header) (body.rename f)
  | .branch mark tests values => .branch (mark.rename f) (renameAll f tests) (renameAll f values)
  | .concat mark left right => .concat (mark.rename f) (left.rename f) (right.rename f)
  | .other mark children => .other (mark.rename f) (renameAll f children)

def renameAll (f : Nat → Nat) : List Expr → List Expr
  | [] => []
  | e :: rest => e.rename f :: renameAll f rest

def renameKeywords (f : Nat → Nat) : List (Keyword Expr) → List (Keyword Expr)
  | [] => []
  | ⟨name, value⟩ :: rest => ⟨name, value.rename f⟩ :: renameKeywords f rest

def renameEntries (f : Nat → Nat) : List (Option Expr × Expr) → List (Option Expr × Expr)
  | [] => []
  | (none, value) :: rest => (none, value.rename f) :: renameEntries f rest
  | (some key, value) :: rest => (some (key.rename f), value.rename f) :: renameEntries f rest

def renameClauses (f : Nat → Nat) : List (Clause Expr) → List (Clause Expr)
  | [] => []
  | ⟨target, iter, conditions⟩ :: rest =>
    ⟨target.rename f, iter.rename f, renameAll f conditions⟩ :: renameClauses f rest

end

mutual

/-- The statement with all identities in it mapped. -/
def Stmt.rename (f : Nat → Nat) : Stmt → Stmt
  | .function place name params header body =>
    .function place name params (header.map (Expr.rename f)) (renameBody f body)
  | .classDef place name header body =>
    .classDef place name (header.map (Expr.rename f)) (renameBody f body)
  | .assign place targets value =>
    .assign place (targets.map (Expr.rename f)) (value.rename f)
  | .loop place target iter body orelse =>
    .loop place (target.rename f) (iter.rename f) (renameBody f body) (renameBody f orelse)
  | .block place exprs bodies => .block place (exprs.map (Expr.rename f)) (renameBodies f bodies)
  | .imports place modules => .imports place modules
  | .importsFrom place source level names => .importsFrom place source level names
  | .declare place names => .declare place names
  | .unsupported place => .unsupported place

def renameBody (f : Nat → Nat) : List Stmt → List Stmt
  | [] => []
  | s :: rest => s.rename f :: renameBody f rest

def renameBodies (f : Nat → Nat) : List (List Stmt) → List (List Stmt)
  | [] => []
  | body :: rest => renameBody f body :: renameBodies f rest

end

/-! ## Lists -/

/-- An entry of a dict display with all identities in it mapped. -/
def renameEntry (f : Nat → Nat) (entry : Option Expr × Expr) : Option Expr × Expr :=
  (entry.1.map (Expr.rename f), entry.2.rename f)

variable (f : Nat → Nat)

@[simp] theorem renameAll_eq (es : List Expr) : renameAll f es = es.map (Expr.rename f) := by
  induction es with
  | nil => rfl
  | cons e rest ih => rw [renameAll, ih, List.map_cons]

@[simp] theorem renameKeywords_eq (keywords : List (Keyword Expr)) :
    renameKeywords f keywords = keywords.map (Keyword.map (Expr.rename f)) := by
  induction keywords with
  | nil => rfl
  | cons k rest ih => rw [renameKeywords, ih, List.map_cons, Keyword.map]

@[simp] theorem renameEntries_eq (entries : List (Option Expr × Expr)) :
    renameEntries f entries = entries.map (renameEntry f) := by
  induction entries with
  | nil => rfl
  | cons entry rest ih =>
    obtain ⟨_ | key, value⟩ := entry <;> rw [renameEntries, ih, List.map_cons] <;> rfl

@[simp] theorem renameClauses_eq (clauses : List (Clause Expr)) :
    renameClauses f clauses = clauses.map (Clause.map (Expr.rename f)) := by
  induction clauses with
  | nil => rfl
  | cons c rest ih => rw [renameClauses, ih, renameAll_eq, List.map_cons, Clause.map]

@[simp] theorem renameBody_eq (body : List Stmt) :
    renameBody f body = body.map (Stmt.rename f) := by
  induction body with
  | nil => rfl
  | cons s rest ih => rw [renameBody, ih, List.map_cons]

@[simp] theorem renameBodies_eq (bodies : List (List Stmt)) :
    renameBodies f bodies = bodies.map (List.map (Stmt.rename f)) := by
  induction bodies with
  | nil => rfl
  | cons body rest ih => rw [renameBodies, ih, renameBody_eq, List.map_cons]

/-- Other identities are a recasting that leaves all strings as they are joined. -/
def Recasting.rename : Recasting f where
  expr := Expr.rename f
  stmt := Stmt.rename f
  parts {e} _ := by
    cases e with
    | dict mark entries => rw [Expr.rename, renameEntries_eq]; rfl
    | _ => simp [Expr.rename, Expr.mapParts]
  joined _ _ _ := .inl rfl
  inner s := by cases s <;> simp [Stmt.rename, Stmt.mapParts]

/-! ## What stays -/

namespace Expr

@[simp] theorem id_rename (e : Expr) : (e.rename f).id = f e.id := (Recasting.rename f).id_expr e

@[simp] theorem children_rename (e : Expr) :
    (e.rename f).children = e.children.map (Expr.rename f) := by
  cases e with
  | dict mark entries =>
    simp only [rename, renameEntries_eq, children, List.flatMap_map, List.map_flatMap]
    refine List.flatMap_congr fun entry _ => ?_
    obtain ⟨_ | key, value⟩ := entry <;> rfl
  | comprehension mark elements clauses =>
    simp [rename, children, List.flatMap_map, List.map_flatMap, Clause.map]
  | call mark func args keywords => simp [rename, children, Keyword.map, Function.comp_def]
  | _ => simp [rename, children]

theorem subterms_rename (e : Expr) :
    (e.rename f).subterms = e.subterms.map (Expr.rename f) := by
  induction e using byChildren with
  | step e ih =>
    rw [subterms_eq, subterms_eq, children_rename, List.map_cons, List.flatMap_map,
      List.map_flatMap]
    exact congrArg _ (List.flatMap_congr ih)

end Expr

namespace Stmt

theorem exprs_rename (s : Stmt) : (s.rename f).exprs = s.exprs.map (Expr.rename f) := by
  cases s <;> simp [rename, exprs]

theorem inner_rename (s : Stmt) : (s.rename f).inner = s.inner.map (Stmt.rename f) := by
  cases s <;> simp [rename, inner]

theorem nested_rename (s : Stmt) : (s.rename f).nested = s.nested.map (Stmt.rename f) := by
  induction s using byInner with
  | step s ih =>
    rw [nested_eq, nested_eq, inner_rename, List.map_cons, List.flatMap_map, List.map_flatMap]
    exact congrArg _ (List.flatMap_congr ih)

end Stmt

/-- Every identity of a module is mapped, and no other comes in. -/
theorem ids_rename (root : List Stmt) : ids (root.map (Stmt.rename f)) = (ids root).map f := by
  have inside : allStmts (root.map (Stmt.rename f)) = (allStmts root).map (Stmt.rename f) := by
    simp only [allStmts, List.flatMap_map, Stmt.nested_rename, List.map_flatMap]
  simp [ids, allExprs, inside, List.flatMap_map, List.map_flatMap, Stmt.exprs_rename,
    Expr.subterms_rename, Function.comp_def]

end SourceGate.Tree
