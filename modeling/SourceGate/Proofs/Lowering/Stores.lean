import SourceGate.Proofs.Lowering.Statement
import SourceGate.Tree.OfText
import SourceGate.Verdict.Basic

/-! # Loads and stores of assignments

An assignment of the tree stores into the names that the statement binds, as far as no star stands
in front of them. It also stores into what Python reads: the target of an augmented assignment, and
an annotation that comes with a value. A name there is passed over by a walk and becomes a variable
of its scope. An assignment without such names is exact.
-/

namespace SourceGate.Tree

open Script (Inside)

variable {index : LineIndex}

/-- How an assignment of the tree tells what is bound from what is read. -/
structure StoresNames (index : LineIndex) (s : Script.Stmt) (t : Stmt) : Prop where
  /-- The names in store position: those that are bound behind no star, then those that are read. -/
  stored : t.stored.flatMap Expr.mentions = s.plain index ++ s.misread index
  /-- What is bound stands behind no star or behind one. -/
  bound : (s.binds index).Perm (s.plain index ++ s.starredNames index)
  /-- They are the names that are bound just when what is misread is what stands behind a star. These
  stand at different places of a text, so neither is there. -/
  exact_iff : (t.stored.flatMap Expr.mentions).Perm (s.binds index) ↔
    (s.misread index).Perm (s.starredNames index)
  /-- They are the names that the stores of the statement reach, through lists and tuples. -/
  reached {c : Expr} : c ∈ t.stored ↔ t.StoresTo c
  /-- Each of them becomes a variable of the scope, and nothing else does. -/
  locals : assignedNames t = t.stored.flatMap targetNames
  /-- Nothing is found at any of them. -/
  silent {c : Expr} (h : c ∈ t.stored) (policy : Policy) (bound : Bound) :
    exprFindings policy bound .store c = []
  /-- What is found where an expression is read is found where it is stored into, except at them. -/
  searched {e : Expr} (h : t.Holds .store e) (policy : Policy) (bound : Bound) :
    (exprFindings policy bound .load e).Perm
        (exprFindings policy bound .store e ++
          e.stored.flatMap (exprFindings policy bound .load)) ∧
      e.stored ⊆ t.stored

/-! ## The lowering of assignments -/

/-- What an assignment of the tree stores into. -/
def storeExprs : Script.Stmt → List Script.Expr
  | .assign _ targets _ => targets
  | .augAssign _ target _ _ => [target]
  | .annAssign _ target a (some _) => [target, a]
  | _ => []

theorem plain_append_misread (index : LineIndex) (s : Script.Stmt) :
    s.plain index ++ s.misread index = (storeExprs s).flatMap (Script.Expr.plain index) := by
  cases s with
  | assign start targets value =>
    simp [storeExprs, Script.Stmt.plain, Script.Stmt.misread, Script.plainAll_eq]
  | augAssign start target op value => simp [storeExprs, Script.Stmt.plain, Script.Stmt.misread]
  | annAssign start target a value =>
    cases value with
    | none => rfl
    | some value => simp [storeExprs, Script.Stmt.plain, Script.Stmt.misread]
  | _ => rfl

/-- An assignment with these targets, or a block where nothing is stored into. -/
inductive StoresInto (index : LineIndex) (es : List Script.Expr) : Stmt → Prop where
  | assign {place es' value} (h : Images index es es') :
      StoresInto index es (.assign place es' value)
  | block {place read} (h : es = []) : StoresInto index es (.block place read [])

theorem gives_assignment (index : LineIndex) {s : Script.Stmt} (ha : s.isAssignment = true) :
    Gives (lowerStmt index s) (StoresInto index (storeExprs s)) := by
  cases s with
  | assign start targets value =>
    rw [lowerStmt]
    apply (lowers index targets).exprs.bind
    intro targets' images
    apply (gives_lowerExpr index value).bind
    intro value' _
    exact gives_pure (.assign images)
  | augAssign start target op value =>
    rw [lowerStmt]
    apply (gives_lowerExpr index target).bind
    intro target' image
    apply (gives_lowerExpr index value).bind
    intro value' _
    exact gives_pure (.assign image.single)
  | annAssign start target a value =>
    cases value with
    | none =>
      rw [lowerStmt]
      apply (gives_lowerExpr index target).bind
      intro target' _
      apply (gives_lowerExpr index a).bind
      intro a' _
      exact gives_pure (.block rfl)
    | some value =>
      rw [lowerStmt]
      apply (gives_lowerExpr index target).bind
      intro target' targetImage
      apply (gives_lowerExpr index a).bind
      intro a' image
      apply (gives_lowerExpr index value).bind
      intro value' _
      exact gives_pure (.assign (.cons targetImage image.single))
  | _ => cases ha

theorem StoresInto.stored {es : List Script.Expr} {t : Stmt} (h : StoresInto index es t) :
    t.stored.flatMap Expr.mentions = es.flatMap (Script.Expr.plain index) := by
  cases h with
  | assign h => rw [Stmt.stored, storedAll_eq, h.stored]
  | block h =>
    rw [h]
    rfl

theorem StoresInto.locals {es : List Script.Expr} {t : Stmt} (h : StoresInto index es t) :
    assignedNames t = t.stored.flatMap targetNames := by
  cases h with
  | assign _ => rw [assignedNames, Stmt.stored, targetNamesAll_eq_stored]
  | block _ => rfl

theorem exprFindings_stored {t : Stmt} {c : Expr} (h : c ∈ t.stored) (policy : Policy)
    (bound : Bound) : exprFindings policy bound .store c = [] := by
  obtain ⟨e, -, ⟨mark, text, rfl⟩, -⟩ := Stmt.mem_stored_iff.1 h
  simp [exprFindings]

theorem stored_subset_of_holds {t : Stmt} {e : Expr} (h : t.Holds .store e) :
    e.stored ⊆ t.stored :=
  fun _ hc => Stmt.mem_stored_iff.2 ⟨e, h, Expr.mem_stored_iff.1 hc⟩

theorem storesNames_of_lowered {s : Script.Stmt} {t : Stmt} (ha : s.isAssignment = true)
    (h : Lowered index s t) : StoresNames index s t := by
  obtain ⟨next, rfl⟩ := h
  have into := (gives_assignment index ha).outcome next
  have stored := into.stored
  rw [← plain_append_misread] at stored
  exact {
    stored := stored
    bound := s.binds_perm index
    exact_iff := by
      rw [stored]
      exact s.perm_binds_iff index
    reached := Stmt.mem_stored_iff
    locals := into.locals
    silent := exprFindings_stored
    searched := fun he _ _ => ⟨exprFindings_load_perm _, stored_subset_of_holds he⟩ }

/-! ## The module as a whole -/

/-- Every assignment of a module stands in the tree as one that stores into the names it binds
behind no star and those it misreads, and into no others. -/
theorem assignment_storesNames (index : LineIndex) {body : List Script.Stmt} {s : Script.Stmt}
    (hs : Inside body s) (ha : s.isAssignment = true) :
    (∃ frames t, StmtAt (ofModule index body) frames t ∧ Lowered index s t ∧
      ∀ c ∈ t.stored, ExprAt (ofModule index body) frames .store c) ∧
    ∀ t, Lowered index s t → StoresNames index s t := by
  obtain ⟨frames, t, ht, hl⟩ := exists_lowered index hs
  constructor
  · exact ⟨frames, t, ht, hl, fun c hc => .of_mem_stored ht hc⟩
  · intro t' hl'
    exact storesNames_of_lowered ha hl'

/-- `x: eval = 1`, at the start of a module. -/
def annotated : Script.Stmt :=
  .annAssign 0 (.name 0 "x") (.name 3 "eval") (some (.constant 10 (.integer 1)))

theorem annotated_storesNames : Inside [annotated] annotated ∧ annotated.isAssignment = true ∧
    (∃ frames t, StmtAt (ofModule (.ofText []) [annotated]) frames t ∧
      Lowered (.ofText []) annotated t ∧
      ∀ c ∈ t.stored, ExprAt (ofModule (.ofText []) [annotated]) frames .store c) ∧
    ∀ t, Lowered (.ofText []) annotated t → StoresNames (.ofText []) annotated t := by
  have hs : Inside [annotated] annotated := .top (List.mem_singleton_self _)
  have ha : annotated.isAssignment = true := rfl
  exact ⟨hs, ha, assignment_storesNames (.ofText []) hs ha⟩

/-- Both statements read `eval`. -/
def misreadText : String := "x: eval = 1\neval += 1\n"

/-- The two reads are variables of the module to the walk, which accepts it. -/
theorem misreadText_accepted :
    ∃ body ∈ (Script.readModule misreadText.toList).toOption,
      body.flatMap (Script.Stmt.misread (.ofText misreadText.toList)) =
        [⟨.name "eval", ⟨1, 4⟩⟩, ⟨.name "eval", ⟨2, 1⟩⟩] ∧
      assignedNamesAll (ofModule (.ofText misreadText.toList) body) = ["x", "eval", "eval"] ∧
      accepts .standard (ofModule (.ofText misreadText.toList) body) = true := by
  decide +kernel

end SourceGate.Tree
