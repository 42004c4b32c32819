import Mathlib.Data.List.Nodup
import Mathlib.Data.List.Perm.Basic
import SourceGate.Proofs.Tree.Subterm
import SourceGate.Proofs.Verdict.Walk

/-! # Where an expression stands is determined

All places of a module, each expression with the constructs around it and its position, are as many
as its expressions. So where the identities of a module are distinct, an expression stands at one
place only.
-/

namespace SourceGate.Tree

open List (Perm)

/-! ## The parts in the order of the fields -/

theorem perm_children_placedClauses (frame : Frame) (clauses : List (Clause Expr)) :
    ((placedClauses frame clauses).map (·.expr)).Perm
      (clauses.flatMap fun c => c.target :: c.iter :: c.conditions) := by
  cases clauses with
  | nil => exact .nil
  | cons first rest =>
    have later : (rest.flatMap fun c => placedClause frame [c.iter] c).map (·.expr) =
        rest.flatMap fun c => c.target :: c.iter :: c.conditions := by
      simp [List.map_flatMap, placedClause, Function.comp_def]
    have here : (placedClause frame [] first).map (·.expr) = first.target :: first.conditions := by
      simp [placedClause, Function.comp_def]
    rw [placedClauses, List.map_cons, List.map_append, here, later, List.flatMap_cons]
    exact .swap _ _ _

/-- The walk comes to every child, and only the first iterable changes its turn. -/
theorem perm_children_placed (p : Position) (e : Expr) :
    ((e.placed p).map (·.expr)).Perm e.children := by
  cases e with
  | comprehension mark elements clauses =>
    rw [Expr.placed, List.map_append, Expr.children]
    have same : (elements.map fun e => Placed.mk [.comprehension clauses] .load e).map (·.expr) =
        elements := by
      simp [Function.comp_def]
    rw [same]
    exact ((perm_children_placedClauses _ clauses).append_right _).trans List.perm_append_comm
  | _ => simp [Expr.placed, Expr.children, Function.comp_def]

/-! ## All places -/

/-- The places of an expression and of all its parts. -/
def Expr.places (frames : List Frame) (p : Position) (e : Expr) : List Placed :=
  ⟨frames, p, e⟩ :: (e.placed p).attach.flatMap fun ⟨part, h⟩ =>
    have := sizeOf_lt_of_mem_children (holds_iff_mem_placed.2 h).mem_children
    part.expr.places (part.entered ++ frames) part.position
termination_by sizeOf e

theorem Expr.places_eq (frames : List Frame) (p : Position) (e : Expr) :
    e.places frames p = ⟨frames, p, e⟩ :: (e.placed p).flatMap fun part =>
      part.expr.places (part.entered ++ frames) part.position := by
  rw [places, List.flatMap_subtype (g := fun part : Placed =>
    part.expr.places (part.entered ++ frames) part.position) fun _ _ => rfl, List.unattach_attach]

/-- The expressions directly inside a statement, with their positions. -/
def Stmt.placed : Stmt → List (Position × Expr)
  | .assign _ targets value => targets.map (.store, ·) ++ [(.load, value)]
  | .loop _ target iter _ _ => [(.store, target), (.load, iter)]
  | s => s.exprs.map (.load, ·)

/-- The places inside a statement, at every depth. -/
def Stmt.places (frames : List Frame) (s : Stmt) : List Placed :=
  (s.placed.flatMap fun part => part.2.places frames part.1) ++
    s.inner.attach.flatMap fun ⟨c, h⟩ =>
      have := sizeOf_lt_of_mem_inner h
      c.places (s.entered ++ frames)
termination_by sizeOf s

theorem Stmt.places_eq (frames : List Frame) (s : Stmt) :
    s.places frames = (s.placed.flatMap fun part => part.2.places frames part.1) ++
      s.inner.flatMap (Stmt.places (s.entered ++ frames)) := by
  rw [places, List.flatMap_subtype (g := Stmt.places (s.entered ++ frames)) fun _ _ => rfl,
    List.unattach_attach]

/-- The places of a module. -/
def places (root : List Stmt) : List Placed := root.flatMap (Stmt.places [])

/-! ## As many as expressions -/

theorem Expr.perm_subterms_places (frames : List Frame) (p : Position) (e : Expr) :
    ((e.places frames p).map (·.expr)).Perm e.subterms := by
  induction e using byChildren generalizing frames p with
  | step e ih =>
    rw [places_eq, subterms_eq, List.map_cons, List.map_flatMap]
    refine .cons _ (Perm.trans ?_ ((perm_children_placed p e).flatMap_right _))
    rw [List.flatMap_map]
    refine Perm.flatMap_left _ fun part hp => ?_
    exact ih part.expr (holds_iff_mem_placed.2 hp).mem_children _ _

theorem Stmt.map_placed (s : Stmt) : s.placed.map (·.2) = s.exprs := by
  cases s <;> simp [placed, exprs, Function.comp_def]

theorem Stmt.perm_subterms_places (frames : List Frame) (s : Stmt) :
    ((s.places frames).map (·.expr)).Perm
      (s.nested.flatMap fun s => s.exprs.flatMap Expr.subterms) := by
  induction s using byInner generalizing frames with
  | step s ih =>
    rw [places_eq, nested_eq, List.map_append, List.map_flatMap, List.map_flatMap,
      List.flatMap_cons, List.flatMap_assoc, ← map_placed, List.flatMap_map]
    refine Perm.append (Perm.flatMap_left _ fun part _ => ?_) (Perm.flatMap_left _ fun c hc => ?_)
    · exact part.2.perm_subterms_places frames part.1
    · exact ih c hc _

theorem perm_allExprs_places (root : List Stmt) :
    ((places root).map (·.expr)).Perm (allExprs root) := by
  rw [places, allExprs, allStmts, List.map_flatMap, List.flatMap_assoc]
  exact Perm.flatMap_left _ fun s _ => s.perm_subterms_places []

theorem nodup_ids_places {root : List Stmt} (distinct : (ids root).Nodup) :
    ((places root).map (·.expr.id)).Nodup := by
  have perm := (perm_allExprs_places root).map Expr.id
  rw [List.map_map] at perm
  exact perm.nodup_iff.2 distinct

/-! ## What stands somewhere is listed -/

theorem Expr.places_subset_of_holds {frames entered : List Frame} {p q : Position} {e c : Expr}
    (h : e.Holds p entered q c) : c.places (entered ++ frames) q ⊆ e.places frames p := by
  intro part hp
  rw [places_eq]
  exact List.mem_cons_of_mem _ (List.mem_flatMap.2 ⟨_, mem_placed_of_holds h, hp⟩)

theorem Stmt.mem_placed_of_holds {s : Stmt} {p : Position} {e : Expr} (h : s.Holds p e) :
    (p, e) ∈ s.placed := by
  cases h <;> simp_all [placed, exprs]

theorem Stmt.places_subset_of_holds {frames : List Frame} {s : Stmt} {p : Position} {e : Expr}
    (h : s.Holds p e) : e.places frames p ⊆ s.places frames := by
  intro part hp
  rw [places_eq]
  exact List.mem_append_left _ (List.mem_flatMap.2 ⟨_, mem_placed_of_holds h, hp⟩)

variable {root : List Stmt} {frames frames' : List Frame} {p q : Position} {e n : Expr}

theorem StmtAt.places_subset {s : Stmt} (hs : StmtAt root frames s) :
    s.places frames ⊆ places root := by
  induction hs using StmtAt.byInner with
  | top h => exact fun part hp => List.mem_flatMap.2 ⟨_, h, hp⟩
  | inner hs h ih =>
    refine fun part hp => ih ?_
    rw [Stmt.places_eq]
    exact List.mem_append_right _ (List.mem_flatMap.2 ⟨_, h, hp⟩)

theorem ExprAt.places_subset (he : ExprAt root frames p e) : e.places frames p ⊆ places root := by
  induction he with
  | held hs h => exact List.Subset.trans (Stmt.places_subset_of_holds h) hs.places_subset
  | part _ h ih => exact List.Subset.trans (Expr.places_subset_of_holds h) ih

theorem ExprAt.mem_places (he : ExprAt root frames p e) : ⟨frames, p, e⟩ ∈ places root := by
  refine he.places_subset ?_
  rw [Expr.places_eq]
  exact List.mem_cons_self

/-- Where identities are distinct, an expression stands at one place. -/
theorem ExprAt.place_unique (distinct : (ids root).Nodup) (he : ExprAt root frames p e)
    (hn : ExprAt root frames' q n) (same : n.id = e.id) : frames' = frames ∧ q = p ∧ n = e := by
  have places : Placed.mk frames' q n = ⟨frames, p, e⟩ :=
    List.inj_on_of_nodup_map (nodup_ids_places distinct) hn.mem_places he.mem_places same
  simpa using places

end SourceGate.Tree
