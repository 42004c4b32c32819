import SourceGate.Proofs.Script.Children
import SourceGate.Proofs.Tree.Mention

/-! # What an assignment binds in Python

A target binds the names that it shows, as itself or through lists, tuples and stars. The target of
an augmented assignment is read before it is bound, and an annotation is evaluated.
-/

namespace SourceGate.Script

mutual

/-- The names that a target shows without a star. -/
def Expr.plain (index : LineIndex) : Expr → List Mention
  | .name start text => [⟨.name text, index.locate start⟩]
  | .list _ items | .tuple _ items => plainAll index items
  | _ => []

def plainAll (index : LineIndex) : List Expr → List Mention
  | [] => []
  | e :: rest => e.plain index ++ plainAll index rest

end

mutual

/-- The names that an assignment to a target binds. -/
def Expr.binds (index : LineIndex) : Expr → List Mention
  | .name start text => [⟨.name text, index.locate start⟩]
  | .list _ items | .tuple _ items => bindsAll index items
  | .starred _ value => value.binds index
  | _ => []

def bindsAll (index : LineIndex) : List Expr → List Mention
  | [] => []
  | e :: rest => e.binds index ++ bindsAll index rest

end

mutual

/-- The names that a target shows behind a star. -/
def Expr.starredNames (index : LineIndex) : Expr → List Mention
  | .list _ items | .tuple _ items => starredNamesAll index items
  | .starred _ value => value.binds index
  | _ => []

def starredNamesAll (index : LineIndex) : List Expr → List Mention
  | [] => []
  | e :: rest => e.starredNames index ++ starredNamesAll index rest

end

theorem plainAll_eq (index : LineIndex) (es : List Expr) :
    plainAll index es = es.flatMap (Expr.plain index) := by
  induction es with
  | nil => rfl
  | cons e rest ih => rw [plainAll, ih, List.flatMap_cons]

mutual

/-- A bound name is shown with or without a star. -/
theorem Expr.binds_perm (index : LineIndex) (e : Expr) :
    (e.binds index).Perm (e.plain index ++ e.starredNames index) := by
  match e with
  | .list _ items | .tuple _ items =>
    rw [Expr.binds, Expr.plain, Expr.starredNames]
    exact bindsAll_perm index items
  | .name .. | .starred .. | .attribute .. | .subscript .. | .call .. | .set .. | .dict ..
  | .constant .. | .unary .. | .binary .. | .boolean .. | .conditional .. | .named .. | .listComp ..
  | .setComp .. | .dictComp .. | .generator .. | .lambda .. | .compare .. | .await .. | .yield ..
  | .yieldFrom .. | .formatted .. | .joined .. | .slice .. => exact .refl _

theorem bindsAll_perm (index : LineIndex) (es : List Expr) :
    (bindsAll index es).Perm (plainAll index es ++ starredNamesAll index es) := by
  match es with
  | [] => exact .refl _
  | e :: rest =>
    rw [bindsAll, plainAll, starredNamesAll, List.append_assoc]
    apply ((e.binds_perm index).append (bindsAll_perm index rest)).trans
    rw [List.append_assoc]
    exact (List.perm_append_comm_assoc _ _ _).append_left _

end

namespace Stmt

/-- Whether a statement is a plain, an augmented or an annotated assignment. -/
def isAssignment : Stmt → Bool
  | .assign .. | .augAssign .. | .annAssign .. => true
  | _ => false

/-- The names that an assignment binds without reading them. An annotation without a value binds
nothing. -/
def binds (index : LineIndex) : Stmt → List Mention
  | .assign _ targets _ => bindsAll index targets
  | .annAssign _ target _ (some _) => target.binds index
  | _ => []

/-- Those of them that stand behind no star. -/
def plain (index : LineIndex) : Stmt → List Mention
  | .assign _ targets _ => plainAll index targets
  | .annAssign _ target _ (some _) => target.plain index
  | _ => []

/-- Those of them that stand behind a star. -/
def starredNames (index : LineIndex) : Stmt → List Mention
  | .assign _ targets _ => starredNamesAll index targets
  | .annAssign _ target _ (some _) => target.starredNames index
  | _ => []

/-- The names that an assignment reads where a tree stores: the target of an augmented assignment,
and an annotation that comes with a value. -/
def misread (index : LineIndex) : Stmt → List Mention
  | .augAssign _ target _ _ => target.plain index
  | .annAssign _ _ a (some _) => a.plain index
  | _ => []

theorem binds_perm (index : LineIndex) (s : Stmt) :
    (s.binds index).Perm (s.plain index ++ s.starredNames index) := by
  cases s with
  | assign start targets value => exact bindsAll_perm index targets
  | annAssign start target a value =>
    cases value with
    | none => exact .refl _
    | some value => exact target.binds_perm index
  | _ => exact .refl _

/-- What is misread takes the place of what stands behind a star. -/
theorem perm_binds_iff (index : LineIndex) (s : Stmt) :
    (s.plain index ++ s.misread index).Perm (s.binds index) ↔
      (s.misread index).Perm (s.starredNames index) := by
  rw [(s.binds_perm index).congr_right, List.perm_append_left_iff]

end Stmt

end SourceGate.Script
