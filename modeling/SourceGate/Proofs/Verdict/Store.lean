import Mathlib.Logic.Relation
import SourceGate.Proofs.Verdict.Occurrence

/-! # What a store binds

A store into a list or a tuple goes on to the items; the names that it reaches are bound, and a walk
passes over them. They are all that a walk misses there: an expression that is stored into is
searched as if it were read, apart from these names.
-/

namespace SourceGate.Tree

mutual

/-- The names that a store into an expression binds. -/
def Expr.stored : Expr → List Expr
  | .name mark text => [.name mark text]
  | .list _ items | .tuple _ items => storedAll items
  | _ => []

def storedAll : List Expr → List Expr
  | [] => []
  | e :: rest => e.stored ++ storedAll rest

end

/-- The names that a statement itself stores into. -/
def Stmt.stored : Stmt → List Expr
  | .assign _ targets _ => storedAll targets
  | .loop _ target _ _ _ => target.stored
  | _ => []

theorem storedAll_eq (es : List Expr) : storedAll es = es.flatMap Expr.stored := by
  induction es with
  | nil => rfl
  | cons e rest ih => rw [storedAll, ih, List.flatMap_cons]

/-! ## Where the names stand -/

/-- A store into the first expression is handed on to the second, in the same scope. -/
def HandsOn (e c : Expr) : Prop := e.Holds .store [] .store c

/-- A name that a store into an expression reaches. -/
def Expr.Reaches (e c : Expr) : Prop :=
  (∃ mark text, c = .name mark text) ∧ Relation.ReflTransGen HandsOn e c

/-- A name that the stores of a statement reach. -/
def Stmt.StoresTo (s : Stmt) (c : Expr) : Prop := ∃ e, s.Holds .store e ∧ e.Reaches c

theorem Expr.mem_stored_of_handsOn {e d c : Expr} (h : HandsOn e d) (hc : c ∈ d.stored) :
    c ∈ e.stored := by
  cases h with
  | listItem h | tupleItem h =>
    rw [Expr.stored, storedAll_eq]
    exact List.mem_flatMap.2 ⟨d, h, hc⟩

theorem Expr.mem_stored_iff {e c : Expr} : c ∈ e.stored ↔ e.Reaches c := by
  constructor
  · intro h
    induction e using Expr.byChildren with
    | step e ih =>
      match e, ih, h with
      | .name mark text, _, h =>
        obtain rfl := List.mem_singleton.1 h
        exact ⟨⟨mark, text, rfl⟩, .refl⟩
      | .list mark items, ih, h =>
        rw [Expr.stored, storedAll_eq] at h
        obtain ⟨item, hi, h⟩ := List.mem_flatMap.1 h
        obtain ⟨hn, hr⟩ := ih item hi h
        exact ⟨hn, .head (.listItem hi) hr⟩
      | .tuple mark items, ih, h =>
        rw [Expr.stored, storedAll_eq] at h
        obtain ⟨item, hi, h⟩ := List.mem_flatMap.1 h
        obtain ⟨hn, hr⟩ := ih item hi h
        exact ⟨hn, .head (.tupleItem hi) hr⟩
  · rintro ⟨⟨mark, text, rfl⟩, h⟩
    induction h using Relation.ReflTransGen.head_induction_on with
    | refl => exact List.mem_singleton_self _
    | head h _ ih => exact Expr.mem_stored_of_handsOn h ih

theorem Stmt.mem_stored_iff {s : Stmt} {c : Expr} : c ∈ s.stored ↔ s.StoresTo c := by
  constructor
  · intro h
    cases s with
    | assign place targets value =>
      rw [Stmt.stored, storedAll_eq] at h
      obtain ⟨target, ht, h⟩ := List.mem_flatMap.1 h
      exact ⟨target, .target ht, Expr.mem_stored_iff.1 h⟩
    | loop place target iter body orelse => exact ⟨target, .loopTarget, Expr.mem_stored_iff.1 h⟩
    | _ => cases h
  · rintro ⟨e, h, hr⟩
    have he := Expr.mem_stored_iff.2 hr
    cases h with
    | target h =>
      rw [Stmt.stored, storedAll_eq]
      exact List.mem_flatMap.2 ⟨e, h, he⟩
    | loopTarget => exact he

theorem ExprAt.of_reaches {root : List Stmt} {frames : List Frame} {e c : Expr}
    (he : ExprAt root frames .store e) (h : e.Reaches c) : ExprAt root frames .store c := by
  obtain ⟨-, h⟩ := h
  induction h with
  | refl => exact he
  | tail _ h ih => exact ih.part h

/-- What a statement stores into stands in store position of the module. -/
theorem ExprAt.of_mem_stored {root : List Stmt} {frames : List Frame} {s : Stmt} {c : Expr}
    (hs : StmtAt root frames s) (h : c ∈ s.stored) : ExprAt root frames .store c := by
  obtain ⟨e, he, hr⟩ := Stmt.mem_stored_iff.1 h
  exact (ExprAt.held hs he).of_reaches hr

/-! ## What a scope and a walk make of them -/

mutual

theorem targetNames_eq_stored (e : Expr) : targetNames e = e.stored.flatMap targetNames := by
  match e with
  | .name mark text => rfl
  | .list _ items | .tuple _ items =>
    rw [targetNames, Expr.stored]
    exact targetNamesAll_eq_stored items
  | .attribute .. | .subscript .. | .call .. | .set .. | .dict .. | .str .. | .int .. | .constant ..
  | .comprehension .. | .lambda .. | .branch .. | .concat .. | .other .. => rfl

theorem targetNamesAll_eq_stored (es : List Expr) :
    targetNamesAll es = (storedAll es).flatMap targetNames := by
  match es with
  | [] => rfl
  | e :: rest =>
    rw [targetNamesAll, storedAll, List.flatMap_append, ← targetNames_eq_stored e,
      ← targetNamesAll_eq_stored rest]

end

section Walk

variable {policy : Policy} {bound : Bound}

theorem exprsFindings_load_perm {es : List Expr}
    (h : ∀ e ∈ es, (exprFindings policy bound .load e).Perm
      (exprFindings policy bound .store e ++
        e.stored.flatMap (exprFindings policy bound .load))) :
    (exprsFindings policy bound .load es).Perm
      (exprsFindings policy bound .store es ++
        (storedAll es).flatMap (exprFindings policy bound .load)) := by
  induction es with
  | nil => exact .refl _
  | cons e rest ih =>
    obtain ⟨he, hr⟩ := List.forall_mem_cons.1 h
    rw [exprsFindings, exprsFindings, storedAll, List.flatMap_append, List.append_assoc]
    apply (he.append (ih hr)).trans
    rw [List.append_assoc]
    exact (List.perm_append_comm_assoc _ _ _).append_left _

/-- An expression that is read gives what it gives when it is stored into, and what the names give
that it would store. -/
theorem exprFindings_load_perm (e : Expr) :
    (exprFindings policy bound .load e).Perm
      (exprFindings policy bound .store e ++
        e.stored.flatMap (exprFindings policy bound .load)) := by
  induction e using Expr.byChildren with
  | step e ih =>
    match e, ih with
    | .name mark text, _ => simp [exprFindings, Expr.stored]
    | .list mark items, ih | .tuple mark items, ih =>
      rw [exprFindings, exprFindings, Expr.stored]
      exact exprsFindings_load_perm ih
    | .attribute .., _ | .subscript .., _ | .call .., _ | .set .., _ | .dict .., _ | .str .., _
    | .int .., _ | .constant .., _ | .comprehension .., _ | .lambda .., _ | .branch .., _
    | .concat .., _ | .other .., _ => simp [exprFindings, Expr.stored]

end Walk

end SourceGate.Tree
