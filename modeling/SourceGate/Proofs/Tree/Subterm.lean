import Mathlib.Data.List.Nodup
import SourceGate.Proofs.Verdict.Occurrence

/-! # All parts of a tree

The expressions and the statements of a tree, at every depth, each as often as it occurs. What
stands at an occurrence is among them. Where the identities of a module are distinct, an identity
belongs to one expression.
-/

namespace SourceGate.Tree

namespace Expr

/-- An expression and all its parts. -/
def subterms (e : Expr) : List Expr :=
  e :: e.children.attach.flatMap fun ⟨c, h⟩ =>
    have := sizeOf_lt_of_mem_children h
    c.subterms
termination_by sizeOf e

theorem subterms_eq (e : Expr) : e.subterms = e :: e.children.flatMap subterms := by
  rw [subterms, List.flatMap_subtype (g := subterms) fun _ _ => rfl, List.unattach_attach]

@[simp] theorem mem_subterms_self (e : Expr) : e ∈ e.subterms := by
  rw [subterms_eq]
  exact List.mem_cons_self

/-- An expression stands inside another, at any depth. -/
def IsInside (n e : Expr) : Prop := ∃ c ∈ e.children, n ∈ c.subterms

theorem mem_subterms_iff {e n : Expr} : n ∈ e.subterms ↔ n = e ∨ n.IsInside e := by
  rw [subterms_eq, List.mem_cons, List.mem_flatMap, IsInside]

theorem isInside_of_mem_children {e c : Expr} (h : c ∈ e.children) : c.IsInside e :=
  ⟨c, h, mem_subterms_self c⟩

theorem IsInside.mem_subterms {e n : Expr} (h : n.IsInside e) : n ∈ e.subterms :=
  mem_subterms_iff.2 (.inr h)

theorem subterms_trans {e m n : Expr} (hm : m ∈ e.subterms) (hn : n ∈ m.subterms) :
    n ∈ e.subterms := by
  induction e using byChildren with
  | step e ih =>
    rcases mem_subterms_iff.1 hm with rfl | ⟨c, hc, hm⟩
    · exact hn
    · exact mem_subterms_iff.2 (.inr ⟨c, hc, ih c hc hm⟩)

theorem IsInside.of_mem_subterms {e m n : Expr} (hm : m.IsInside e) (hn : n ∈ m.subterms) :
    n.IsInside e := by
  obtain ⟨c, hc, hm⟩ := hm
  exact ⟨c, hc, subterms_trans hm hn⟩

theorem IsInside.within {e m n : Expr} (hn : n.IsInside m) (hm : m ∈ e.subterms) :
    n.IsInside e := by
  rcases mem_subterms_iff.1 hm with rfl | hm
  · exact hn
  · exact hm.of_mem_subterms hn.mem_subterms

theorem isInside_owner {mark : Mark} {value : Expr} {attr : String} :
    value.IsInside (.attribute mark value attr) :=
  isInside_of_mem_children List.mem_cons_self

theorem isInside_base {mark : Mark} {value index : Expr} :
    value.IsInside (.subscript mark value index) :=
  isInside_of_mem_children List.mem_cons_self

theorem isInside_index {mark : Mark} {value index : Expr} :
    index.IsInside (.subscript mark value index) :=
  isInside_of_mem_children (List.mem_cons_of_mem _ List.mem_cons_self)

theorem isInside_func {mark : Mark} {func : Expr} {args : List Expr}
    {keywords : List (Keyword Expr)} : func.IsInside (.call mark func args keywords) :=
  isInside_of_mem_children List.mem_cons_self

theorem isInside_arg {mark : Mark} {func a : Expr} {args : List Expr}
    {keywords : List (Keyword Expr)} (h : a ∈ args) : a.IsInside (.call mark func args keywords) :=
  isInside_of_mem_children (List.mem_cons_of_mem _ (List.mem_append_left _ h))

theorem isInside_iter {mark : Mark} {elements : List Expr} {clauses : List (Clause Expr)}
    {c : Clause Expr} (h : c ∈ clauses) : c.iter.IsInside (.comprehension mark elements clauses) :=
  isInside_of_mem_children (List.mem_append_right _ (List.mem_flatMap.2 ⟨c, h, by simp⟩))

theorem isInside_body {mark : Mark} {params : List String} {header : List Expr} {body : Expr} :
    body.IsInside (.lambda mark params header body) :=
  isInside_of_mem_children (List.mem_append_right _ (List.mem_singleton_self _))

theorem isInside_branchValue {mark : Mark} {tests values : List Expr} {v : Expr}
    (h : v ∈ values) : v.IsInside (.branch mark tests values) :=
  isInside_of_mem_children (List.mem_append_right _ h)

/-- What passes from all that stands inside to an expression holds of every expression. -/
@[elab_as_elim]
theorem byInside {motive : Expr → Prop}
    (step : ∀ e, (∀ n, n.IsInside e → motive n) → motive e) (e : Expr) : motive e := by
  suffices all : ∀ n ∈ e.subterms, motive n from all e (mem_subterms_self e)
  induction e using byChildren with
  | step e ih =>
    intro n hn
    have inside : ∀ m, m.IsInside e → motive m := fun m ⟨c, hc, hm⟩ => ih c hc m hm
    rcases mem_subterms_iff.1 hn with rfl | hn
    · exact step n inside
    · exact inside n hn

end Expr

namespace Stmt

/-- A statement and all statements in it. -/
def nested (s : Stmt) : List Stmt :=
  s :: s.inner.attach.flatMap fun ⟨c, h⟩ =>
    have := sizeOf_lt_of_mem_inner h
    c.nested
termination_by sizeOf s

theorem nested_eq (s : Stmt) : s.nested = s :: s.inner.flatMap nested := by
  rw [nested, List.flatMap_subtype (g := nested) fun _ _ => rfl, List.unattach_attach]

theorem mem_nested_iff {s n : Stmt} : n ∈ s.nested ↔ n = s ∨ ∃ c ∈ s.inner, n ∈ c.nested := by
  rw [nested_eq, List.mem_cons, List.mem_flatMap]

theorem nested_trans {s m n : Stmt} (hm : m ∈ s.nested) (hn : n ∈ m.nested) : n ∈ s.nested := by
  induction s using byInner with
  | step s ih =>
    rcases mem_nested_iff.1 hm with rfl | ⟨c, hc, hm⟩
    · exact hn
    · exact mem_nested_iff.2 (.inr ⟨c, hc, ih c hc hm⟩)

end Stmt

/-- The statements of a module at every depth, in the order of the text. -/
def allStmts (root : List Stmt) : List Stmt := root.flatMap Stmt.nested

/-- The expressions of a module at every depth. -/
def allExprs (root : List Stmt) : List Expr :=
  (allStmts root).flatMap fun s => s.exprs.flatMap Expr.subterms

/-- The identities of the expressions of a module. -/
def ids (root : List Stmt) : List Nat := (allExprs root).map Expr.id

theorem allStmts_append (before after : List Stmt) :
    allStmts (before ++ after) = allStmts before ++ allStmts after :=
  List.flatMap_append

theorem ids_append (before after : List Stmt) :
    ids (before ++ after) = ids before ++ ids after := by
  simp [ids, allExprs, allStmts_append]

theorem ids_eq_flatMap (root : List Stmt) : ids root = root.flatMap fun s => ids [s] := by
  simp [ids, allExprs, allStmts, List.map_flatMap, List.flatMap_assoc]

/-- Two statements have no identity in common. -/
def Apart (s t : Stmt) : Prop := (ids [s]).Disjoint (ids [t])

theorem disjoint_ids_of_apart {s : Stmt} {rest : List Stmt} (apart : ∀ t ∈ rest, Apart s t) :
    (ids [s]).Disjoint (ids rest) := by
  intro id hs hr
  rw [ids_eq_flatMap] at hr
  obtain ⟨t, ht, hr⟩ := List.mem_flatMap.1 hr
  exact apart t ht hs hr

/-- Where identities are distinct, no two statements of a module share one. -/
theorem pairwise_apart_of_nodup {root : List Stmt} (distinct : (ids root).Nodup) :
    root.Pairwise Apart := by
  rw [ids_eq_flatMap, List.nodup_flatMap] at distinct
  exact distinct.2

/-! ## What stands somewhere -/

variable {root : List Stmt}

theorem StmtAt.mem_allStmts {frames : List Frame} {s : Stmt} (h : StmtAt root frames s) :
    s ∈ allStmts root := by
  induction h using StmtAt.byInner with
  | top h => exact List.mem_flatMap.2 ⟨_, h, Stmt.mem_nested_iff.2 (.inl rfl)⟩
  | @inner _ s c _ h ih =>
    obtain ⟨top, ht, hs⟩ := List.mem_flatMap.1 ih
    have hc : c ∈ s.nested :=
      Stmt.mem_nested_iff.2 (.inr ⟨c, h, Stmt.mem_nested_iff.2 (.inl rfl)⟩)
    exact List.mem_flatMap.2 ⟨top, ht, Stmt.nested_trans hs hc⟩

theorem ExprAt.exists_of_mem_subterms {frames : List Frame} {p : Position} {e n : Expr}
    (he : ExprAt root frames p e) (h : n ∈ e.subterms) : ∃ frames p, ExprAt root frames p n := by
  induction e using Expr.byChildren generalizing frames p with
  | step e ih =>
    rcases Expr.mem_subterms_iff.1 h with rfl | ⟨c, hc, h⟩
    · exact ⟨frames, p, he⟩
    · obtain ⟨entered, q, hq⟩ := Expr.exists_holds_iff_mem_children.2 hc
      exact ih c hc (he.part hq) h

theorem ExprAt.mem_allExprs {frames : List Frame} {p : Position} {e : Expr}
    (h : ExprAt root frames p e) : e ∈ allExprs root := by
  induction h with
  | held hs h =>
    exact List.mem_flatMap.2 ⟨_, hs.mem_allStmts,
      List.mem_flatMap.2 ⟨_, Stmt.exists_holds_iff_mem_exprs.1 ⟨_, h⟩, Expr.mem_subterms_self _⟩⟩
  | part _ h ih =>
    obtain ⟨s, hs, he⟩ := List.mem_flatMap.1 ih
    obtain ⟨top, ht, he⟩ := List.mem_flatMap.1 he
    have hc := (Expr.isInside_of_mem_children h.mem_children).within he
    exact List.mem_flatMap.2 ⟨s, hs, List.mem_flatMap.2 ⟨top, ht, hc.mem_subterms⟩⟩

theorem ExprAt.id_mem_ids {frames : List Frame} {p : Position} {e : Expr}
    (h : ExprAt root frames p e) : e.id ∈ ids root :=
  List.mem_map_of_mem h.mem_allExprs

/-- Where identities are distinct, an expression is found by its own. -/
theorem ExprAt.eq_of_id_eq {frames frames' : List Frame} {p q : Position} {e n : Expr}
    (distinct : (ids root).Nodup) (he : ExprAt root frames p e) (hn : ExprAt root frames' q n)
    (same : n.id = e.id) : n = e :=
  List.inj_on_of_nodup_map distinct hn.mem_allExprs he.mem_allExprs same

end SourceGate.Tree
