import SourceGate.Proofs.Lowering.Statement
import SourceGate.Proofs.Tree.Subterm

/-! # What all expressions of a tree have in common

The parts of a lowered expression are what the parts of the syntax are lowered to. So a property
that is handed down from there, and that the lookups of patterns have as well, is one of every
expression of a module, at any depth.
-/

namespace SourceGate.Tree

variable {index : LineIndex}

theorem forall_mem_of_forall₂ {α β : Type} {P : β → Prop} {as : List α} {bs : List β}
    (h : List.Forall₂ (fun _ => P) as bs) : ∀ b ∈ bs, P b := by
  intro b hb
  obtain ⟨_, _, holds⟩ := exists_of_forall₂ h.flip hb
  exact holds

/-! ## Parts of an expression -/

section Parts

variable {r : Script.Expr → Expr → Prop}

theorem children_literal (mark : Mark) (value : Script.Constant) :
    (literal mark value).children = [] := by
  cases value with
  | integer value =>
    rw [literal]
    split <;> rfl
  | _ => rfl

theorem children_signed (mark : Mark) (op : Script.UnaryOp) (operand : Expr) :
    (signed mark op operand).children = [] ∨ (signed mark op operand).children = [operand] := by
  unfold signed
  split
  · exact .inl rfl
  · exact .inr rfl

/-- The parts answer to one another. A literal has none, and neither has one with its sign. -/
theorem gives_children {e : Script.Expr} (h : LowersTo index r e.children) :
    Gives (lowerExpr index e) fun e' =>
      e'.children = [] ∨ List.Forall₂ r e.children e'.children := by
  match e, h with
  | .name .., _ => exact ⟨fun _ => .inl rfl⟩
  | .constant start value, _ => exact ⟨fun _ => .inl (children_literal _ value)⟩
  | .unary start op operand, h =>
    rw [lowerExpr]
    apply (gives_fresh index start).bind
    intro mark _
    apply (List.forall_mem_singleton.1 h).bind
    intro operand' part
    apply gives_pure
    rcases children_signed mark op operand' with none | kept
    · exact .inl none
    · exact .inr (kept ▸ .cons part .nil)
  | .binary start left op right, h =>
    obtain ⟨hl, hr⟩ := List.forall_mem_cons.1 h
    rw [lowerExpr]
    apply (gives_fresh index start).bind
    intro mark _
    apply hl.bind
    intro left' leftPart
    apply (List.forall_mem_singleton.1 hr).bind
    intro right' rightPart
    apply gives_pure
    split <;> exact .inr (.cons leftPart (.cons rightPart .nil))
  | .attribute start value attr, h | .await start value, h | .yieldFrom start value, h
  | .starred start value, h =>
    exact ⟨fun _ => .inr (.cons ((List.forall_mem_singleton.1 h).outcome _) .nil)⟩
  | .subscript start first second, h | .named start first second, h =>
    obtain ⟨hfirst, hsecond⟩ := List.forall_mem_cons.1 h
    have hsecond := List.forall_mem_singleton.1 hsecond
    exact ⟨fun _ => .inr (.cons (hfirst.outcome _) (.cons (hsecond.outcome _) .nil))⟩
  | .call start func args keywords, h =>
    obtain ⟨hfunc, h⟩ := List.forall_mem_cons.1 h
    obtain ⟨hargs, hkeywords⟩ := List.forall_mem_append.1 h
    exact ⟨fun _ => .inr (.cons (hfunc.outcome _) (List.rel_append
      ((gives_lowerExprs hargs).outcome _) ((gives_lowerKeywords hkeywords).outcome _)))⟩
  | .list start items, h | .tuple start items, h | .set start items, h
  | .boolean start _ items, h | .joined start items, h =>
    exact ⟨fun _ => .inr ((gives_lowerExprs h).outcome _)⟩
  | .dict start entries, h => exact ⟨fun _ => .inr ((gives_lowerEntries h).outcome _)⟩
  | .conditional start test body orelse, h =>
    obtain ⟨htest, h⟩ := List.forall_mem_cons.1 h
    obtain ⟨hbody, h⟩ := List.forall_mem_cons.1 h
    have horelse := List.forall_mem_singleton.1 h
    exact ⟨fun _ => .inr (.cons (htest.outcome _) (.cons (hbody.outcome _)
      (.cons (horelse.outcome _) .nil)))⟩
  | .listComp start element clauses, h | .setComp start element clauses, h
  | .generator start element clauses, h =>
    obtain ⟨helement, hclauses⟩ := List.forall_mem_cons.1 h
    exact ⟨fun _ => .inr (.cons (helement.outcome _) ((gives_lowerClauses hclauses).outcome _))⟩
  | .dictComp start key value clauses, h =>
    obtain ⟨hkey, h⟩ := List.forall_mem_cons.1 h
    obtain ⟨hvalue, hclauses⟩ := List.forall_mem_cons.1 h
    exact ⟨fun _ => .inr (.cons (hkey.outcome _) (.cons (hvalue.outcome _)
      ((gives_lowerClauses hclauses).outcome _)))⟩
  | .lambda start params body, h =>
    obtain ⟨hparams, hbody⟩ := List.forall_mem_append.1 h
    have hbody := List.forall_mem_singleton.1 hbody
    exact ⟨fun _ => .inr (List.rel_append ((gives_lowerParameters hparams).outcome _)
      (.cons (hbody.outcome _) .nil))⟩
  | .compare start left ops rights, h =>
    obtain ⟨hleft, hrights⟩ := List.forall_mem_cons.1 h
    exact ⟨fun _ => .inr (.cons (hleft.outcome _) ((gives_lowerExprs hrights).outcome _))⟩
  | .yield start value, h => exact ⟨fun _ => .inr ((gives_lowerOption h).outcome _)⟩
  | .formatted start value conversion spec, h =>
    obtain ⟨hvalue, hspec⟩ := List.forall_mem_cons.1 h
    exact ⟨fun _ => .inr (.cons (hvalue.outcome _) ((gives_lowerOption hspec).outcome _))⟩
  | .slice start lower upper step, h =>
    obtain ⟨h, hstep⟩ := List.forall_mem_append.1 h
    obtain ⟨hlower, hupper⟩ := List.forall_mem_append.1 h
    exact ⟨fun _ => .inr (List.rel_append (List.rel_append ((gives_lowerOption hlower).outcome _)
      ((gives_lowerOption hupper).outcome _)) ((gives_lowerOption hstep).outcome _))⟩

end Parts

/-! ## At any depth -/

theorem Lowered.exists_of_mem_nested {s : Script.Stmt} {t n : Stmt} (h : Lowered index s t)
    (hn : n ∈ t.nested) : ∃ s, Lowered index s n := by
  induction s using Script.Stmt.byInner generalizing t with
  | step s ih =>
    rcases Stmt.mem_nested_iff.1 hn with rfl | ⟨t', ht', hn⟩
    · exact ⟨s, h⟩
    · obtain ⟨s', hs', h'⟩ := exists_of_forall₂ h.answers.inner.flip ht'
      exact ih s' hs' h' hn

/-- Every statement of a tree is what some statement is lowered to. -/
theorem exists_lowered_of_mem_allStmts {body : List Script.Stmt} {t : Stmt}
    (ht : t ∈ allStmts (ofModule index body)) : ∃ s, Lowered index s t := by
  obtain ⟨top, htop, inside⟩ := List.mem_flatMap.1 ht
  obtain ⟨s, _, lowered⟩ : ∃ s ∈ body, Lowered index s top :=
    exists_of_forall₂ (lowered_ofModule index body).flip htop
  exact lowered.exists_of_mem_nested inside

/-- A property of every lowered expression and of the lookups that a pattern makes. -/
structure Pervades (index : LineIndex) (Q : Expr → Prop) : Prop where
  lowered (e : Script.Expr) : Gives (lowerExpr index e) Q
  ofBase (mark : Mark) : Q (.other mark [])
  ofKey (mark base : Mark) (key : Expr) : Q (.subscript mark (.other base []) key)
  ofAttribute (mark base : Mark) (attr : String) : Q (.attribute mark (.other base []) attr)

/-- A property of an expression and of all its parts. -/
def Throughout (Q : Expr → Prop) (e : Expr) : Prop := ∀ n ∈ e.subterms, Q n

variable {Q : Expr → Prop}

theorem throughout_iff {e : Expr} : Throughout Q e ↔ Q e ∧ ∀ c ∈ e.children, Throughout Q c := by
  simp only [Throughout, Expr.subterms_eq e, List.forall_mem_cons, List.forall_mem_flatMap]

/-- A property of several expressions and of all their parts. -/
def ThroughoutAll (Q : Expr → Prop) (es : List Expr) : Prop := ∀ e ∈ es, Throughout Q e

theorem throughoutAll_nil : ThroughoutAll Q [] := List.forall_mem_nil _

theorem throughoutAll_cons_iff {e : Expr} {es : List Expr} :
    ThroughoutAll Q (e :: es) ↔ Throughout Q e ∧ ThroughoutAll Q es := List.forall_mem_cons

theorem throughoutAll_append_iff {es fs : List Expr} :
    ThroughoutAll Q (es ++ fs) ↔ ThroughoutAll Q es ∧ ThroughoutAll Q fs := List.forall_mem_append

theorem gives_mapM_throughout {α : Type} {f : α → Lower Expr}
    (h : ∀ a, Gives (f a) (Throughout Q)) (as : List α) :
    Gives (as.mapM f) (ThroughoutAll Q) :=
  ⟨fun next => forall_mem_of_forall₂ ((gives_mapM (r := fun _ => Throughout Q) h as).outcome next)⟩

namespace Pervades

section Expressions

variable (h : Pervades index Q)

include h

theorem expr (e : Script.Expr) : Gives (lowerExpr index e) (Throughout Q) := by
  induction e using Script.Expr.byChildren with
  | step e ih =>
    refine ⟨fun next => throughout_iff.2 ⟨(h.lowered e).outcome next, ?_⟩⟩
    rcases (gives_children (r := fun _ => Throughout Q) ih).outcome next with none | parts
    · rw [none]
      exact List.forall_mem_nil _
    · exact forall_mem_of_forall₂ parts

theorem lowersTo (es : List Script.Expr) : LowersTo index (fun _ => Throughout Q) es :=
  fun e _ => h.expr e

theorem exprs (es : List Script.Expr) : Gives (lowerExprs index es) (ThroughoutAll Q) :=
  ⟨fun next => forall_mem_of_forall₂ ((gives_lowerExprs (h.lowersTo es)).outcome next)⟩

theorem option (e : Option Script.Expr) : Gives (lowerOption index e) (ThroughoutAll Q) :=
  ⟨fun next => forall_mem_of_forall₂ ((gives_lowerOption (h.lowersTo _)).outcome next)⟩

theorem parameters (params : Script.Parameters Script.Expr) :
    Gives (lowerParameters index params) (ThroughoutAll Q) :=
  ⟨fun next => forall_mem_of_forall₂ ((gives_lowerParameters (h.lowersTo _)).outcome next)⟩

theorem keywordValues (keywords : List (Script.KeywordArgument Script.Expr)) :
    Gives (lowerKeywordValues index keywords) (ThroughoutAll Q) :=
  ⟨fun next => forall_mem_of_forall₂ ((gives_lowerKeywords (h.lowersTo _)).outcome next)⟩

theorem items (items : List Script.ContextItem) :
    Gives (lowerItems index items) (ThroughoutAll Q) := by
  induction items with
  | nil =>
    rw [lowerItems]
    exact gives_pure throughoutAll_nil
  | cons item rest ih =>
    obtain ⟨context, target⟩ := item
    rw [lowerItems]
    apply (h.expr context).bind
    intro context' hc
    apply (h.option target).bind
    intro target' ht
    apply ih.bind
    intro rest' hr
    exact gives_pure (throughoutAll_cons_iff.2 ⟨hc, throughoutAll_append_iff.2 ⟨ht, hr⟩⟩)

/-! ## Patterns -/

theorem throughout_base (mark : Mark) : Throughout Q (.other mark []) :=
  throughout_iff.2 ⟨h.ofBase mark, List.forall_mem_nil _⟩

theorem keyLookup (key : Script.Expr) : Gives (keyLookup index key) (Throughout Q) := by
  rw [Tree.keyLookup]
  apply (h.expr key).bind
  intro key' hk
  apply (gives_freshAt key'.place).bind
  intro base _
  apply (gives_freshAt key'.place).bind
  intro mark _
  apply gives_pure
  rw [throughout_iff]
  exact ⟨h.ofKey mark base key',
    List.forall_mem_cons.2 ⟨h.throughout_base base, List.forall_mem_singleton.2 hk⟩⟩

theorem attributeLookup (place : Location) (attr : String) :
    Gives (attributeLookup place attr) (Throughout Q) := by
  rw [Tree.attributeLookup]
  apply (gives_freshAt place).bind
  intro base _
  apply (gives_freshAt place).bind
  intro mark _
  apply gives_pure
  rw [throughout_iff]
  exact ⟨h.ofAttribute mark base attr, List.forall_mem_singleton.2 (h.throughout_base base)⟩

end Expressions

mutual

theorem pattern (h : Pervades index Q) (p : Script.Pattern) :
    Gives (lowerPattern index p) (ThroughoutAll Q) := by
  cases p with
  | value value =>
    rw [lowerPattern]
    apply (h.expr value).bind
    intro value' hv
    exact gives_pure (List.forall_mem_singleton.2 hv)
  | singleton value =>
    rw [lowerPattern]
    exact gives_pure throughoutAll_nil
  | star name =>
    rw [lowerPattern]
    exact gives_pure throughoutAll_nil
  | sequence items =>
    rw [lowerPattern]
    exact h.patterns items
  | either items =>
    rw [lowerPattern]
    exact h.patterns items
  | mapping keys items rest =>
    rw [lowerPattern]
    apply (gives_mapM_throughout h.keyLookup keys).bind
    intro lookups hl
    apply (h.patterns items).bind
    intro items' hi
    exact gives_pure (throughoutAll_append_iff.2 ⟨hl, hi⟩)
  | instanceOf cls items attrs attrItems =>
    rw [lowerPattern]
    apply (h.expr cls).bind
    intro cls' hc
    apply (gives_mapM_throughout (h.attributeLookup cls'.place) attrs).bind
    intro lookups hl
    apply (h.patterns items).bind
    intro items' hi
    apply (h.patterns attrItems).bind
    intro attrItems' ha
    have looked := throughoutAll_append_iff.2 ⟨throughoutAll_cons_iff.2 ⟨hc, hl⟩, hi⟩
    exact gives_pure (throughoutAll_append_iff.2 ⟨looked, ha⟩)
  | capture inner name =>
    cases inner with
    | none =>
      rw [lowerPattern]
      exact gives_pure throughoutAll_nil
    | some inner =>
      rw [lowerPattern]
      exact h.pattern inner

theorem patterns (h : Pervades index Q) (ps : List Script.Pattern) :
    Gives (lowerPatterns index ps) (ThroughoutAll Q) := by
  cases ps with
  | nil =>
    rw [lowerPatterns]
    exact gives_pure throughoutAll_nil
  | cons p rest =>
    rw [lowerPatterns]
    apply (h.pattern p).bind
    intro found hf
    apply (h.patterns rest).bind
    intro rest' hr
    exact gives_pure (throughoutAll_append_iff.2 ⟨hf, hr⟩)

end

/-! ## Statements -/

section Statements

variable (h : Pervades index Q)

include h

theorem matchCases (cases : List (Script.MatchCase Script.Stmt)) :
    Gives (lowerCases index cases) fun lowered => ThroughoutAll Q lowered.1 := by
  induction cases with
  | nil =>
    rw [lowerCases]
    exact gives_pure throughoutAll_nil
  | cons c rest ih =>
    obtain ⟨pattern, guard, body⟩ := c
    rw [lowerCases]
    apply (h.pattern pattern).bind
    intro found hf
    apply (h.option guard).bind
    intro guard' hg
    apply (gives_lowerStmts index body).bind
    intro body' _
    apply ih.bind
    rintro ⟨es, bodies⟩ hr
    have found := throughoutAll_append_iff.2 ⟨hf, hg⟩
    exact gives_pure (throughoutAll_append_iff.2 ⟨found, hr⟩)

theorem handlers (handlers : List (Script.Handler Script.Stmt)) :
    Gives (lowerHandlers index handlers) fun lowered => ThroughoutAll Q lowered.1 := by
  induction handlers with
  | nil =>
    rw [lowerHandlers]
    exact gives_pure throughoutAll_nil
  | cons handler rest ih =>
    obtain ⟨cause, name, body⟩ := handler
    rw [lowerHandlers]
    apply (h.option cause).bind
    intro cause' hc
    apply (gives_lowerStmts index body).bind
    intro body' _
    apply ih.bind
    rintro ⟨es, bodies⟩ hr
    exact gives_pure (throughoutAll_append_iff.2 ⟨hc, hr⟩)

theorem stmt (s : Script.Stmt) : Gives (lowerStmt index s) fun t => ThroughoutAll Q t.exprs := by
  match s with
  | .function start isAsync name typeParams params body decorators returns =>
    exact ⟨fun _ => throughoutAll_append_iff.2 ⟨throughoutAll_append_iff.2
      ⟨(h.exprs decorators).outcome _, (h.parameters params).outcome _⟩,
      (h.option returns).outcome _⟩⟩
  | .classDef start name typeParams bases keywords body decorators =>
    exact ⟨fun _ => throughoutAll_append_iff.2 ⟨throughoutAll_append_iff.2
      ⟨(h.exprs decorators).outcome _, (h.exprs bases).outcome _⟩,
      (h.keywordValues keywords).outcome _⟩⟩
  | .assign start targets value =>
    exact ⟨fun _ => throughoutAll_append_iff.2 ⟨(h.exprs targets).outcome _,
      List.forall_mem_singleton.2 ((h.expr value).outcome _)⟩⟩
  | .augAssign start target op value =>
    exact ⟨fun _ => throughoutAll_cons_iff.2 ⟨(h.expr target).outcome _,
      List.forall_mem_singleton.2 ((h.expr value).outcome _)⟩⟩
  | .annAssign start target annotation none =>
    exact ⟨fun _ => throughoutAll_cons_iff.2 ⟨(h.expr target).outcome _,
      List.forall_mem_singleton.2 ((h.expr annotation).outcome _)⟩⟩
  | .annAssign start target annotation (some value) =>
    exact ⟨fun _ => throughoutAll_cons_iff.2 ⟨(h.expr target).outcome _,
      throughoutAll_cons_iff.2 ⟨(h.expr annotation).outcome _,
        List.forall_mem_singleton.2 ((h.expr value).outcome _)⟩⟩⟩
  | .for start isAsync target iter body orelse =>
    exact ⟨fun _ => throughoutAll_cons_iff.2 ⟨(h.expr target).outcome _,
      List.forall_mem_singleton.2 ((h.expr iter).outcome _)⟩⟩
  | .while start test body orelse | .if start test body orelse =>
    exact ⟨fun _ => List.forall_mem_singleton.2 ((h.expr test).outcome _)⟩
  | .with start isAsync items body => exact ⟨fun _ => (h.items items).outcome _⟩
  | .match start subject cases =>
    exact ⟨fun _ => throughoutAll_cons_iff.2 ⟨(h.expr subject).outcome _,
      (h.matchCases cases).outcome _⟩⟩
  | .try start isStar body handlers orelse final =>
    exact ⟨fun _ => (h.handlers handlers).outcome _⟩
  | .return start value => exact ⟨fun _ => (h.option value).outcome _⟩
  | .delete start targets => exact ⟨fun _ => (h.exprs targets).outcome _⟩
  | .raise start exception cause =>
    exact ⟨fun _ => throughoutAll_append_iff.2 ⟨(h.option exception).outcome _,
      (h.option cause).outcome _⟩⟩
  | .assert start test message =>
    exact ⟨fun _ => throughoutAll_cons_iff.2 ⟨(h.expr test).outcome _,
      (h.option message).outcome _⟩⟩
  | .expr start value => exact ⟨fun _ => List.forall_mem_singleton.2 ((h.expr value).outcome _)⟩
  | .importModules .. | .importNames .. | .global .. | .nonlocal .. | .pass .. | .break ..
  | .continue .. | .typeAlias .. => exact ⟨fun _ => throughoutAll_nil⟩

/-- All expressions of a module have the property. -/
theorem allExprs (body : List Script.Stmt) : ∀ e ∈ allExprs (ofModule index body), Q e := by
  intro n hn
  obtain ⟨t, ht, inside⟩ := List.mem_flatMap.1 hn
  obtain ⟨e, he, part⟩ := List.mem_flatMap.1 inside
  obtain ⟨s, next, rfl⟩ := exists_lowered_of_mem_allStmts ht
  exact (h.stmt s).outcome next e he n part

end Statements

end Pervades

end SourceGate.Tree
