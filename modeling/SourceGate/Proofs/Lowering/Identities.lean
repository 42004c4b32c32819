import Mathlib.Data.List.Perm.Subperm
import SourceGate.Proofs.Lowering.Image
import SourceGate.Proofs.Tree.Subterm

/-! # Identities are handed out once

Whatever has been handed out, a lowering hands out from there on, and what it gives keeps each of
these identities at most once. A folded sign drops one; nothing takes one a second time. Since what
two steps hand out lies one after the other, the identities that either keeps are apart.
-/

namespace SourceGate.Tree

variable {α β : Type}

/-! ## Handing out -/

/-- Different identities between two readings of the counter. -/
structure HandedOut (first next : Nat) (ids : List Nat) : Prop where
  le : first ≤ next
  nodup : ids.Nodup
  between : ∀ id ∈ ids, first ≤ id ∧ id < next

namespace HandedOut

variable {first middle next : Nat} {ids ids' : List Nat}

theorem nothing (next : Nat) : HandedOut next next [] where
  le := Nat.le_refl _
  nodup := .nil
  between := by simp

theorem one (next : Nat) : HandedOut next (next + 1) [next] where
  le := Nat.le_succ _
  nodup := List.nodup_singleton _
  between := by simp

theorem append (h : HandedOut first middle ids) (h' : HandedOut middle next ids') :
    HandedOut first next (ids ++ ids') where
  le := Nat.le_trans h.le h'.le
  nodup := by
    refine List.Nodup.append h.nodup h'.nodup fun id early late => ?_
    exact absurd (h.between id early).2 (Nat.not_lt.2 (h'.between id late).1)
  between id hid := by
    rcases List.mem_append.1 hid with early | late
    · obtain ⟨low, high⟩ := h.between id early
      exact ⟨low, Nat.lt_of_lt_of_le high h'.le⟩
    · obtain ⟨low, high⟩ := h'.between id late
      exact ⟨Nat.le_trans h.le low, high⟩

theorem of_subperm (h : HandedOut first next ids) (kept : ids'.Subperm ids) :
    HandedOut first next ids' where
  le := h.le
  nodup := by
    obtain ⟨sub, perm, sublist⟩ := kept
    exact perm.nodup_iff.1 (h.nodup.sublist sublist)
  between id hid := h.between id (kept.subset hid)

end HandedOut

/-- Where `held` are the identities that are kept so far, those of the outcome are as good. -/
structure Issues (held : List Nat) (x : Lower α) (own : α → List Nat) : Prop where
  outcome {first next : Nat} (h : HandedOut first next held) :
    HandedOut first (x next).2 (own (x next).1)

variable {held : List Nat} {own : α → List Nat} {own' : β → List Nat}

/-- What is held may be given in another order, or in part. -/
theorem issues_of_subperm {a : α} (kept : (own a).Subperm held) : Issues held (pure a) own :=
  ⟨fun h => h.of_subperm kept⟩

theorem issues_of_perm {a : α} (perm : (own a).Perm held) : Issues held (pure a) own :=
  issues_of_subperm perm.subperm

theorem issues_pure {a : α} (same : own a = held) : Issues held (pure a) own :=
  issues_of_perm (.of_eq same)

/-- A step is looked at by itself, and its identities are held by what comes after it. -/
theorem Issues.bind {x : Lower α} {f : α → Lower β} (hx : Issues [] x own)
    (hf : ∀ a, Issues (held ++ own a) (f a) own') : Issues held (x >>= f) own' :=
  ⟨fun h => (hf _).outcome (h.append (hx.outcome (.nothing _)))⟩

theorem issues_freshAt (place : Location) : Issues [] (freshAt place) fun mark => [mark.id] :=
  ⟨fun h => h.append (.one _)⟩

theorem issues_fresh (index : LineIndex) (start : Nat) :
    Issues [] (fresh index start) fun mark => [mark.id] := issues_freshAt _

theorem issues_mapM {f : α → Lower β} (h : ∀ a, Issues [] (f a) own') (as : List α) :
    Issues [] (as.mapM f) (List.flatMap own') := by
  induction as with
  | nil => exact issues_pure rfl
  | cons a rest ih =>
    rw [List.mapM_cons]
    apply (h a).bind
    intro b
    apply ih.bind
    intro bs
    exact issues_pure (by simp)

/-! ## Groups of expressions -/

/-- The identities of an expression and of all its parts. -/
def Expr.ids (e : Expr) : List Nat := e.subterms.map Expr.id

theorem Expr.ids_eq (e : Expr) : e.ids = e.id :: e.children.flatMap Expr.ids := by
  rw [Expr.ids, Expr.subterms_eq, List.map_cons, List.map_flatMap]
  rfl

variable {index : LineIndex}

/-- Each of these expressions is lowered to one whose identities are handed out for it. -/
def Numbers (index : LineIndex) (es : List Script.Expr) : Prop :=
  ∀ e ∈ es, Issues [] (lowerExpr index e) Expr.ids

theorem Numbers.cons_iff {e : Script.Expr} {es : List Script.Expr} :
    Numbers index (e :: es) ↔ Issues [] (lowerExpr index e) Expr.ids ∧ Numbers index es :=
  List.forall_mem_cons

theorem Numbers.append_iff {es fs : List Script.Expr} :
    Numbers index (es ++ fs) ↔ Numbers index es ∧ Numbers index fs := List.forall_mem_append

theorem Numbers.single_iff {e : Script.Expr} :
    Numbers index [e] ↔ Issues [] (lowerExpr index e) Expr.ids := List.forall_mem_singleton

theorem issues_lowerExprs {es : List Script.Expr} (h : Numbers index es) :
    Issues [] (lowerExprs index es) (List.flatMap Expr.ids) := by
  induction es with
  | nil =>
    rw [lowerExprs]
    exact issues_pure rfl
  | cons e rest ih =>
    obtain ⟨he, hr⟩ := Numbers.cons_iff.1 h
    rw [lowerExprs]
    apply he.bind
    intro e'
    apply (ih hr).bind
    intro rest'
    exact issues_pure (by simp)

theorem issues_lowerOption {e : Option Script.Expr} (h : Numbers index e.toList) :
    Issues [] (lowerOption index e) (List.flatMap Expr.ids) := by
  cases e with
  | none =>
    rw [lowerOption]
    exact issues_pure rfl
  | some e =>
    rw [lowerOption]
    apply (Numbers.single_iff.1 h).bind
    intro e'
    exact issues_pure (by simp)

theorem issues_lowerKeywords {keywords : List (Script.KeywordArgument Script.Expr)}
    (h : Numbers index (keywords.map (·.value))) :
    Issues [] (lowerKeywords index keywords) fun lowered =>
      (lowered.map (·.value)).flatMap Expr.ids := by
  induction keywords with
  | nil =>
    rw [lowerKeywords]
    exact issues_pure rfl
  | cons keyword rest ih =>
    obtain ⟨hk, hr⟩ := Numbers.cons_iff.1 h
    rw [lowerKeywords]
    apply hk.bind
    intro value
    apply (ih hr).bind
    intro rest'
    exact issues_pure (by simp)

theorem issues_lowerEntries {entries : List (Option Script.Expr × Script.Expr)}
    (h : Numbers index (entries.flatMap fun (key, value) => key.toList ++ [value])) :
    Issues [] (lowerEntries index entries) fun lowered =>
      (lowered.flatMap fun (key, value) => key.toList ++ [value]).flatMap Expr.ids := by
  induction entries with
  | nil =>
    rw [lowerEntries]
    exact issues_pure rfl
  | cons entry rest ih =>
    obtain ⟨key, value⟩ := entry
    rw [List.flatMap_cons] at h
    obtain ⟨he, hr⟩ := Numbers.append_iff.1 h
    cases key with
    | none =>
      rw [lowerEntries]
      apply (Numbers.single_iff.1 he).bind
      intro value'
      apply (ih hr).bind
      intro rest'
      exact issues_pure (by simp)
    | some key =>
      obtain ⟨hk, hv⟩ := Numbers.cons_iff.1 he
      rw [lowerEntries]
      apply hk.bind
      intro key'
      apply (Numbers.single_iff.1 hv).bind
      intro value'
      apply (ih hr).bind
      intro rest'
      exact issues_pure (by simp)

theorem issues_lowerClauses {clauses : List (Script.Clause Script.Expr)}
    (h : Numbers index (clauses.flatMap Script.Clause.exprs)) :
    Issues [] (lowerClauses index clauses) fun lowered =>
      (lowered.flatMap fun c => c.target :: c.iter :: c.conditions).flatMap Expr.ids := by
  induction clauses with
  | nil =>
    rw [lowerClauses]
    exact issues_pure rfl
  | cons clause rest ih =>
    obtain ⟨isAsync, target, iter, conditions⟩ := clause
    rw [List.flatMap_cons] at h
    obtain ⟨hc, hr⟩ := Numbers.append_iff.1 h
    obtain ⟨ht, hc⟩ := Numbers.cons_iff.1 hc
    obtain ⟨hi, hc⟩ := Numbers.cons_iff.1 hc
    rw [lowerClauses]
    apply ht.bind
    intro target'
    apply hi.bind
    intro iter'
    apply (issues_lowerExprs hc).bind
    intro conditions'
    apply (ih hr).bind
    intro rest'
    exact issues_pure (by simp)

theorem issues_lowerParameterList {params : List (Script.Parameter Script.Expr)}
    (h : Numbers index (params.flatMap Script.Parameter.exprs)) :
    Issues [] (lowerParameterList index params) (List.flatMap Expr.ids) := by
  induction params with
  | nil =>
    rw [lowerParameterList]
    exact issues_pure rfl
  | cons param rest ih =>
    obtain ⟨start, name, annotation, value⟩ := param
    rw [List.flatMap_cons] at h
    obtain ⟨hp, hr⟩ := Numbers.append_iff.1 h
    obtain ⟨ha, hv⟩ := Numbers.append_iff.1 hp
    rw [lowerParameterList]
    apply (issues_lowerOption ha).bind
    intro annotation'
    apply (issues_lowerOption hv).bind
    intro value'
    apply (ih hr).bind
    intro rest'
    exact issues_pure (by simp)

theorem issues_lowerStarParameter {param : Option (Script.StarParameter Script.Expr)}
    (h : Numbers index (param.toList.flatMap Script.StarParameter.exprs)) :
    Issues [] (lowerStarParameter index param) (List.flatMap Expr.ids) := by
  cases param with
  | none =>
    rw [lowerStarParameter]
    exact issues_pure rfl
  | some param =>
    rw [Option.toList_some, List.flatMap_singleton] at h
    rw [lowerStarParameter]
    exact issues_lowerOption h

theorem issues_lowerParameters {params : Script.Parameters Script.Expr}
    (h : Numbers index params.exprs) :
    Issues [] (lowerParameters index params) (List.flatMap Expr.ids) := by
  obtain ⟨positional, plain, rest, keywordOnly, extra⟩ := params
  simp only [Script.Parameters.exprs, List.flatMap_append, Numbers.append_iff] at h
  obtain ⟨⟨⟨hpos, hplain⟩, honly⟩, hrest, hextra⟩ := h
  rw [lowerParameters]
  apply (issues_lowerParameterList hpos).bind
  intro positional'
  apply (issues_lowerParameterList hplain).bind
  intro plain'
  apply (issues_lowerParameterList honly).bind
  intro keywordOnly'
  apply (issues_lowerStarParameter hrest).bind
  intro rest'
  apply (issues_lowerStarParameter hextra).bind
  intro extra'
  exact issues_pure (by simp)

/-! ## One lemma for each kind of form -/

/-- An expression that is made last has its own identity and those of its parts. -/
theorem issues_expr {e : Expr} (parts : e.id :: e.children.flatMap Expr.ids = held) :
    Issues held (pure e) Expr.ids :=
  issues_pure (e.ids_eq.trans parts)

-- The equations are made here once, as for the images; the others show the parts of what is made.
attribute [local simp] lowerExpr Expr.id Expr.mark Expr.children

theorem issues_literal (mark : Mark) (value : Script.Constant) :
    Issues [mark.id] (pure (literal mark value)) Expr.ids := by
  cases value with
  | integer value =>
    rw [literal]
    split
    · exact issues_expr rfl
    · exact issues_expr rfl
  | _ => exact issues_expr rfl

/-- A sign that folds into an integer takes its place, and the identity of it is dropped. -/
theorem issues_signed (mark : Mark) (op : Script.UnaryOp) (operand : Expr) :
    Issues (mark.id :: operand.ids) (pure (signed mark op operand)) Expr.ids := by
  unfold signed
  split
  · apply issues_of_subperm
    rw [Expr.ids_eq]
    exact ((List.nil_sublist _).cons_cons mark.id).subperm
  · exact issues_expr (by simp)

theorem issues_sum (mark : Mark) (op : Script.BinaryOp) (left right : Expr) :
    Issues (mark.id :: (left.ids ++ right.ids))
      (pure (if op = .add then .concat mark left right else .other mark [left, right]))
      Expr.ids := by
  split
  · exact issues_expr (by simp)
  · exact issues_expr (by simp)

/-- If its parts get identities of their own, so does the expression. -/
def Passes (index : LineIndex) (e : Script.Expr) : Prop :=
  Numbers index e.children → Issues [] (lowerExpr index e) Expr.ids

theorem passes_subscript (start : Nat) (value slice : Script.Expr) :
    Passes index (.subscript start value slice) := by
  intro h
  obtain ⟨hv, hs⟩ := Numbers.cons_iff.1 h
  rw [lowerExpr]
  apply (issues_fresh index start).bind
  intro mark
  apply hv.bind
  intro value'
  apply (Numbers.single_iff.1 hs).bind
  intro slice'
  exact issues_expr (by simp)

theorem passes_call (start : Nat) (func : Script.Expr) (args : List Script.Expr)
    (keywords : List (Script.KeywordArgument Script.Expr)) :
    Passes index (.call start func args keywords) := by
  intro h
  obtain ⟨hf, h⟩ := Numbers.cons_iff.1 h
  obtain ⟨ha, hk⟩ := Numbers.append_iff.1 h
  rw [lowerExpr]
  apply (issues_fresh index start).bind
  intro mark
  apply hf.bind
  intro func'
  apply (issues_lowerExprs ha).bind
  intro args'
  apply (issues_lowerKeywords hk).bind
  intro keywords'
  exact issues_expr (by simp)

theorem passes_binary (start : Nat) (left : Script.Expr) (op : Script.BinaryOp)
    (right : Script.Expr) : Passes index (.binary start left op right) := by
  intro h
  obtain ⟨hl, hr⟩ := Numbers.cons_iff.1 h
  rw [lowerExpr]
  apply (issues_fresh index start).bind
  intro mark
  apply hl.bind
  intro left'
  apply (Numbers.single_iff.1 hr).bind
  intro right'
  exact issues_sum mark op left' right'

theorem passes_conditional (start : Nat) (test body orelse : Script.Expr) :
    Passes index (.conditional start test body orelse) := by
  intro h
  obtain ⟨ht, h⟩ := Numbers.cons_iff.1 h
  obtain ⟨hb, ho⟩ := Numbers.cons_iff.1 h
  rw [lowerExpr]
  apply (issues_fresh index start).bind
  intro mark
  apply ht.bind
  intro test'
  apply hb.bind
  intro body'
  apply (Numbers.single_iff.1 ho).bind
  intro orelse'
  exact issues_expr (by simp)

theorem passes_named (start : Nat) (target value : Script.Expr) :
    Passes index (.named start target value) := by
  intro h
  obtain ⟨ht, hv⟩ := Numbers.cons_iff.1 h
  rw [lowerExpr]
  apply (issues_fresh index start).bind
  intro mark
  apply ht.bind
  intro target'
  apply (Numbers.single_iff.1 hv).bind
  intro value'
  exact issues_expr (by simp)

theorem passes_dictComp (start : Nat) (key value : Script.Expr)
    (clauses : List (Script.Clause Script.Expr)) :
    Passes index (.dictComp start key value clauses) := by
  intro h
  obtain ⟨hk, h⟩ := Numbers.cons_iff.1 h
  obtain ⟨hv, hc⟩ := Numbers.cons_iff.1 h
  rw [lowerExpr]
  apply (issues_fresh index start).bind
  intro mark
  apply hk.bind
  intro key'
  apply hv.bind
  intro value'
  apply (issues_lowerClauses hc).bind
  intro clauses'
  exact issues_expr (by simp)

theorem passes_lambda (start : Nat) (params : Script.Parameters Script.Expr) (body : Script.Expr) :
    Passes index (.lambda start params body) := by
  intro h
  obtain ⟨hp, hb⟩ := Numbers.append_iff.1 h
  rw [lowerExpr]
  apply (issues_fresh index start).bind
  intro mark
  apply (issues_lowerParameters hp).bind
  intro header
  apply (Numbers.single_iff.1 hb).bind
  intro body'
  exact issues_expr (by simp)

theorem passes_compare (start : Nat) (left : Script.Expr) (ops : List Script.Comparison)
    (rights : List Script.Expr) : Passes index (.compare start left ops rights) := by
  intro h
  obtain ⟨hl, hr⟩ := Numbers.cons_iff.1 h
  rw [lowerExpr]
  apply (issues_fresh index start).bind
  intro mark
  apply hl.bind
  intro left'
  apply (issues_lowerExprs hr).bind
  intro rights'
  exact issues_expr (by simp)

theorem passes_formatted (start : Nat) (value : Script.Expr)
    (conversion : Option Script.Conversion) (spec : Option Script.Expr) :
    Passes index (.formatted start value conversion spec) := by
  intro h
  obtain ⟨hv, hs⟩ := Numbers.cons_iff.1 h
  rw [lowerExpr]
  apply (issues_fresh index start).bind
  intro mark
  apply hv.bind
  intro value'
  apply (issues_lowerOption hs).bind
  intro spec'
  exact issues_expr (by simp)

theorem passes_slice (start : Nat) (lower upper step : Option Script.Expr) :
    Passes index (.slice start lower upper step) := by
  intro h
  obtain ⟨h, hs⟩ := Numbers.append_iff.1 h
  obtain ⟨hl, hu⟩ := Numbers.append_iff.1 h
  rw [lowerExpr]
  apply (issues_fresh index start).bind
  intro mark
  apply (issues_lowerOption hl).bind
  intro lower'
  apply (issues_lowerOption hu).bind
  intro upper'
  apply (issues_lowerOption hs).bind
  intro step'
  exact issues_expr (by simp)

/-! ## Every form -/

theorem issues_lowerExpr (index : LineIndex) (e : Script.Expr) :
    Issues [] (lowerExpr index e) Expr.ids := by
  induction e using Script.Expr.byChildren with
  | step e ih =>
    match e, ih with
    | .name start text, _ =>
      rw [lowerExpr]
      apply (issues_fresh index start).bind
      intro mark
      exact issues_expr rfl
    | .attribute start value attr, ih =>
      rw [lowerExpr]
      apply (issues_fresh index start).bind
      intro mark
      apply (Numbers.single_iff.1 ih).bind
      intro value'
      exact issues_expr (by simp)
    | .subscript start value slice, ih => exact passes_subscript start value slice ih
    | .call start func args keywords, ih => exact passes_call start func args keywords ih
    | .list start items, ih | .tuple start items, ih | .set start items, ih
    | .boolean start _ items, ih | .joined start items, ih =>
      rw [lowerExpr]
      apply (issues_fresh index start).bind
      intro mark
      apply (issues_lowerExprs ih).bind
      intro items'
      exact issues_expr (by simp)
    | .dict start entries, ih =>
      rw [lowerExpr]
      apply (issues_fresh index start).bind
      intro mark
      apply (issues_lowerEntries ih).bind
      intro entries'
      exact issues_expr (by simp)
    | .constant start value, _ =>
      rw [lowerExpr]
      apply (issues_fresh index start).bind
      intro mark
      exact issues_literal mark value
    | .unary start op operand, ih =>
      rw [lowerExpr]
      apply (issues_fresh index start).bind
      intro mark
      apply (Numbers.single_iff.1 ih).bind
      intro operand'
      exact issues_signed mark op operand'
    | .binary start left op right, ih => exact passes_binary start left op right ih
    | .conditional start test body orelse, ih => exact passes_conditional start test body orelse ih
    | .named start target value, ih => exact passes_named start target value ih
    | .listComp start element clauses, ih | .setComp start element clauses, ih
    | .generator start element clauses, ih =>
      obtain ⟨he, hc⟩ := Numbers.cons_iff.1 ih
      rw [lowerExpr]
      apply (issues_fresh index start).bind
      intro mark
      apply he.bind
      intro element'
      apply (issues_lowerClauses hc).bind
      intro clauses'
      exact issues_expr (by simp)
    | .dictComp start key value clauses, ih => exact passes_dictComp start key value clauses ih
    | .lambda start params body, ih => exact passes_lambda start params body ih
    | .compare start left ops rights, ih => exact passes_compare start left ops rights ih
    | .await start value, ih | .yieldFrom start value, ih | .starred start value, ih =>
      rw [lowerExpr]
      apply (issues_fresh index start).bind
      intro mark
      apply (Numbers.single_iff.1 ih).bind
      intro value'
      exact issues_expr (by simp)
    | .yield start value, ih =>
      rw [lowerExpr]
      apply (issues_fresh index start).bind
      intro mark
      apply (issues_lowerOption ih).bind
      intro value'
      exact issues_expr (by simp)
    | .formatted start value conversion spec, ih =>
      exact passes_formatted start value conversion spec ih
    | .slice start lower upper step, ih => exact passes_slice start lower upper step ih

/-- The identities of expressions are always handed out for them. -/
theorem numbers (index : LineIndex) (es : List Script.Expr) : Numbers index es :=
  fun e _ => issues_lowerExpr index e

end SourceGate.Tree
