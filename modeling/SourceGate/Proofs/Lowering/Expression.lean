import SourceGate.Proofs.Lowering.Image

/-! # Every expression is lowered to an image

Along the parts of the syntax: if each of its parts is lowered to an image, so is an expression. A
minus in front of an integer is the one form whose operand disappears, and an integer mentions
nothing.
-/

namespace SourceGate.Tree

variable {index : LineIndex}

/-- Each of these expressions is lowered to one that answers to it. -/
def LowersTo (index : LineIndex) (r : Script.Expr → Expr → Prop) (es : List Script.Expr) : Prop :=
  ∀ e ∈ es, Gives (lowerExpr index e) (r e)

/-- Each of these expressions is lowered to an image. -/
def Lowers (index : LineIndex) (es : List Script.Expr) : Prop :=
  ∀ e ∈ es, Gives (lowerExpr index e) (Image index e)

theorem Lowers.cons_iff {e : Script.Expr} {es : List Script.Expr} :
    Lowers index (e :: es) ↔ Gives (lowerExpr index e) (Image index e) ∧ Lowers index es :=
  List.forall_mem_cons

theorem Lowers.append_iff {es fs : List Script.Expr} :
    Lowers index (es ++ fs) ↔ Lowers index es ∧ Lowers index fs := List.forall_mem_append

theorem Lowers.single_iff {e : Script.Expr} :
    Lowers index [e] ↔ Gives (lowerExpr index e) (Image index e) := List.forall_mem_singleton

/-! ## Groups of expressions

Whatever the expressions have in common with what each is lowered to, the groups have so too.
-/

section Groups

variable {r : Script.Expr → Expr → Prop}

theorem gives_lowerExprs {es : List Script.Expr} (h : LowersTo index r es) :
    Gives (lowerExprs index es) (List.Forall₂ r es) := by
  induction es with
  | nil =>
    rw [lowerExprs]
    exact gives_pure .nil
  | cons e rest ih =>
    obtain ⟨he, hr⟩ := List.forall_mem_cons.1 h
    rw [lowerExprs]
    apply he.bind
    intro e' image
    apply (ih hr).bind
    intro rest' images
    exact gives_pure (.cons image images)

theorem gives_lowerOption {e : Option Script.Expr} (h : LowersTo index r e.toList) :
    Gives (lowerOption index e) (List.Forall₂ r e.toList) := by
  cases e with
  | none =>
    rw [lowerOption]
    exact gives_pure .nil
  | some e =>
    rw [lowerOption]
    apply (List.forall_mem_singleton.1 h).bind
    intro e' image
    exact gives_pure (.cons image .nil)

theorem gives_lowerKeywords {keywords : List (Script.KeywordArgument Script.Expr)}
    (h : LowersTo index r (keywords.map (·.value))) :
    Gives (lowerKeywords index keywords) fun lowered =>
      List.Forall₂ r (keywords.map (·.value)) (lowered.map (·.value)) := by
  induction keywords with
  | nil =>
    rw [lowerKeywords]
    exact gives_pure .nil
  | cons keyword rest ih =>
    obtain ⟨hk, hr⟩ := List.forall_mem_cons.1 h
    rw [lowerKeywords]
    apply hk.bind
    intro value image
    apply (ih hr).bind
    intro rest' images
    exact gives_pure (.cons image images)

theorem gives_lowerEntries {entries : List (Option Script.Expr × Script.Expr)}
    (h : LowersTo index r (entries.flatMap fun (key, value) => key.toList ++ [value])) :
    Gives (lowerEntries index entries) fun lowered =>
      List.Forall₂ r (entries.flatMap fun (key, value) => key.toList ++ [value])
        (lowered.flatMap fun (key, value) => key.toList ++ [value]) := by
  induction entries with
  | nil =>
    rw [lowerEntries]
    exact gives_pure .nil
  | cons entry rest ih =>
    obtain ⟨key, value⟩ := entry
    rw [List.flatMap_cons] at h
    obtain ⟨he, hr⟩ := List.forall_mem_append.1 h
    cases key with
    | none =>
      rw [lowerEntries]
      apply (List.forall_mem_singleton.1 he).bind
      intro value' image
      apply (ih hr).bind
      intro rest' images
      exact gives_pure (.cons image images)
    | some key =>
      obtain ⟨hk, hv⟩ := List.forall_mem_cons.1 he
      rw [lowerEntries]
      apply hk.bind
      intro key' keyImage
      apply (List.forall_mem_singleton.1 hv).bind
      intro value' valueImage
      apply (ih hr).bind
      intro rest' images
      exact gives_pure (.cons keyImage (.cons valueImage images))

theorem gives_lowerClauses {clauses : List (Script.Clause Script.Expr)}
    (h : LowersTo index r (clauses.flatMap Script.Clause.exprs)) :
    Gives (lowerClauses index clauses) fun lowered =>
      List.Forall₂ r (clauses.flatMap Script.Clause.exprs)
        (lowered.flatMap fun c => c.target :: c.iter :: c.conditions) := by
  induction clauses with
  | nil =>
    rw [lowerClauses]
    exact gives_pure .nil
  | cons clause rest ih =>
    obtain ⟨isAsync, target, iter, conditions⟩ := clause
    rw [List.flatMap_cons] at h
    obtain ⟨hc, hr⟩ := List.forall_mem_append.1 h
    obtain ⟨ht, hc⟩ := List.forall_mem_cons.1 hc
    obtain ⟨hi, hc⟩ := List.forall_mem_cons.1 hc
    rw [lowerClauses]
    apply ht.bind
    intro target' targetImage
    apply hi.bind
    intro iter' iterImage
    apply (gives_lowerExprs hc).bind
    intro conditions' conditionImages
    apply (ih hr).bind
    intro rest' images
    exact gives_pure (.cons targetImage (.cons iterImage (List.rel_append conditionImages images)))

theorem gives_lowerParameterList {params : List (Script.Parameter Script.Expr)}
    (h : LowersTo index r (params.flatMap Script.Parameter.exprs)) :
    Gives (lowerParameterList index params)
      (List.Forall₂ r (params.flatMap Script.Parameter.exprs)) := by
  induction params with
  | nil =>
    rw [lowerParameterList]
    exact gives_pure .nil
  | cons param rest ih =>
    obtain ⟨start, name, annotation, value⟩ := param
    rw [List.flatMap_cons] at h
    obtain ⟨hp, hr⟩ := List.forall_mem_append.1 h
    obtain ⟨ha, hv⟩ := List.forall_mem_append.1 hp
    rw [lowerParameterList]
    apply (gives_lowerOption ha).bind
    intro annotation' annotationImages
    apply (gives_lowerOption hv).bind
    intro value' valueImages
    apply (ih hr).bind
    intro rest' images
    exact gives_pure (List.rel_append (List.rel_append annotationImages valueImages) images)

theorem gives_lowerStarParameter {param : Option (Script.StarParameter Script.Expr)}
    (h : LowersTo index r (param.toList.flatMap Script.StarParameter.exprs)) :
    Gives (lowerStarParameter index param)
      (List.Forall₂ r (param.toList.flatMap Script.StarParameter.exprs)) := by
  cases param with
  | none =>
    rw [lowerStarParameter]
    exact gives_pure .nil
  | some param =>
    rw [Option.toList_some, List.flatMap_singleton] at h ⊢
    rw [lowerStarParameter]
    exact gives_lowerOption h

/-- The header of a parameter list holds its annotations and defaults, starred parameters last. -/
theorem gives_lowerParameters {params : Script.Parameters Script.Expr}
    (h : LowersTo index r params.exprs) :
    Gives (lowerParameters index params) (List.Forall₂ r params.exprs) := by
  obtain ⟨positional, plain, rest, keywordOnly, extra⟩ := params
  simp only [LowersTo, Script.Parameters.exprs, List.flatMap_append, List.forall_mem_append] at h
  obtain ⟨⟨⟨hpos, hplain⟩, honly⟩, hrest, hextra⟩ := h
  rw [lowerParameters]
  apply (gives_lowerParameterList hpos).bind
  intro positional' positionalImages
  apply (gives_lowerParameterList hplain).bind
  intro plain' plainImages
  apply (gives_lowerParameterList honly).bind
  intro keywordOnly' onlyImages
  apply (gives_lowerStarParameter hrest).bind
  intro rest' restImages
  apply (gives_lowerStarParameter hextra).bind
  intro extra' extraImages
  have images := List.rel_append (List.rel_append positionalImages plainImages) onlyImages
  simp only [Script.Parameters.exprs, List.flatMap_append]
  rw [List.append_assoc _ rest' extra']
  exact gives_pure (List.rel_append images (List.rel_append restImages extraImages))

end Groups

theorem Lowers.exprs {es : List Script.Expr} (h : Lowers index es) :
    Gives (lowerExprs index es) (Images index es) := gives_lowerExprs h

theorem Lowers.option {e : Option Script.Expr} (h : Lowers index e.toList) :
    Gives (lowerOption index e) (Images index e.toList) := gives_lowerOption h

theorem Lowers.parameters {params : Script.Parameters Script.Expr}
    (h : Lowers index params.exprs) :
    Gives (lowerParameters index params) (Images index params.exprs) := gives_lowerParameters h

/-! ## Forms with a lowering of their own -/

theorem image_literal {mark : Mark} {start : Nat} (hm : mark.place = index.locate start)
    (value : Script.Constant) : Image index (.constant start value) (literal mark value) := by
  cases value with
  | integer value =>
    rw [literal]
    split
    · exact .ofChildren hm rfl .nil rfl
    · exact .ofChildren hm rfl .nil rfl
  | _ => exact .ofChildren hm rfl .nil rfl

/-- A sign may swallow its operand, but only one that is an integer. -/
theorem Image.signed {mark : Mark} {start : Nat} (hm : mark.place = index.locate start)
    (op : Script.UnaryOp) {e : Script.Expr} {e' : Expr} (h : Image index e e') :
    Image index (.unary start op e) (signed mark op e') := by
  unfold Tree.signed
  split
  · next inner value =>
    have none : e.mentions index = [] := by
      rw [← h.mentions, Expr.mentions_eq]
      rfl
    refine ⟨hm, ?_, rfl⟩
    rw [Expr.mentions_eq, Script.Expr.mentions_eq]
    simp [Expr.mention?, Expr.children, Script.Expr.mention?, Script.Expr.children, none]
  · exact .ofChildren hm rfl h.single rfl

theorem Image.binary {mark : Mark} {start : Nat} (hm : mark.place = index.locate start)
    (op : Script.BinaryOp) {left right : Script.Expr} {left' right' : Expr}
    (hl : Image index left left') (hr : Image index right right') :
    Image index (.binary start left op right)
      (if op = .add then .concat mark left' right' else .other mark [left', right']) := by
  split
  · exact .ofChildren hm rfl (.cons hl hr.single) rfl
  · exact .ofChildren hm rfl (.cons hl hr.single) rfl

/-! ## One lemma for each kind of form -/

-- The equations are made here once; the lemmas below are elaborated side by side and wait for them.
attribute [local simp] lowerExpr

/-- If its parts are lowered to images, so is the expression. -/
def Step (index : LineIndex) (e : Script.Expr) : Prop :=
  Lowers index e.children → Gives (lowerExpr index e) (Image index e)

theorem step_name (start : Nat) (text : String) : Step index (.name start text) := by
  intro _
  rw [lowerExpr]
  apply (gives_fresh index start).bind
  intro mark hm
  refine gives_pure (.ofChildren hm ?_ .nil ?_)
  · rw [Expr.mention?, Script.Expr.mention?, hm]
  · rw [Expr.stored, Script.Expr.plain, List.flatMap_singleton, Expr.mentions_eq, Expr.mention?, hm]
    rfl

theorem step_attribute (start : Nat) (value : Script.Expr) (attr : String) :
    Step index (.attribute start value attr) := by
  intro h
  rw [lowerExpr]
  apply (gives_fresh index start).bind
  intro mark hm
  apply (Lowers.single_iff.1 h).bind
  intro value' image
  refine gives_pure (.ofChildren hm ?_ image.single rfl)
  rw [Expr.mention?, Script.Expr.mention?, hm]

theorem step_subscript (start : Nat) (value slice : Script.Expr) :
    Step index (.subscript start value slice) := by
  intro h
  obtain ⟨hv, hs⟩ := Lowers.cons_iff.1 h
  rw [lowerExpr]
  apply (gives_fresh index start).bind
  intro mark hm
  apply hv.bind
  intro value' valueImage
  apply (Lowers.single_iff.1 hs).bind
  intro slice' sliceImage
  refine gives_pure (.ofChildren hm ?_ (.cons valueImage sliceImage.single) rfl)
  rw [Expr.mention?, Script.Expr.mention?, hm]

theorem step_call (start : Nat) (func : Script.Expr) (args : List Script.Expr)
    (keywords : List (Script.KeywordArgument Script.Expr)) :
    Step index (.call start func args keywords) := by
  intro h
  obtain ⟨hf, h⟩ := Lowers.cons_iff.1 h
  obtain ⟨ha, hk⟩ := Lowers.append_iff.1 h
  rw [lowerExpr]
  apply (gives_fresh index start).bind
  intro mark hm
  apply hf.bind
  intro func' funcImage
  apply (Lowers.exprs ha).bind
  intro args' argImages
  apply (gives_lowerKeywords hk).bind
  intro keywords' keywordImages
  refine gives_pure (.ofChildren hm ?_ (.cons funcImage (argImages.append keywordImages)) rfl)
  rw [Expr.mention?, Script.Expr.mention?, hm]

theorem step_binary (start : Nat) (left : Script.Expr) (op : Script.BinaryOp)
    (right : Script.Expr) : Step index (.binary start left op right) := by
  intro h
  obtain ⟨hl, hr⟩ := Lowers.cons_iff.1 h
  rw [lowerExpr]
  apply (gives_fresh index start).bind
  intro mark hm
  apply hl.bind
  intro left' leftImage
  apply (Lowers.single_iff.1 hr).bind
  intro right' rightImage
  exact gives_pure (leftImage.binary hm op rightImage)

theorem step_conditional (start : Nat) (test body orelse : Script.Expr) :
    Step index (.conditional start test body orelse) := by
  intro h
  obtain ⟨ht, h⟩ := Lowers.cons_iff.1 h
  obtain ⟨hb, ho⟩ := Lowers.cons_iff.1 h
  rw [lowerExpr]
  apply (gives_fresh index start).bind
  intro mark hm
  apply ht.bind
  intro test' testImage
  apply hb.bind
  intro body' bodyImage
  apply (Lowers.single_iff.1 ho).bind
  intro orelse' orelseImage
  exact gives_pure (.ofChildren hm rfl (.cons testImage (.cons bodyImage orelseImage.single)) rfl)

theorem step_named (start : Nat) (target value : Script.Expr) :
    Step index (.named start target value) := by
  intro h
  obtain ⟨ht, hv⟩ := Lowers.cons_iff.1 h
  rw [lowerExpr]
  apply (gives_fresh index start).bind
  intro mark hm
  apply ht.bind
  intro target' targetImage
  apply (Lowers.single_iff.1 hv).bind
  intro value' valueImage
  exact gives_pure (.ofChildren hm rfl (.cons targetImage valueImage.single) rfl)

theorem step_dictComp (start : Nat) (key value : Script.Expr)
    (clauses : List (Script.Clause Script.Expr)) :
    Step index (.dictComp start key value clauses) := by
  intro h
  obtain ⟨hk, h⟩ := Lowers.cons_iff.1 h
  obtain ⟨hv, hc⟩ := Lowers.cons_iff.1 h
  rw [lowerExpr]
  apply (gives_fresh index start).bind
  intro mark hm
  apply hk.bind
  intro key' keyImage
  apply hv.bind
  intro value' valueImage
  apply (gives_lowerClauses hc).bind
  intro clauses' images
  exact gives_pure (.ofChildren hm rfl (.cons keyImage (.cons valueImage images)) rfl)

theorem step_lambda (start : Nat) (params : Script.Parameters Script.Expr) (body : Script.Expr) :
    Step index (.lambda start params body) := by
  intro h
  obtain ⟨hp, hb⟩ := Lowers.append_iff.1 h
  rw [lowerExpr]
  apply (gives_fresh index start).bind
  intro mark hm
  apply (Lowers.parameters hp).bind
  intro header images
  apply (Lowers.single_iff.1 hb).bind
  intro body' bodyImage
  exact gives_pure (.ofChildren hm rfl (images.append bodyImage.single) rfl)

theorem step_compare (start : Nat) (left : Script.Expr) (ops : List Script.Comparison)
    (rights : List Script.Expr) : Step index (.compare start left ops rights) := by
  intro h
  obtain ⟨hl, hr⟩ := Lowers.cons_iff.1 h
  rw [lowerExpr]
  apply (gives_fresh index start).bind
  intro mark hm
  apply hl.bind
  intro left' leftImage
  apply (Lowers.exprs hr).bind
  intro rights' images
  exact gives_pure (.ofChildren hm rfl (.cons leftImage images) rfl)

theorem step_formatted (start : Nat) (value : Script.Expr) (conversion : Option Script.Conversion)
    (spec : Option Script.Expr) : Step index (.formatted start value conversion spec) := by
  intro h
  obtain ⟨hv, hs⟩ := Lowers.cons_iff.1 h
  rw [lowerExpr]
  apply (gives_fresh index start).bind
  intro mark hm
  apply hv.bind
  intro value' valueImage
  apply (Lowers.option hs).bind
  intro spec' images
  exact gives_pure (.ofChildren hm rfl (.cons valueImage images) rfl)

theorem step_slice (start : Nat) (lower upper step : Option Script.Expr) :
    Step index (.slice start lower upper step) := by
  intro h
  obtain ⟨h, hs⟩ := Lowers.append_iff.1 h
  obtain ⟨hl, hu⟩ := Lowers.append_iff.1 h
  rw [lowerExpr]
  apply (gives_fresh index start).bind
  intro mark hm
  apply (Lowers.option hl).bind
  intro lower' lowerImages
  apply (Lowers.option hu).bind
  intro upper' upperImages
  apply (Lowers.option hs).bind
  intro step' stepImages
  exact gives_pure (.ofChildren hm rfl ((lowerImages.append upperImages).append stepImages) rfl)

/-! ## Every form -/

theorem gives_lowerExpr (index : LineIndex) (e : Script.Expr) :
    Gives (lowerExpr index e) (Image index e) := by
  induction e using Script.Expr.byChildren with
  | step e ih =>
    match e, ih with
    | .name start text, ih => exact step_name start text ih
    | .attribute start value attr, ih => exact step_attribute start value attr ih
    | .subscript start value slice, ih => exact step_subscript start value slice ih
    | .call start func args keywords, ih => exact step_call start func args keywords ih
    | .list start items, ih | .tuple start items, ih =>
      rw [lowerExpr]
      apply (gives_fresh index start).bind
      intro mark hm
      apply (Lowers.exprs ih).bind
      intro items' images
      refine gives_pure (.ofChildren hm rfl images ?_)
      rw [Expr.stored, Script.Expr.plain, storedAll_eq, Script.plainAll_eq, images.stored,
        Script.Expr.children]
    | .set start items, ih | .boolean start _ items, ih | .joined start items, ih =>
      rw [lowerExpr]
      apply (gives_fresh index start).bind
      intro mark hm
      apply (Lowers.exprs ih).bind
      intro items' images
      exact gives_pure (.ofChildren hm rfl images rfl)
    | .dict start entries, ih =>
      rw [lowerExpr]
      apply (gives_fresh index start).bind
      intro mark hm
      apply (gives_lowerEntries ih).bind
      intro entries' images
      exact gives_pure (.ofChildren hm rfl images rfl)
    | .constant start value, _ =>
      rw [lowerExpr]
      apply (gives_fresh index start).bind
      intro mark hm
      exact gives_pure (image_literal hm value)
    | .unary start op operand, ih =>
      rw [lowerExpr]
      apply (gives_fresh index start).bind
      intro mark hm
      apply (Lowers.single_iff.1 ih).bind
      intro operand' image
      exact gives_pure (image.signed hm op)
    | .binary start left op right, ih => exact step_binary start left op right ih
    | .conditional start test body orelse, ih => exact step_conditional start test body orelse ih
    | .named start target value, ih => exact step_named start target value ih
    | .listComp start element clauses, ih | .setComp start element clauses, ih
    | .generator start element clauses, ih =>
      obtain ⟨he, hc⟩ := Lowers.cons_iff.1 ih
      rw [lowerExpr]
      apply (gives_fresh index start).bind
      intro mark hm
      apply he.bind
      intro element' elementImage
      apply (gives_lowerClauses hc).bind
      intro clauses' images
      exact gives_pure (.ofChildren hm rfl (.cons elementImage images) rfl)
    | .dictComp start key value clauses, ih => exact step_dictComp start key value clauses ih
    | .lambda start params body, ih => exact step_lambda start params body ih
    | .compare start left ops rights, ih => exact step_compare start left ops rights ih
    | .await start value, ih | .yieldFrom start value, ih | .starred start value, ih =>
      rw [lowerExpr]
      apply (gives_fresh index start).bind
      intro mark hm
      apply (Lowers.single_iff.1 ih).bind
      intro value' image
      exact gives_pure (.ofChildren hm rfl image.single rfl)
    | .yield start value, ih =>
      rw [lowerExpr]
      apply (gives_fresh index start).bind
      intro mark hm
      apply (Lowers.option ih).bind
      intro value' images
      exact gives_pure (.ofChildren hm rfl images rfl)
    | .formatted start value conversion spec, ih =>
      exact step_formatted start value conversion spec ih
    | .slice start lower upper step, ih => exact step_slice start lower upper step ih

/-- Expressions are always lowered to images. -/
theorem lowers (index : LineIndex) (es : List Script.Expr) : Lowers index es :=
  fun e _ => gives_lowerExpr index e

end SourceGate.Tree
