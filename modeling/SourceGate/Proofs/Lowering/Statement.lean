import SourceGate.Proofs.Lowering.Expression

/-! # Every statement is lowered to one that answers for it

What a statement looks up is what its image looks up, bounds of type parameters and `type`
statements apart, and the statements directly inside of either correspond one to one. So every
statement of a module stands somewhere in the tree.
-/

namespace SourceGate.Tree

variable {index : LineIndex}

/-- The second statement is what the first is lowered to, after some identity. -/
def Lowered (index : LineIndex) (s : Script.Stmt) (t : Stmt) : Prop :=
  ∃ next, (lowerStmt index s next).1 = t

theorem gives_lowered (index : LineIndex) (s : Script.Stmt) :
    Gives (lowerStmt index s) (Lowered index s) := ⟨fun next => ⟨next, rfl⟩⟩

/-- Expressions and statements of a tree that answer to entries and statements of the syntax. -/
structure Answers (index : LineIndex) (own : List Script.Entry) (inner : List Script.Stmt)
    (es : List Expr) (body : List Stmt) : Prop where
  mentions : es.flatMap Expr.mentions = Script.kept own
  inner : List.Forall₂ (Lowered index) inner body

theorem Answers.append {own own' : List Script.Entry} {inner inner' : List Script.Stmt}
    {es es' : List Expr} {body body' : List Stmt} (h : Answers index own inner es body)
    (h' : Answers index own' inner' es' body') :
    Answers index (own ++ own') (inner ++ inner') (es ++ es') (body ++ body') where
  mentions := by rw [List.flatMap_append, h.mentions, h'.mentions, Script.kept_append]
  inner := List.rel_append h.inner h'.inner

theorem Images.kept {es : List Script.Expr} {es' : List Expr} (h : Images index es es') :
    es'.flatMap Expr.mentions = Script.kept (Script.entries index .code es) := by
  rw [h.mentions, Script.kept_entries, if_pos (by decide)]

theorem Images.answers {es : List Script.Expr} {es' : List Expr} {inner : List Script.Stmt}
    {body : List Stmt} (h : Images index es es') (hi : List.Forall₂ (Lowered index) inner body) :
    Answers index (Script.entries index .code es) inner es' body := ⟨h.kept, hi⟩

/-- Bounds of type parameters add nothing that is kept. -/
theorem Answers.withBounds {own : List Script.Entry} {inner : List Script.Stmt} {es : List Expr}
    {body : List Stmt} (h : Answers index own inner es body) (bounds : List Script.Expr) :
    Answers index (own ++ Script.entries index .bound bounds) inner es body where
  mentions := by
    rw [h.mentions, Script.kept_append, Script.kept_entries, if_neg (by decide), List.append_nil]
  inner := h.inner

/-! ## Patterns -/

theorem mentions_opaque (mark : Mark) : (Expr.other mark []).mentions = [] := by
  rw [Expr.mentions_eq]
  rfl

theorem gives_keyLookup (index : LineIndex) (key : Script.Expr) :
    Gives (keyLookup index key) fun lookup =>
      lookup.mentions = Script.kept (Script.keyCensus index key) := by
  rw [keyLookup]
  apply (gives_lowerExpr index key).bind
  intro key' image
  apply (gives_freshAt key'.place).bind
  intro base _
  apply (gives_freshAt key'.place).bind
  intro mark hm
  apply gives_pure
  rw [Expr.mentions_eq]
  simp [Expr.mention?, Expr.children, mentions_opaque, hm, image.place, image.mentions,
    Script.keyCensus, Script.Origin.isKept]

theorem gives_attributeLookup (place : Location) (attr : String) :
    Gives (attributeLookup place attr) fun lookup =>
      lookup.mentions = Script.kept (Script.keywordCensus place attr) := by
  rw [attributeLookup]
  apply (gives_freshAt place).bind
  intro base _
  apply (gives_freshAt place).bind
  intro mark hm
  apply gives_pure
  rw [Expr.mentions_eq]
  simp [Expr.mention?, Expr.children, mentions_opaque, hm, Script.keywordCensus,
    Script.Origin.isKept]

/-- Lookups that answer to entries one group each answer to all of them. -/
theorem mentions_lookups {α : Type} {census : α → List Script.Entry} {as : List α}
    {lookups : List Expr}
    (h : List.Forall₂ (fun a lookup => lookup.mentions = Script.kept (census a)) as lookups) :
    lookups.flatMap Expr.mentions = Script.kept (as.flatMap census) := by
  rw [Script.kept_flatMap]
  exact flatMap_eq_of_forall₂ h fun _ _ _ lookup => lookup

mutual

theorem gives_lowerPattern (index : LineIndex) (p : Script.Pattern) :
    Gives (lowerPattern index p) fun found =>
      found.flatMap Expr.mentions = Script.kept (p.census index) := by
  cases p with
  | value value =>
    rw [lowerPattern]
    apply (gives_lowerExpr index value).bind
    intro value' image
    apply gives_pure
    rw [Script.Pattern.census, image.single.kept]
  | singleton value =>
    rw [lowerPattern]
    exact gives_pure rfl
  | star name =>
    rw [lowerPattern]
    exact gives_pure rfl
  | sequence items =>
    rw [lowerPattern]
    exact gives_lowerPatterns index items
  | either items =>
    rw [lowerPattern]
    exact gives_lowerPatterns index items
  | mapping keys items rest =>
    rw [lowerPattern]
    apply (gives_mapM (gives_keyLookup index) keys).bind
    intro lookups hl
    apply (gives_lowerPatterns index items).bind
    intro items' hi
    apply gives_pure
    rw [List.flatMap_append, mentions_lookups hl, hi, Script.Pattern.census, Script.kept_append]
  | instanceOf cls items attrs attrItems =>
    rw [lowerPattern]
    apply (gives_lowerExpr index cls).bind
    intro cls' image
    apply (gives_mapM (gives_attributeLookup cls'.place) attrs).bind
    intro lookups hl
    apply (gives_lowerPatterns index items).bind
    intro items' hi
    apply (gives_lowerPatterns index attrItems).bind
    intro attrItems' ha
    apply gives_pure
    rw [image.place] at hl
    rw [← List.singleton_append, List.flatMap_append, List.flatMap_append, List.flatMap_append,
      image.single.kept, mentions_lookups hl, hi, ha, Script.Pattern.census]
    simp only [Script.kept_append, List.append_assoc]
  | capture inner name =>
    cases inner with
    | none =>
      rw [lowerPattern]
      exact gives_pure rfl
    | some inner =>
      rw [lowerPattern]
      exact gives_lowerPattern index inner

theorem gives_lowerPatterns (index : LineIndex) (ps : List Script.Pattern) :
    Gives (lowerPatterns index ps) fun found =>
      found.flatMap Expr.mentions = Script.kept (Script.patternsCensus index ps) := by
  cases ps with
  | nil =>
    rw [lowerPatterns]
    exact gives_pure rfl
  | cons p rest =>
    rw [lowerPatterns]
    apply (gives_lowerPattern index p).bind
    intro found hf
    apply (gives_lowerPatterns index rest).bind
    intro rest' hr
    apply gives_pure
    rw [List.flatMap_append, hf, hr, Script.patternsCensus, Script.kept_append]

end

/-! ## Groups of statements -/

theorem gives_lowerStmts (index : LineIndex) (body : List Script.Stmt) :
    Gives (lowerStmts index body) (List.Forall₂ (Lowered index) body) := by
  induction body with
  | nil =>
    rw [lowerStmts]
    exact gives_pure .nil
  | cons s rest ih =>
    rw [lowerStmts]
    apply (gives_lowered index s).bind
    intro t ht
    apply ih.bind
    intro rest' hr
    exact gives_pure (.cons ht hr)

theorem gives_lowerItems (index : LineIndex) (items : List Script.ContextItem) :
    Gives (lowerItems index items)
      (Images index (items.flatMap fun i => i.context :: i.target.toList)) := by
  induction items with
  | nil =>
    rw [lowerItems]
    exact gives_pure .nil
  | cons item rest ih =>
    obtain ⟨context, target⟩ := item
    rw [lowerItems]
    apply (gives_lowerExpr index context).bind
    intro context' image
    apply (lowers index target.toList).option.bind
    intro target' images
    apply ih.bind
    intro rest' restImages
    exact gives_pure (Images.append (.cons image images) restImages)

theorem gives_lowerKeywordValues (index : LineIndex)
    (keywords : List (Script.KeywordArgument Script.Expr)) :
    Gives (lowerKeywordValues index keywords) (Images index (keywords.map (·.value))) := by
  rw [lowerKeywordValues]
  exact (gives_lowerKeywords (lowers index _)).bind fun keywords' images => gives_pure images

theorem gives_lowerCases (index : LineIndex) (cases : List (Script.MatchCase Script.Stmt)) :
    Gives (lowerCases index cases) fun (es, bodies) =>
      Answers index (cases.flatMap (Script.MatchCase.census index)) (cases.flatMap (·.body)) es
        bodies.flatten := by
  induction cases with
  | nil =>
    rw [lowerCases]
    exact gives_pure ⟨rfl, .nil⟩
  | cons c rest ih =>
    obtain ⟨pattern, guard, body⟩ := c
    rw [lowerCases]
    apply (gives_lowerPattern index pattern).bind
    intro found hf
    apply (lowers index guard.toList).option.bind
    intro guard' images
    apply (gives_lowerStmts index body).bind
    intro body' hb
    apply ih.bind
    rintro ⟨es, bodies⟩ hr
    refine gives_pure (Answers.append ⟨?_, hb⟩ hr)
    rw [List.flatMap_append, hf, images.kept, Script.MatchCase.census, Script.kept_append]

theorem gives_lowerHandlers (index : LineIndex) (handlers : List (Script.Handler Script.Stmt)) :
    Gives (lowerHandlers index handlers) fun (es, bodies) =>
      Images index (handlers.flatMap (·.cause.toList)) es ∧
        List.Forall₂ (Lowered index) (handlers.flatMap (·.body)) bodies.flatten := by
  induction handlers with
  | nil =>
    rw [lowerHandlers]
    exact gives_pure ⟨.nil, .nil⟩
  | cons handler rest ih =>
    obtain ⟨cause, name, body⟩ := handler
    rw [lowerHandlers]
    apply (lowers index cause.toList).option.bind
    intro cause' images
    apply (gives_lowerStmts index body).bind
    intro body' hb
    apply ih.bind
    rintro ⟨es, bodies⟩ hr
    exact gives_pure ⟨images.append hr.1, List.rel_append hb hr.2⟩

/-! ## One lemma for each kind of form -/

-- As for expressions, the lemmas below share these equations.
attribute [local simp] lowerStmt

/-- How the image of a statement answers for it. -/
def Answered (index : LineIndex) (s : Script.Stmt) (t : Stmt) : Prop :=
  Answers index (s.own index) s.inner t.exprs t.inner

theorem gives_function (start : Nat) (isAsync : Bool) (name : String)
    (typeParams : List Script.TypeParameter) (params : Script.Parameters Script.Expr)
    (body : List Script.Stmt) (decorators : List Script.Expr) (returns : Option Script.Expr) :
    Gives (lowerStmt index (.function start isAsync name typeParams params body decorators returns))
      (Answered index (.function start isAsync name typeParams params body decorators returns)) := by
  rw [lowerStmt]
  apply (lowers index decorators).exprs.bind
  intro decorators' hd
  apply (lowers index params.exprs).parameters.bind
  intro header hp
  apply (lowers index returns.toList).option.bind
  intro returns' hr
  apply (gives_lowerStmts index body).bind
  intro body' hb
  have answers := ((hd.append hp).append hr).answers hb
  exact gives_pure (answers.withBounds _)

theorem gives_classDef (start : Nat) (name : String) (typeParams : List Script.TypeParameter)
    (bases : List Script.Expr) (keywords : List (Script.KeywordArgument Script.Expr))
    (body : List Script.Stmt) (decorators : List Script.Expr) :
    Gives (lowerStmt index (.classDef start name typeParams bases keywords body decorators))
      (Answered index (.classDef start name typeParams bases keywords body decorators)) := by
  rw [lowerStmt]
  apply (lowers index decorators).exprs.bind
  intro decorators' hd
  apply (lowers index bases).exprs.bind
  intro bases' hbases
  apply (gives_lowerKeywordValues index keywords).bind
  intro keywords' hk
  apply (gives_lowerStmts index body).bind
  intro body' hb
  have answers := ((hd.append hbases).append hk).answers hb
  exact gives_pure (answers.withBounds _)

theorem gives_annAssign (start : Nat) (target a : Script.Expr) (value : Option Script.Expr) :
    Gives (lowerStmt index (.annAssign start target a value))
      (Answered index (.annAssign start target a value)) := by
  cases value with
  | none =>
    rw [lowerStmt]
    apply (gives_lowerExpr index target).bind
    intro target' ht
    apply (gives_lowerExpr index a).bind
    intro a' ha
    exact gives_pure (Images.answers (.cons ht ha.single) .nil)
  | some value =>
    rw [lowerStmt]
    apply (gives_lowerExpr index target).bind
    intro target' ht
    apply (gives_lowerExpr index a).bind
    intro a' ha
    apply (gives_lowerExpr index value).bind
    intro value' hv
    exact gives_pure (Images.answers (.cons ht (.cons ha hv.single)) .nil)

theorem gives_for (start : Nat) (isAsync : Bool) (target iter : Script.Expr)
    (body orelse : List Script.Stmt) :
    Gives (lowerStmt index (.for start isAsync target iter body orelse))
      (Answered index (.for start isAsync target iter body orelse)) := by
  rw [lowerStmt]
  apply (gives_lowerExpr index target).bind
  intro target' ht
  apply (gives_lowerExpr index iter).bind
  intro iter' hi
  apply (gives_lowerStmts index body).bind
  intro body' hb
  apply (gives_lowerStmts index orelse).bind
  intro orelse' ho
  exact gives_pure (Images.answers (.cons ht hi.single) (List.rel_append hb ho))

theorem gives_with (start : Nat) (isAsync : Bool) (items : List Script.ContextItem)
    (body : List Script.Stmt) :
    Gives (lowerStmt index (.with start isAsync items body))
      (Answered index (.with start isAsync items body)) := by
  rw [lowerStmt]
  apply (gives_lowerItems index items).bind
  intro exprs images
  apply (gives_lowerStmts index body).bind
  intro body' hb
  refine gives_pure (images.answers ?_)
  rw [Stmt.inner, List.flatten_singleton]
  exact hb

theorem gives_try (start : Nat) (isStar : Bool) (body : List Script.Stmt)
    (handlers : List (Script.Handler Script.Stmt)) (orelse final : List Script.Stmt) :
    Gives (lowerStmt index (.try start isStar body handlers orelse final))
      (Answered index (.try start isStar body handlers orelse final)) := by
  rw [lowerStmt]
  apply (gives_lowerStmts index body).bind
  intro body' hb
  apply (gives_lowerHandlers index handlers).bind
  rintro ⟨exprs, bodies⟩ ⟨images, hh⟩
  apply (gives_lowerStmts index orelse).bind
  intro orelse' ho
  apply (gives_lowerStmts index final).bind
  intro final' hf
  refine gives_pure (images.answers ?_)
  rw [Stmt.inner, List.cons_append, List.flatten_cons, List.flatten_append, List.flatten_cons,
    List.flatten_singleton]
  exact List.rel_append hb (List.rel_append hh (List.rel_append ho hf))

/-! ## Every form -/

theorem gives_lowerStmt (index : LineIndex) (s : Script.Stmt) :
    Gives (lowerStmt index s) (Answered index s) := by
  match s with
  | .function start isAsync name typeParams params body decorators returns =>
    exact gives_function start isAsync name typeParams params body decorators returns
  | .classDef start name typeParams bases keywords body decorators =>
    exact gives_classDef start name typeParams bases keywords body decorators
  | .assign start targets value =>
    rw [lowerStmt]
    apply (lowers index targets).exprs.bind
    intro targets' ht
    apply (gives_lowerExpr index value).bind
    intro value' hv
    exact gives_pure ((ht.append hv.single).answers .nil)
  | .augAssign start target op value =>
    rw [lowerStmt]
    apply (gives_lowerExpr index target).bind
    intro target' ht
    apply (gives_lowerExpr index value).bind
    intro value' hv
    exact gives_pure (Images.answers (.cons ht hv.single) .nil)
  | .annAssign start target a value => exact gives_annAssign start target a value
  | .for start isAsync target iter body orelse =>
    exact gives_for start isAsync target iter body orelse
  | .while start test body orelse | .if start test body orelse =>
    rw [lowerStmt]
    apply (gives_lowerExpr index test).bind
    intro test' ht
    apply (gives_lowerStmts index body).bind
    intro body' hb
    apply (gives_lowerStmts index orelse).bind
    intro orelse' ho
    refine gives_pure (ht.single.answers ?_)
    rw [Stmt.inner, List.flatten_cons, List.flatten_singleton]
    exact List.rel_append hb ho
  | .with start isAsync items body => exact gives_with start isAsync items body
  | .match start subject cases =>
    rw [lowerStmt]
    apply (gives_lowerExpr index subject).bind
    intro subject' image
    apply (gives_lowerCases index cases).bind
    rintro ⟨exprs, bodies⟩ hc
    exact gives_pure ((image.single.answers .nil).append hc)
  | .try start isStar body handlers orelse final =>
    exact gives_try start isStar body handlers orelse final
  | .return start value =>
    rw [lowerStmt]
    apply (lowers index value.toList).option.bind
    intro value' images
    exact gives_pure (images.answers .nil)
  | .delete start targets =>
    rw [lowerStmt]
    apply (lowers index targets).exprs.bind
    intro targets' images
    exact gives_pure (images.answers .nil)
  | .raise start exception cause =>
    rw [lowerStmt]
    apply (lowers index exception.toList).option.bind
    intro exception' he
    apply (lowers index cause.toList).option.bind
    intro cause' hc
    exact gives_pure ((he.append hc).answers .nil)
  | .assert start test message =>
    rw [lowerStmt]
    apply (gives_lowerExpr index test).bind
    intro test' ht
    apply (lowers index message.toList).option.bind
    intro message' hm
    exact gives_pure (Images.answers (.cons ht hm) .nil)
  | .expr start value =>
    rw [lowerStmt]
    apply (gives_lowerExpr index value).bind
    intro value' image
    exact gives_pure (image.single.answers .nil)
  | .typeAlias start name typeParams value =>
    rw [lowerStmt]
    refine gives_pure ⟨?_, .nil⟩
    rw [Script.Stmt.own, Script.kept_entries, if_neg (by decide)]
    rfl
  | .importModules .. | .importNames .. | .global .. | .nonlocal .. | .pass .. | .break ..
  | .continue .. =>
    rw [lowerStmt]
    exact gives_pure ⟨rfl, .nil⟩

theorem Lowered.answers {s : Script.Stmt} {t : Stmt} (h : Lowered index s t) :
    Answered index s t := by
  obtain ⟨next, rfl⟩ := h
  exact (gives_lowerStmt index s).outcome next

/-! ## The module as a whole -/

/-- What a statement mentions, those inside of it included, is what a tree keeps. -/
theorem Lowered.mentions {s : Script.Stmt} {t : Stmt} (h : Lowered index s t) :
    t.mentions = Script.kept (s.census index) := by
  induction s using Script.Stmt.byInner generalizing t with
  | step s ih =>
    have answers := h.answers
    have inner : t.inner.flatMap Stmt.mentions =
        s.inner.flatMap fun c => Script.kept (c.census index) :=
      flatMap_eq_of_forall₂ answers.inner fun c hc _ h => ih c hc h
    rw [Stmt.mentions_eq, answers.mentions, inner, Script.Stmt.census_eq, Script.kept_append,
      Script.kept_flatMap]

theorem lowered_ofModule (index : LineIndex) (body : List Script.Stmt) :
    List.Forall₂ (Lowered index) body (ofModule index body) :=
  (gives_lowerStmts index body).outcome 0

/-- A tree mentions what the syntax does, in the same order, bounds of type parameters and `type`
statements apart. -/
theorem mentions_ofModule (index : LineIndex) (body : List Script.Stmt) :
    mentions (ofModule index body) = Script.kept (Script.census index body) := by
  rw [mentions, Script.census, Script.kept_flatMap]
  exact flatMap_eq_of_forall₂ (lowered_ofModule index body) fun _ _ _ h => h.mentions

/-- Every statement of a module is lowered to one that stands in the tree. -/
theorem exists_lowered (index : LineIndex) {body : List Script.Stmt} {s : Script.Stmt}
    (h : Script.Inside body s) :
    ∃ frames t, StmtAt (ofModule index body) frames t ∧ Lowered index s t := by
  induction h with
  | top h =>
    obtain ⟨t, ht, hl⟩ := exists_of_forall₂ (lowered_ofModule index body) h
    exact ⟨[], t, .top ht, hl⟩
  | inner _ h ih =>
    obtain ⟨frames, t, ht, hl⟩ := ih
    obtain ⟨c, hc, hl⟩ := exists_of_forall₂ hl.answers.inner h
    exact ⟨t.entered ++ frames, c, ht.inner hc, hl⟩

end SourceGate.Tree
