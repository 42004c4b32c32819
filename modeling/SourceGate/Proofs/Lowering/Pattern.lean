import SourceGate.Proofs.Lowering.Statement
import SourceGate.Proofs.Verdict.Surface

/-! # Patterns are lookups

A `case` pattern looks its subject up: by the keys of mappings, by the keywords of classes and by
the attributes that its own expressions name. However deep in the pattern such a lookup stands, one
of the expressions that the pattern is lowered to spells it, so no module that holds the statement
is accepted if the operation is forbidden.
-/

namespace SourceGate

/-! ## In the syntax -/

namespace Script

namespace Expr

/-- The text of string constants joined by `+`. -/
def text? : Expr → Option String
  | .constant _ (.text value) => some value
  | .binary _ left .add right =>
    match left.text?, right.text? with
    | some a, some b => some (a ++ b)
    | _, _ => none
  | _ => none

/-- An expression is another or stands in it, at any depth. -/
inductive IsWithin (n : Expr) : Expr → Prop where
  | self : IsWithin n n
  | child {c e} (hc : c ∈ e.children) (h : IsWithin n c) : IsWithin n e

theorem IsWithin.mention_mem {index : LineIndex} {n e : Expr} {m : Mention} (h : n.IsWithin e)
    (own : n.mention? index = some m) : m ∈ e.mentions index := by
  induction h with
  | self =>
    rw [mentions_eq, own]
    exact List.mem_cons_self
  | child hc _ ih =>
    rw [mentions_eq]
    exact List.mem_append_right _ (List.mem_flatMap.2 ⟨_, hc, ih⟩)

end Expr

namespace Pattern

/-- The patterns directly inside a pattern. -/
def inner : Pattern → List Pattern
  | .sequence items | .either items | .mapping _ items _ => items
  | .instanceOf _ items _ attrItems => items ++ attrItems
  | .capture inner _ => inner.toList
  | .value .. | .singleton .. | .star .. => []

/-- The expressions that a pattern itself evaluates: its value, its keys, its class. -/
def exprs : Pattern → List Expr
  | .value e => [e]
  | .mapping keys _ _ => keys
  | .instanceOf cls _ _ _ => [cls]
  | .sequence .. | .either .. | .capture .. | .singleton .. | .star .. => []

/-- A pattern is another or stands in it, at any depth. -/
inductive IsWithin (n : Pattern) : Pattern → Prop where
  | self : IsWithin n n
  | child {c p} (hc : c ∈ p.inner) (h : IsWithin n c) : IsWithin n p

/-- A pattern itself looks a forbidden operation up. -/
inductive LooksUp (policy : Policy) : Pattern → Prop where
  | key {keys items rest key text} (hk : key ∈ keys) (folds : key.text? = some text)
      (forbidden : policy.forbids text = true) : LooksUp policy (.mapping keys items rest)
  | keyword {cls items attrs attrItems attr} (ha : attr ∈ attrs)
      (forbidden : policy.forbids attr = true) :
      LooksUp policy (.instanceOf cls items attrs attrItems)
  | attribute {p e start value attr} (he : e ∈ p.exprs)
      (h : Expr.IsWithin (.attribute start value attr) e)
      (forbidden : policy.forbids attr = true) : LooksUp policy p

end Pattern

end Script

namespace Tree

variable {policy : Policy} {index : LineIndex}

/-! ## Keys keep their text -/

theorem staticText?_literal (mark : Mark) (start : Nat) (value : Script.Constant) :
    staticText? (literal mark value) = (Script.Expr.constant start value).text? := by
  cases value with
  | integer value =>
    rw [literal]
    split <;> rfl
  | _ => rfl

theorem staticText?_signed (mark : Mark) (op : Script.UnaryOp) (operand : Expr) :
    staticText? (signed mark op operand) = none := by
  unfold signed
  split <;> rfl

/-- Text that an expression folds to is kept, and none is made up. -/
theorem gives_staticText (index : LineIndex) (e : Script.Expr) :
    Gives (lowerExpr index e) fun e' => staticText? e' = e.text? := by
  induction e using Script.Expr.byChildren with
  | step e ih =>
    cases e with
    | constant start value =>
      rw [lowerExpr]
      apply (gives_fresh index start).bind
      intro mark _
      exact gives_pure (staticText?_literal mark start value)
    | binary start left op right =>
      obtain ⟨hl, hr⟩ := List.forall_mem_cons.1 ih
      rw [lowerExpr]
      apply (gives_fresh index start).bind
      intro mark _
      apply hl.bind
      intro left' leftText
      apply (List.forall_mem_singleton.1 hr).bind
      intro right' rightText
      apply gives_pure
      cases op with
      | add =>
        rw [if_pos rfl, staticText?, leftText, rightText]
        rfl
      | _ => rfl
    | unary start op operand =>
      rw [lowerExpr]
      apply (gives_fresh index start).bind
      intro mark _
      apply (gives_lowerExpr index operand).bind
      intro operand' _
      exact gives_pure (staticText?_signed mark op operand')
    | _ => exact ⟨fun _ => rfl⟩

/-! ## Expressions that no place makes acceptable -/

/-- Something is found at an expression or inside, wherever it stands. -/
def Expr.IsRefused (policy : Policy) (e : Expr) : Prop :=
  ∀ bound p, exprFindings policy bound p e ≠ []

theorem Expr.IsRefused.ofChild {e c : Expr} (hc : c ∈ e.children) (h : c.IsRefused policy) :
    e.IsRefused policy := by
  intro bound p
  obtain ⟨entered, q, held⟩ := Expr.exists_holds_iff_mem_children.2 hc
  obtain ⟨f, hf⟩ := List.exists_mem_of_ne_nil _ (h (recordedNames entered ++ bound) q)
  exact List.ne_nil_of_mem (mem_exprFindings_iff.2 (.inr ⟨entered, q, c, held, hf⟩))

theorem isRefused_attribute {mark : Mark} {value : Expr} {attr : String}
    (forbidden : policy.forbids attr = true) :
    (Expr.attribute mark value attr).IsRefused policy := by
  intro bound p silent
  cases forbidden.symm.trans (forbids_attr_of_silent silent)

theorem isRefused_key {mark : Mark} {base key : Expr} {text : String}
    (other : base.isDisplay = false) (folds : staticText? key = some text)
    (forbidden : policy.forbids text = true) : (Expr.subscript mark base key).IsRefused policy := by
  intro bound p silent
  cases forbidden.symm.trans (forbids_key_of_silent silent other folds)

/-- Naming a forbidden attribute anywhere inside is enough. -/
theorem isRefused_of_mem_mentions {e : Expr} {attr : String} {place : Location}
    (h : ⟨.attribute attr, place⟩ ∈ e.mentions) (forbidden : policy.forbids attr = true) :
    e.IsRefused policy := by
  induction e using Expr.byChildren with
  | step e ih =>
    rw [Expr.mentions_eq] at h
    rcases List.mem_append.1 h with own | inside
    · cases e with
      | «attribute» mark value spelled =>
        have same : attr = spelled ∧ place = mark.place := by simpa [Expr.mention?] using own
        exact isRefused_attribute (same.1 ▸ forbidden)
      | _ => simp [Expr.mention?] at own
    · obtain ⟨c, hc, inside⟩ := List.mem_flatMap.1 inside
      exact (ih c hc inside).ofChild hc

/-! ## What a pattern is lowered to -/

/-- One of some expressions is refused wherever they stand. -/
def AnyRefused (policy : Policy) (found : List Expr) : Prop := ∃ e ∈ found, e.IsRefused policy

theorem AnyRefused.left {found : List Expr} (h : AnyRefused policy found) (more : List Expr) :
    AnyRefused policy (found ++ more) := by
  obtain ⟨e, he, refused⟩ := h
  exact ⟨e, List.mem_append_left _ he, refused⟩

theorem AnyRefused.right {more : List Expr} (h : AnyRefused policy more) (found : List Expr) :
    AnyRefused policy (found ++ more) := by
  obtain ⟨e, he, refused⟩ := h
  exact ⟨e, List.mem_append_right _ he, refused⟩

theorem gives_any {α : Type} (x : Lower α) : Gives x fun _ => True := ⟨fun _ => trivial⟩

theorem gives_keyLookup_refused {key : Script.Expr}
    (h : Gives (lowerExpr index key) fun key' =>
      key'.IsRefused policy ∨ ∃ text, staticText? key' = some text ∧ policy.forbids text = true) :
    Gives (keyLookup index key) (Expr.IsRefused policy) := by
  rw [keyLookup]
  apply h.bind
  intro key' refused
  apply (gives_any _).bind
  intro base _
  apply (gives_any _).bind
  intro mark _
  apply gives_pure
  rcases refused with refused | ⟨text, folds, forbidden⟩
  · exact refused.ofChild (List.mem_cons_of_mem _ List.mem_cons_self)
  · exact isRefused_key rfl folds forbidden

theorem gives_attributeLookup_refused (place : Location) {attr : String}
    (forbidden : policy.forbids attr = true) :
    Gives (attributeLookup place attr) (Expr.IsRefused policy) := by
  rw [attributeLookup]
  apply (gives_any _).bind
  intro base _
  apply (gives_any _).bind
  intro mark _
  exact gives_pure (isRefused_attribute forbidden)

theorem gives_mapM_refused {α : Type} {f : α → Lower Expr} {as : List α} {a : α} (ha : a ∈ as)
    (h : Gives (f a) (Expr.IsRefused policy)) : Gives (as.mapM f) (AnyRefused policy) := by
  have each (other : α) : Gives (f other) fun e => other = a → e.IsRefused policy :=
    ⟨fun next same => same ▸ h.outcome next⟩
  refine ⟨fun next => ?_⟩
  obtain ⟨e, he, refused⟩ := exists_of_forall₂ ((gives_mapM each as).outcome next) ha
  exact ⟨e, he, refused rfl⟩

theorem gives_lowerPatterns_refused {ps : List Script.Pattern} {p : Script.Pattern} (hp : p ∈ ps)
    (h : Gives (lowerPattern index p) (AnyRefused policy)) :
    Gives (lowerPatterns index ps) (AnyRefused policy) := by
  induction ps with
  | nil => cases hp
  | cons first rest ih =>
    rw [lowerPatterns]
    rcases List.mem_cons.1 hp with rfl | hp
    · apply h.bind
      intro found refused
      apply (gives_any _).bind
      intro more _
      exact gives_pure (refused.left more)
    · apply (gives_any _).bind
      intro found _
      apply (ih hp).bind
      intro more refused
      exact gives_pure (refused.right found)

/-- The image of an expression that holds a forbidden attribute is refused. -/
theorem gives_lowerExpr_refused {start : Nat} {value e : Script.Expr} {attr : String}
    (h : Script.Expr.IsWithin (.attribute start value attr) e)
    (forbidden : policy.forbids attr = true) :
    Gives (lowerExpr index e) (Expr.IsRefused policy) := by
  refine ⟨fun next => ?_⟩
  have image := (gives_lowerExpr index e).outcome next
  have mentioned : ⟨.attribute attr, index.locate start⟩ ∈ e.mentions index := h.mention_mem rfl
  rw [← image.mentions] at mentioned
  exact isRefused_of_mem_mentions mentioned forbidden

/-! ## One lemma for each part of a pattern -/

theorem gives_mapping_refused {keys : List Script.Expr} {items : List Script.Pattern}
    {rest : Option String} {key : Script.Expr} (hk : key ∈ keys)
    (h : Gives (keyLookup index key) (Expr.IsRefused policy)) :
    Gives (lowerPattern index (.mapping keys items rest)) (AnyRefused policy) := by
  rw [lowerPattern]
  apply (gives_mapM_refused hk h).bind
  intro lookups refused
  apply (gives_any _).bind
  intro items' _
  exact gives_pure (refused.left items')

theorem gives_keywords_refused {cls : Script.Expr} {items attrItems : List Script.Pattern}
    {attrs : List String} {attr : String} (ha : attr ∈ attrs)
    (forbidden : policy.forbids attr = true) :
    Gives (lowerPattern index (.instanceOf cls items attrs attrItems)) (AnyRefused policy) := by
  rw [lowerPattern]
  apply (gives_any _).bind
  intro cls' _
  apply (gives_mapM_refused ha (gives_attributeLookup_refused cls'.place forbidden)).bind
  intro lookups refused
  apply (gives_any _).bind
  intro items' _
  apply (gives_any _).bind
  intro attrItems' _
  exact gives_pure (((refused.right [cls']).left items').left attrItems')

theorem gives_exprs_refused {p : Script.Pattern} {e : Script.Expr} (he : e ∈ p.exprs)
    (h : Gives (lowerExpr index e) (Expr.IsRefused policy)) :
    Gives (lowerPattern index p) (AnyRefused policy) := by
  cases p with
  | value value =>
    obtain rfl := List.mem_singleton.1 he
    rw [lowerPattern]
    apply h.bind
    intro e' refused
    exact gives_pure ⟨e', List.mem_singleton_self _, refused⟩
  | mapping keys items rest =>
    exact gives_mapping_refused he (gives_keyLookup_refused ⟨fun next => .inl (h.outcome next)⟩)
  | instanceOf cls items attrs attrItems =>
    obtain rfl := List.mem_singleton.1 he
    rw [lowerPattern]
    apply h.bind
    intro cls' refused
    apply (gives_any _).bind
    intro lookups _
    apply (gives_any _).bind
    intro items' _
    apply (gives_any _).bind
    intro attrItems' _
    exact gives_pure ⟨cls', by simp, refused⟩
  | _ => cases he

theorem gives_inner_refused {p c : Script.Pattern} (hc : c ∈ p.inner)
    (h : Gives (lowerPattern index c) (AnyRefused policy)) :
    Gives (lowerPattern index p) (AnyRefused policy) := by
  cases p with
  | sequence items | either items =>
    rw [lowerPattern]
    exact gives_lowerPatterns_refused hc h
  | mapping keys items rest =>
    rw [lowerPattern]
    apply (gives_any _).bind
    intro lookups _
    apply (gives_lowerPatterns_refused hc h).bind
    intro items' refused
    exact gives_pure (refused.right lookups)
  | instanceOf cls items attrs attrItems =>
    rw [lowerPattern]
    apply (gives_any _).bind
    intro cls' _
    apply (gives_any _).bind
    intro lookups _
    rcases List.mem_append.1 hc with hc | hc
    · apply (gives_lowerPatterns_refused hc h).bind
      intro items' refused
      apply (gives_any _).bind
      intro attrItems' _
      exact gives_pure ((refused.right (cls' :: lookups)).left attrItems')
    · apply (gives_any _).bind
      intro items' _
      apply (gives_lowerPatterns_refused hc h).bind
      intro attrItems' refused
      exact gives_pure (refused.right (cls' :: lookups ++ items'))
  | capture inner name =>
    obtain rfl := Option.mem_toList.1 hc
    rw [lowerPattern]
    exact h
  | _ => cases hc

/-- What is refused in a pattern is refused in all patterns around it. -/
theorem gives_within_refused {n p : Script.Pattern} (within : n.IsWithin p)
    (h : Gives (lowerPattern index n) (AnyRefused policy)) :
    Gives (lowerPattern index p) (AnyRefused policy) := by
  induction within with
  | self => exact h
  | child hc _ ih => exact gives_inner_refused hc ih

/-- A pattern that looks a forbidden operation up is lowered to an expression that is refused. -/
theorem gives_lowerPattern_refused {p : Script.Pattern} (h : p.LooksUp policy) :
    Gives (lowerPattern index p) (AnyRefused policy) := by
  cases h with
  | @key keys items rest key text hk folds forbidden =>
    refine gives_mapping_refused hk (gives_keyLookup_refused ⟨fun next => .inr ?_⟩)
    exact ⟨text, ((gives_staticText index key).outcome next).trans folds, forbidden⟩
  | keyword ha forbidden => exact gives_keywords_refused ha forbidden
  | «attribute» he h forbidden => exact gives_exprs_refused he (gives_lowerExpr_refused h forbidden)

/-! ## The statement -/

theorem gives_lowerCases_refused {cases : List (Script.MatchCase Script.Stmt)}
    {c : Script.MatchCase Script.Stmt} (hc : c ∈ cases)
    (h : Gives (lowerPattern index c.pattern) (AnyRefused policy)) :
    Gives (lowerCases index cases) fun (es, _) => AnyRefused policy es := by
  induction cases with
  | nil => cases hc
  | cons first rest ih =>
    obtain ⟨pattern, guard, body⟩ := first
    rw [lowerCases]
    rcases List.mem_cons.1 hc with rfl | hc
    · apply h.bind
      intro found refused
      apply (gives_any _).bind
      intro guard' _
      apply (gives_any _).bind
      intro body' _
      apply (gives_any _).bind
      rintro ⟨es, bodies⟩ _
      exact gives_pure ((refused.left guard').left es)
    · apply (gives_any _).bind
      intro found _
      apply (gives_any _).bind
      intro guard' _
      apply (gives_any _).bind
      intro body' _
      apply (ih hc).bind
      rintro ⟨es, bodies⟩ refused
      exact gives_pure (refused.right (found ++ guard'))

/-- No module with the image of a statement in it is accepted, whatever is around it, and none whose
syntax holds the statement. -/
structure NeverAccepted (policy : Policy) (s : Script.Stmt) : Prop where
  image : ∀ {index t root frames}, Lowered index s t → StmtAt root frames t →
    accepts policy root = false
  module : ∀ {index body}, Script.Inside body s → accepts policy (ofModule index body) = false

section Match

variable {start : Nat} {subject : Script.Expr} {cases : List (Script.MatchCase Script.Stmt)}
  {c : Script.MatchCase Script.Stmt} {p : Script.Pattern}

theorem neverAccepted_of_pattern (hc : c ∈ cases) (within : p.IsWithin c.pattern)
    (h : ∀ index, Gives (lowerPattern index p) (AnyRefused policy)) :
    NeverAccepted policy (.match start subject cases) := by
  have image {index : LineIndex} {t : Stmt} {root : List Stmt} {frames : List Frame}
      (hl : Lowered index (.match start subject cases) t) (ht : StmtAt root frames t) :
      accepts policy root = false := by
    have block : Gives (lowerStmt index (.match start subject cases)) fun t =>
        ∃ place es bodies, t = .block place es bodies ∧ AnyRefused policy es := by
      rw [lowerStmt]
      apply (gives_any _).bind
      intro subject' _
      apply (gives_lowerCases_refused hc (gives_within_refused within (h index))).bind
      rintro ⟨es, bodies⟩ refused
      exact gives_pure ⟨_, _, _, rfl, refused.right [subject']⟩
    obtain ⟨next, rfl⟩ := hl
    obtain ⟨place, es, bodies, same, e, he, refused⟩ := block.outcome next
    rw [same] at ht
    rw [← Bool.not_eq_true]
    intro accepted
    exact refused _ _ ((ExprAt.held ht (.expr he)).exprFindings_eq_nil accepted)
  refine ⟨image, fun {index body} hs => ?_⟩
  obtain ⟨frames, t, ht, hl⟩ := exists_lowered index hs
  exact image hl ht

/-- However deep in a pattern it stands, a lookup of a forbidden operation is refused. -/
theorem match_lookup_refused (hc : c ∈ cases) (within : p.IsWithin c.pattern)
    (h : p.LooksUp policy) : NeverAccepted policy (.match start subject cases) :=
  neverAccepted_of_pattern hc within fun _ => gives_lowerPattern_refused h

end Match

/-- `{"eval": _}`. -/
def forbiddenKey : Script.Pattern :=
  .mapping [.constant 27 (.text "eval")] [.capture none none] none

/-- `[_, Point({"eval": _})]`. -/
def nestedKey : Script.Pattern :=
  .sequence [.capture none none, .instanceOf (.name 20 "Point") [forbiddenKey] [] []]

theorem nestedKey_refused :
    forbiddenKey.IsWithin nestedKey ∧ forbiddenKey.LooksUp .standard ∧
      NeverAccepted .standard (.match 0 (.name 6 "x")
        [⟨.value (.constant 15 (.integer 0)), none, []⟩, ⟨nestedKey, none, []⟩]) := by
  have within : forbiddenKey.IsWithin nestedKey :=
    .child (List.mem_cons_of_mem _ List.mem_cons_self) (.child List.mem_cons_self .self)
  have key : forbiddenKey.LooksUp .standard := .key List.mem_cons_self rfl (by decide +kernel)
  exact ⟨within, key,
    match_lookup_refused (List.mem_cons_of_mem _ List.mem_cons_self) within key⟩

end Tree

end SourceGate
