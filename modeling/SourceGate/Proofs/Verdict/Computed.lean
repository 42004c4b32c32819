import SourceGate.Proofs.Verdict.Lookup

/-! # Names that are computed

Where the result of a name helper is called, an accepted module has a text at one position of the
arguments, and no argument names or folds to a forbidden operation. For most spellings the position
is the one that the helper takes the name from. Where it is another one, or where a helper takes
several names or a path of names, a name may be unknown or forbidden in an accepted module.
-/

namespace SourceGate.Tree

variable {policy : Policy} {root : List Stmt}

/-! ## Where a helper takes its name from -/

/-- The hooks behind the access to an attribute. -/
def accessHooks : List String := ["__getattribute__", "__getattr__"]

/-- The positions from which a name helper takes the names of attributes, counted as the arguments
are written. An `attrgetter` has at least one name. A hook that is not bound to an object takes the
object first; which hooks are bound is not seen in a tree. -/
inductive TakesName (isUnbound : Expr → Bool) (func : Expr) (args : List Expr) : Nat → Prop where
  | getattr (spelled : callableName? func = some "getattr") : TakesName isUnbound func args 1
  | attrgetter {i} (spelled : callableName? func = some "attrgetter")
      (named : i = 0 ∨ i < args.length) : TakesName isUnbound func args i
  | methodcaller (spelled : callableName? func = some "methodcaller") :
      TakesName isUnbound func args 0
  | hook {text} (spelled : callableName? func = some text) (h : text ∈ accessHooks) :
      TakesName isUnbound func args (if isUnbound func then 1 else 0)

/-- Whether an expression is `object` or `type`. -/
def isRootClass : Expr → Bool
  | .name _ text => text == "object" || text == "type"
  | _ => false

/-- The positions of names that are not looked at. -/
inductive Overlooked (isUnbound : Expr → Bool) : Expr → Nat → Prop where
  /-- The second argument of `builtins.getattr`. -/
  | qualified {mark owner} : Overlooked isUnbound (.attribute mark owner "getattr") 1
  /-- All but the first argument of an `attrgetter`. -/
  | further {func i} (spelled : callableName? func = some "attrgetter") (h : 0 < i) :
      Overlooked isUnbound func i
  /-- The second argument of a hook that is bare or has a class other than the root classes. -/
  | unbound {func text} (spelled : callableName? func = some text) (hook : text ∈ accessHooks)
      (h : isUnbound func = true)
      (other : ∀ mark owner attr, func = .attribute mark owner attr → isRootClass owner = false) :
      Overlooked isUnbound func 1
  /-- The first argument of a hook of an object that goes by the name of a root class. -/
  | bound {mark owner attr} (hook : attr ∈ accessHooks)
      (h : isUnbound (.attribute mark owner attr) = false)
      (rooted : isRootClass owner = true) : Overlooked isUnbound (.attribute mark owner attr) 0

theorem mem_accessHooks_iff {attr : String} :
    attr ∈ accessHooks ↔ attr = "__getattribute__" ∨ attr = "__getattr__" := by
  simp [accessHooks]

theorem nameArgument_hook {mark : Mark} {owner : Expr} {attr : String} (h : attr ∈ accessHooks) :
    nameArgument (.attribute mark owner attr) = if isRootClass owner then 1 else 0 := by
  cases owner <;> rcases mem_accessHooks_iff.1 h with rfl | rfl <;> simp [nameArgument, isRootClass]

section Positions

variable {isUnbound : Expr → Bool} {func : Expr}

theorem nameArgument_eq_zero {text : String} (spelled : callableName? func = some text)
    (h : text = "attrgetter" ∨ text = "methodcaller") : nameArgument func = 0 := by
  cases func with
  | name mark found =>
    cases spelled
    rcases h with rfl | rfl <;> rfl
  | «attribute» mark owner found =>
    cases spelled
    cases owner <;> rcases h with rfl | rfl <;> rfl
  | _ => cases spelled

theorem overlooked_or_eq_of_hook {text : String} (spelled : callableName? func = some text)
    (h : text ∈ accessHooks) :
    Overlooked isUnbound func (if isUnbound func then 1 else 0) ∨
      (if isUnbound func then 1 else 0) = nameArgument func := by
  cases func with
  | name mark found =>
    cases spelled
    have looked : nameArgument (.name mark text) = 0 := by
      rcases mem_accessHooks_iff.1 h with rfl | rfl <;> rfl
    cases free : isUnbound (.name mark text) with
    | true => exact .inl (.unbound rfl h free (by simp))
    | false => exact .inr looked.symm
  | «attribute» mark owner found =>
    cases spelled
    rw [nameArgument_hook h]
    cases free : isUnbound (.attribute mark owner text) <;> cases rooted : isRootClass owner
    · exact .inr rfl
    · exact .inl (.bound h free rooted)
    · exact .inl (.unbound rfl h free fun _ _ _ same => by cases same; exact rooted)
    · exact .inr rfl
  | _ => cases spelled

/-- The name helpers are the callees that take a name from some position. -/
theorem exists_takesName_iff {args : List Expr} :
    (∃ i, TakesName isUnbound func args i) ↔ isNameHelper func = true := by
  constructor
  · rintro ⟨i, h⟩
    cases h with
    | getattr spelled | attrgetter spelled | methodcaller spelled =>
      simp [isNameHelper, spelled, nameHelpers]
    | hook spelled h =>
      rcases mem_accessHooks_iff.1 h with rfl | rfl <;> simp [isNameHelper, spelled, nameHelpers]
  · intro helper
    obtain ⟨text, spelled, listed⟩ := (Option.any_eq_true _ _).1 helper
    simp only [nameHelpers, List.contains_eq_mem, List.mem_cons, List.not_mem_nil, or_false,
      decide_eq_true_eq] at listed
    rcases listed with rfl | rfl | rfl | rfl | rfl
    · exact ⟨1, .getattr spelled⟩
    · exact ⟨_, .hook spelled (by simp [accessHooks])⟩
    · exact ⟨_, .hook spelled (by simp [accessHooks])⟩
    · exact ⟨0, .attrgetter spelled (.inl rfl)⟩
    · exact ⟨0, .methodcaller spelled⟩

/-- A name is looked at where it is taken from, with these exceptions. -/
theorem TakesName.overlooked_or_eq {args : List Expr} {i : Nat}
    (h : TakesName isUnbound func args i) :
    Overlooked isUnbound func i ∨ i = nameArgument func := by
  cases h with
  | getattr spelled =>
    cases func with
    | name mark text => cases spelled; exact .inr rfl
    | «attribute» mark owner attr => cases spelled; exact .inl .qualified
    | _ => cases spelled
  | attrgetter spelled =>
    rcases Nat.eq_zero_or_pos i with rfl | further
    · exact .inr (nameArgument_eq_zero spelled (.inl rfl)).symm
    · exact .inl (.further spelled further)
  | methodcaller spelled => exact .inr (nameArgument_eq_zero spelled (.inr rfl)).symm
  | hook spelled h => exact overlooked_or_eq_of_hook spelled h

end Positions

/-! ## Paths of names -/

/-- The names of a path `a.b.c`. -/
def segments (text : String) : List String := (text.toList.splitOn '.').map String.ofList

/-- A text without a dot is the only name of its path. -/
theorem segments_eq_singleton {text : String} (h : '.' ∉ text.toList) :
    segments text = [text] := by
  have whole : text.toList.splitOn '.' = [text.toList] :=
    List.splitOnP_eq_singleton fun c hc => beq_false_of_ne (ne_of_mem_of_not_mem hc h)
  simp [segments, whole]

/-! ## What silence means for a name helper -/

/-- A name helper reaches nothing iff no argument names or folds to a forbidden operation and, where
its result is called, the argument that is looked at folds to a text. -/
theorem computed_eq_nil_iff {reached : List Hit} {func : Expr} {args : List Expr}
    {isCalled : Bool} :
    computed policy reached func args isCalled = [] ↔
      reached = [] ∧ (∀ a ∈ args, keyHit policy a = none) ∧
        (isCalled = true → ∃ a text, args[nameArgument func]? = some a ∧
          staticText? a = some text) := by
  have known : ((args[nameArgument func]?).any fun a => (staticText? a).isSome) = true ↔
      ∃ a text, args[nameArgument func]? = some a ∧ staticText? a = some text := by
    simp [Option.any_eq_true, Option.isSome_iff_exists]
  have none : reached.map (Hit.via .computedName) ++ namedHits policy args = [] ↔
      reached = [] ∧ ∀ a ∈ args, keyHit policy a = none := by
    simp [namedHits]
  rw [← known, ← and_assoc, ← none, computed]
  grind

/-- The result of a helper is called: all of its arguments are looked at, and one gives the name. -/
theorem helper_of_silent {bound : Bound} {p : Position} {mark inner : Mark} {func : Expr}
    {args rest : List Expr} {keywords more : List (Keyword Expr)}
    (h : exprFindings policy bound p (.call mark (.call inner func args keywords) rest more) = [])
    (helper : isNameHelper func = true) :
    (∀ a ∈ args, reference policy a = []) ∧ (∀ a ∈ args, keyHit policy a = none) ∧
      ∃ a text, args[nameArgument func]? = some a ∧ staticText? a = some text := by
  have silent := (callFindings_eq_nil_iff.1 (callFindings_of_silent h)).1
  rw [reference_call, if_pos helper, computed_eq_nil_iff, List.flatMap_eq_nil_iff] at silent
  exact ⟨silent.1, silent.2.1, silent.2.2 rfl⟩

/-! ## The module as a whole -/

/-- The argument that names an attribute is there and folds to a path of names which are all
allowed. -/
def ClosedName (policy : Policy) (args : List Expr) (i : Nat) : Prop :=
  ∃ a text, args[i]? = some a ∧ staticText? a = some text ∧
    ∀ segment ∈ segments text, policy.forbids segment = false

/-- Wherever the result of a name helper is called, its names are closed. -/
def NamesClosed (isUnbound : Expr → Bool) (policy : Policy) (root : List Stmt) : Prop :=
  ∀ {frames p mark inner func args keywords rest more},
    ExprAt root frames p (.call mark (.call inner func args keywords) rest more) →
      ∀ i, TakesName isUnbound func args i → ClosedName policy args i

/-- What is known of the names by which a module looks something up and calls it. -/
structure NamesFollowed (isUnbound : Expr → Bool) (policy : Policy) (root : List Stmt) : Prop where
  /-- A name that is not overlooked is closed, except that a path is judged as a whole. -/
  names : ∀ {frames p mark inner func args keywords rest more},
    ExprAt root frames p (.call mark (.call inner func args keywords) rest more) →
      ∀ i, TakesName isUnbound func args i → ClosedName policy args i ∨
        Overlooked isUnbound func i ∨
          ∃ a text, args[i]? = some a ∧ staticText? a = some text ∧ '.' ∈ text.toList
  /-- No argument folds to a forbidden operation, or may be one. -/
  arguments : ∀ {frames p mark inner func args keywords rest more},
    ExprAt root frames p (.call mark (.call inner func args keywords) rest more) →
      isNameHelper func = true → ∀ a ∈ args, reference policy a = [] ∧
        ∀ text ∈ staticText? a, policy.forbids text = false

theorem accepted_names_followed (isUnbound : Expr → Bool) (h : accepts policy root = true) :
    NamesFollowed isUnbound policy root where
  names he i takes := by
    have helper := exists_takesName_iff.1 ⟨i, takes⟩
    obtain ⟨-, unseen, a, text, ha, folds⟩ := helper_of_silent (he.exprFindings_eq_nil h) helper
    rcases takes.overlooked_or_eq with overlooked | rfl
    · exact .inr (.inl overlooked)
    · by_cases dotted : '.' ∈ text.toList
      · exact .inr (.inr ⟨a, text, ha, folds, dotted⟩)
      · have allowed := keyHit_eq_none_iff.1 (unseen a (List.mem_of_getElem? ha)) text folds
        refine .inl ⟨a, text, ha, folds, ?_⟩
        rw [segments_eq_singleton dotted]
        exact List.forall_mem_singleton.2 allowed
  arguments he helper a ha := by
    obtain ⟨unreached, unseen, -⟩ := helper_of_silent (he.exprFindings_eq_nil h) helper
    exact ⟨unreached a ha, keyHit_eq_none_iff.1 (unseen a ha)⟩

/-- `getattr(table, "ap" + "pend")(1)`. -/
def joinedName : List Stmt :=
  [.block ⟨1, 1⟩
    [.call ⟨0, ⟨1, 1⟩⟩
      (.call ⟨1, ⟨1, 1⟩⟩ (.name ⟨2, ⟨1, 1⟩⟩ "getattr")
        [.name ⟨3, ⟨1, 9⟩⟩ "table",
          .concat ⟨4, ⟨1, 16⟩⟩ (.str ⟨5, ⟨1, 16⟩⟩ "ap") (.str ⟨6, ⟨1, 23⟩⟩ "pend")] [])
      [.int ⟨7, ⟨1, 32⟩⟩ 1] []] []]

theorem joinedName_names_followed :
    accepts .standard joinedName = true ∧ NamesFollowed (fun _ => false) .standard joinedName := by
  have h : accepts .standard joinedName = true := by decide +kernel
  exact ⟨h, accepted_names_followed _ h⟩

/-- `builtins.getattr("s", name)("x")`. -/
def qualifiedLookup : List Stmt :=
  [.block ⟨1, 1⟩
    [.call ⟨0, ⟨1, 1⟩⟩
      (.call ⟨1, ⟨1, 1⟩⟩ (.attribute ⟨2, ⟨1, 1⟩⟩ (.name ⟨3, ⟨1, 1⟩⟩ "builtins") "getattr")
        [.str ⟨4, ⟨1, 18⟩⟩ "s", .name ⟨5, ⟨1, 23⟩⟩ "name"] [])
      [.str ⟨6, ⟨1, 29⟩⟩ "x"] []] []]

/-- `attrgetter("a", name)(obj)`. -/
def furtherName : List Stmt :=
  [.block ⟨1, 1⟩
    [.call ⟨0, ⟨1, 1⟩⟩
      (.call ⟨1, ⟨1, 1⟩⟩ (.name ⟨2, ⟨1, 1⟩⟩ "attrgetter")
        [.str ⟨3, ⟨1, 12⟩⟩ "a", .name ⟨4, ⟨1, 17⟩⟩ "name"] [])
      [.name ⟨5, ⟨1, 23⟩⟩ "obj"] []] []]

/-- `attrgetter("a.eval")(obj)`. -/
def pathOfNames : List Stmt :=
  [.block ⟨1, 1⟩
    [.call ⟨0, ⟨1, 1⟩⟩
      (.call ⟨1, ⟨1, 1⟩⟩ (.name ⟨2, ⟨1, 1⟩⟩ "attrgetter") [.str ⟨3, ⟨1, 12⟩⟩ "a.eval"] [])
      [.name ⟨4, ⟨1, 22⟩⟩ "obj"] []] []]

/-- Whichever hooks are bound, a second argument, a further name and a path are let through. -/
theorem accepted_name_not_closed :
    (accepts .standard qualifiedLookup = true ∧
        ∀ isUnbound, ¬NamesClosed isUnbound .standard qualifiedLookup) ∧
      (accepts .standard furtherName = true ∧
        ∀ isUnbound, ¬NamesClosed isUnbound .standard furtherName) ∧
      accepts .standard pathOfNames = true ∧
        ∀ isUnbound, ¬NamesClosed isUnbound .standard pathOfNames := by
  have called {e : Expr} : ExprAt [.block ⟨1, 1⟩ [e] []] [] .load e :=
    .held (.top List.mem_cons_self) (.expr List.mem_cons_self)
  refine ⟨⟨by decide +kernel, fun isUnbound h => ?_⟩, ⟨by decide +kernel, fun isUnbound h => ?_⟩,
    ⟨by decide +kernel, fun isUnbound h => ?_⟩⟩
  · obtain ⟨a, text, ha, folds, -⟩ := h called 1 (.getattr rfl)
    cases ha
    cases folds
  · obtain ⟨a, text, ha, folds, -⟩ := h called 1 (.attrgetter rfl (.inr (by decide)))
    cases ha
    cases folds
  · obtain ⟨a, text, ha, folds, allowed⟩ := h called 0 (.attrgetter rfl (.inl rfl))
    cases ha
    cases folds
    have forbidden : Policy.standard.forbids "eval" = true := by decide +kernel
    exact Bool.false_ne_true ((allowed "eval" (by decide +kernel)).symm.trans forbidden)

end SourceGate.Tree
