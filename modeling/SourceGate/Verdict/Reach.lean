import SourceGate.Policy.Basic
import SourceGate.Verdict.Folding
import SourceGate.Verdict.Violation

/-! # Forbidden operations that an expression may reach

`reference` follows an expression in callee position to the forbidden operations it may be, and
`members` a container to those it may hold. Both look through displays, conditional forms and calls
of lookup helpers; every step goes to a smaller expression.
-/

namespace SourceGate.Tree

/-- A forbidden operation and the expression that names it. -/
structure Hit where
  name : String
  route : Route
  leaf : Nat
  deriving DecidableEq, Repr, Inhabited

/-- The hit as seen by another route. -/
def Hit.via (route : Route) (hit : Hit) : Hit := { hit with route := route }

/-- The hit as seen through an attribute of what it names. -/
def Hit.throughAttribute (hit : Hit) : Hit :=
  if hit.route = .directCall then hit.via .attributeAccess else hit

/-- The target of a lookup whose name is not known. -/
def dynamicTarget : String := "<dynamic>"

/-- Helpers that fetch an attribute named by an argument. -/
def nameHelpers : List String :=
  ["getattr", "__getattribute__", "__getattr__", "attrgetter", "methodcaller"]

/-- Calls whose result is drawn from their arguments. -/
def drawingHelpers : List String :=
  ["next", "iter", "list", "tuple", "set", "reversed", "sorted", "min", "max", "enumerate"]

/-- Methods of mappings that take a key. -/
def mappingLookups : List String := ["get", "pop", "setdefault"]

/-- Spellings of `x[key]`. -/
def subscriptLookups : List String := ["__getitem__", "itemgetter"]

/-- The last identifier of a callee: `f` of `f(…)`, `g` of `a.b.g(…)`. -/
def callableName? : Expr → Option String
  | .name _ text => some text
  | .attribute _ _ attr => some attr
  | _ => none

def isNameHelper (func : Expr) : Bool := (callableName? func).any nameHelpers.contains

def isDrawing (func : Expr) : Bool := (callableName? func).any drawingHelpers.contains

def isItemGetter (func : Expr) : Bool := callableName? func == some "itemgetter"

/-- The position of the argument that names the attribute. -/
def nameArgument (func : Expr) : Nat :=
  match func with
  | .name _ text => if text == "getattr" then 1 else 0
  | .attribute _ (.name _ owner) attr =>
    if (attr == "__getattribute__" || attr == "__getattr__") &&
        (owner == "object" || owner == "type") then 1 else 0
  | _ => 0

/-- A key that folds to the name of a forbidden operation. -/
def keyHit (policy : Policy) (key : Expr) : Option Hit :=
  match staticText? key with
  | some text => if policy.forbids text then some ⟨text, .subscriptAccess, key.id⟩ else none
  | none => none

/-- The route that a lookup method or helper stands for. -/
def lookupRoute? (func : Expr) : Option Route :=
  match callableName? func with
  | some name =>
    if subscriptLookups.contains name then some .subscriptAccess
    else if mappingLookups.contains name then some .computedName
    else none
  | none => none

/-- Whether a callee is a method of a display. -/
def isDisplayMethod : Expr → Bool
  | .attribute _ value _ => value.isDisplay
  | _ => false

/-- Forbidden keys among the arguments of a lookup. All arguments count, so that unbound spellings
are covered; a lookup on a display is followed by its values instead. -/
def lookupKeys (policy : Policy) (func : Expr) (args : List Expr) : List Hit :=
  match lookupRoute? func with
  | some route =>
    if isDisplayMethod func then [] else (args.filterMap (keyHit policy)).map (Hit.via route)
  | none => []

/-- Forbidden keys of a lookup whose result is used. A bare name is taken for a lookup here only if
it is `itemgetter`. -/
def resultKeys (policy : Policy) (func : Expr) (args : List Expr) : List Hit :=
  match func with
  | .name _ _ => if isItemGetter func then lookupKeys policy func args else []
  | _ => lookupKeys policy func args

/-- Forbidden names among the arguments of a name helper. -/
def namedHits (policy : Policy) (args : List Expr) : List Hit :=
  (args.filterMap (keyHit policy)).map (Hit.via .computedName)

/-- What a call of a name helper reaches: `reached` by its arguments, and by the names they fold to.
Where its result is called, a name that is not known counts as well. -/
def computed (policy : Policy) (reached : List Hit) (func : Expr) (args : List Expr)
    (isCalled : Bool) : List Hit :=
  let hits := reached.map (Hit.via .computedName) ++ namedHits policy args
  let isKnown := (args[nameArgument func]?).any fun arg => (staticText? arg).isSome
  if isCalled && hits.isEmpty && !isKnown then [⟨dynamicTarget, .computedName, func.id⟩] else hits

/-- A part of a container: one of its values, or a container whose members it passes on. -/
inductive Part where
  | value (e : Expr)
  | contents (e : Expr)

def Part.expr : Part → Expr
  | value e | contents e => e

/-- The parts of a display of items; a nested display passes its members on. -/
def itemParts (items : List Expr) : List Part :=
  items.flatMap fun e => if e.isDisplay then [.value e, .contents e] else [.value e]

/-- What a container holds or draws from. -/
def parts : Expr → List Part
  | .dict _ entries =>
    entries.flatMap fun (key, value) => (key.toList.map .value) ++ [.value value]
  | .comprehension _ elements clauses =>
    clauses.map (fun c => .contents c.iter) ++ elements.map .value
  | .call _ func args _ => if isDrawing func then args.map .contents else []
  | .list _ items | .tuple _ items | .set _ items => itemParts items
  | _ => []

/-- The values of the dict displays that `value` may be, at a key. -/
def dictValues (value key : Expr) : List Expr :=
  (candidates value).flatMap fun base =>
    match base with
    | .dict _ entries => selectEntries entries key
    | _ => []

/-- What a lookup by method, such as `{…}.get(key)`, takes from dict displays. -/
def methodValues (func : Expr) (args : List Expr) : List Expr :=
  match func, args with
  | .attribute _ value attr, key :: _ =>
    if mappingLookups.contains attr || subscriptLookups.contains attr then dictValues value key
    else []
  | _, _ => []

def Expr.isComprehension : Expr → Bool
  | .comprehension _ _ _ => true
  | _ => false

/-- Whether what a candidate holds is written out. -/
def isWrittenOut (e : Expr) : Bool := e.isComprehension || e.isDisplay

/-- The route by which a subscript of a display gives its entries. -/
def selectionRoute : Expr → Route
  | .dict _ _ => .subscriptAccess
  | _ => .containerIndirection

theorem sizeOf_lt_of_mem_itemParts {items : List Expr} {part : Part} (h : part ∈ itemParts items) :
    sizeOf part.expr < sizeOf items := by
  obtain ⟨e, he, hp⟩ := List.mem_flatMap.1 h
  have := List.sizeOf_lt_of_mem he
  have : part.expr = e := by
    split at hp <;> simp only [List.mem_cons, List.not_mem_nil, or_false] at hp
    · rcases hp with rfl | rfl <;> rfl
    · rw [hp]; rfl
  rw [this]
  assumption

/-- The parts of a container are proper parts of it. -/
theorem sizeOf_lt_of_mem_parts {e : Expr} {part : Part} (h : part ∈ parts e) :
    sizeOf part.expr < sizeOf e := by
  unfold parts at h
  split at h
  · obtain ⟨⟨key, value⟩, hm, hp⟩ := List.mem_flatMap.1 h
    have hs := List.sizeOf_lt_of_mem hm
    simp only [Prod.mk.sizeOf_spec] at hs
    simp only [Expr.dict.sizeOf_spec]
    rcases List.mem_append.1 hp with hp | hp
    · cases key with
      | none => simp at hp
      | some key =>
        simp only [Option.toList_some, List.map_cons, List.map_nil, List.mem_singleton] at hp
        subst hp
        simp only [Part.expr]
        simp only [Option.some.sizeOf_spec] at hs
        omega
    · simp only [List.mem_singleton] at hp
      subst hp
      simp only [Part.expr]
      omega
  · simp only [Expr.comprehension.sizeOf_spec]
    rcases List.mem_append.1 h with h | h
    · obtain ⟨c, hc, rfl⟩ := List.mem_map.1 h
      have := List.sizeOf_lt_of_mem hc
      have hi : sizeOf c.iter < sizeOf c := by
        cases c
        simp only [Clause.mk.sizeOf_spec]
        omega
      simp only [Part.expr]
      omega
    · obtain ⟨v, hv, rfl⟩ := List.mem_map.1 h
      have := List.sizeOf_lt_of_mem hv
      simp only [Part.expr]
      omega
  · simp only [Expr.call.sizeOf_spec]
    split at h
    · obtain ⟨a, ha, rfl⟩ := List.mem_map.1 h
      have := List.sizeOf_lt_of_mem ha
      simp only [Part.expr]
      omega
    · simp at h
  · have := sizeOf_lt_of_mem_itemParts h
    simp only [Expr.list.sizeOf_spec]
    omega
  · have := sizeOf_lt_of_mem_itemParts h
    simp only [Expr.tuple.sizeOf_spec]
    omega
  · have := sizeOf_lt_of_mem_itemParts h
    simp only [Expr.set.sizeOf_spec]
    omega
  · simp at h

theorem sizeOf_lt_of_mem_dictValues {value key e : Expr} (h : e ∈ dictValues value key) :
    sizeOf e < sizeOf value := by
  obtain ⟨base, hb, hs⟩ := List.mem_flatMap.1 h
  have := sizeOf_le_of_mem_candidates hb
  split at hs
  · obtain ⟨k, hk⟩ := mem_selectEntries hs
    have := sizeOf_lt_of_mem_entries hk
    simp only [Expr.dict.sizeOf_spec] at *
    omega
  · simp at hs

theorem sizeOf_lt_of_mem_methodValues {func e : Expr} {args : List Expr}
    (h : e ∈ methodValues func args) : sizeOf e < sizeOf func := by
  unfold methodValues at h
  split at h
  · split at h
    · have := sizeOf_lt_of_mem_dictValues h
      simp only [Expr.attribute.sizeOf_spec]
      omega
    · simp at h
  · simp at h

mutual

/-- The forbidden operations that the value of an expression may be. -/
def reference (policy : Policy) (e : Expr) : List Hit :=
  match e with
  | .name mark text =>
    if policy.forbids text then [⟨text, .directCall, mark.id⟩] else []
  | .attribute mark value attr =>
    if policy.forbids attr then [⟨attr, .attributeAccess, mark.id⟩]
    else (reference policy value).map Hit.throughAttribute
  | .subscript _ value index =>
    if (candidates value).any isWrittenOut then
      (candidates value).attach.flatMap fun ⟨base, hb⟩ =>
        have := sizeOf_le_of_mem_candidates hb
        if base.isComprehension then members policy base
        else (selected base index).attach.flatMap fun ⟨s, hs⟩ =>
          have := sizeOf_lt_of_mem_selected hs
          (reference policy s).map (Hit.via (selectionRoute base))
    else (keyHit policy index).toList
  | .call _ func args _ =>
    if isNameHelper func then
      let reached := args.attach.flatMap fun ⟨a, ha⟩ =>
        have := List.sizeOf_lt_of_mem ha
        reference policy a
      computed policy reached func args true
    else
      match func with
      | .lambda _ _ _ body => reference policy body
      | .call _ getter keys _ =>
        if isItemGetter getter then lookupKeys policy getter keys else []
      | func =>
        let found := (methodValues func args).attach.flatMap fun ⟨s, hs⟩ =>
          have := sizeOf_lt_of_mem_methodValues hs
          (reference policy s).map (Hit.via .subscriptAccess)
        if !found.isEmpty then found
        else if isDrawing func then
          args.attach.flatMap fun ⟨a, ha⟩ =>
            have := List.sizeOf_lt_of_mem ha
            members policy a
        else resultKeys policy func args
  | .branch _ _ values =>
    values.attach.flatMap fun ⟨v, hv⟩ =>
      have := List.sizeOf_lt_of_mem hv
      reference policy v
  | _ => []
termination_by sizeOf e
decreasing_by
  all_goals simp only [Expr.attribute.sizeOf_spec, Expr.subscript.sizeOf_spec,
    Expr.call.sizeOf_spec, Expr.lambda.sizeOf_spec, Expr.branch.sizeOf_spec]
  all_goals omega

/-- The forbidden operations that a container may hold. -/
def members (policy : Policy) (e : Expr) : List Hit :=
  (candidates e).attach.flatMap fun ⟨c, hc⟩ =>
    have := sizeOf_le_of_mem_candidates hc
    (parts c).attach.flatMap fun
      | ⟨.value v, hp⟩ =>
        have := sizeOf_lt_of_mem_parts hp
        (reference policy v).map (Hit.via .containerIndirection)
      | ⟨.contents v, hp⟩ =>
        have := sizeOf_lt_of_mem_parts hp
        (members policy v).map (Hit.via .containerIndirection)
termination_by sizeOf e
decreasing_by
  all_goals simp only [Part.expr] at *
  all_goals omega

end

end SourceGate.Tree
