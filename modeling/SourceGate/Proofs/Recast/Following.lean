import SourceGate.Proofs.Recast.Tree
import SourceGate.Proofs.Verdict.Reach

/-! # Following in a recast tree

No rule that folds, selects or follows an expression reads an identity or tells joined strings from
one string, so in a recast tree each gives what it gave, as it is called and written then.
-/

namespace SourceGate.Tree

variable {policy : Policy} {f : Nat → Nat}

theorem flatMap_map_eq_map_flatMap {α β γ δ : Type} {xs : List α} {found : α → List β}
    {later : γ → List δ} {g : α → γ} {g' : β → δ}
    (h : ∀ x ∈ xs, later (g x) = (found x).map g') :
    (xs.map g).flatMap later = (xs.flatMap found).map g' := by
  rw [List.flatMap_map, List.map_flatMap]
  exact List.flatMap_congr h

/-- The hit with its leaf as it is called then. -/
def Hit.rename (f : Nat → Nat) (hit : Hit) : Hit := { hit with leaf := f hit.leaf }

@[simp] theorem Hit.via_rename (f : Nat → Nat) (route : Route) (hit : Hit) :
    (hit.rename f).via route = (hit.via route).rename f := rfl

@[simp] theorem Hit.throughAttribute_rename (f : Nat → Nat) (hit : Hit) :
    (hit.rename f).throughAttribute = hit.throughAttribute.rename f := by
  unfold Hit.throughAttribute
  split <;> simp_all [Hit.rename, Hit.via]

theorem map_via_rename (f : Nat → Nat) (route : Route) (hits : List Hit) :
    (hits.map (Hit.rename f)).map (Hit.via route) =
      (hits.map (Hit.via route)).map (Hit.rename f) := by
  simp

namespace Recasting

variable (r : Recasting f)

/-! ## Folding and selection -/

@[simp] theorem isIndirection_expr (e : Expr) : (r.expr e).isIndirection = e.isIndirection :=
  r.keeps Expr.isIndirection (fun e => by cases e <;> rfl) (fun _ _ _ _ _ => rfl) e

@[simp] theorem staticKey?_expr (e : Expr) : staticKey? (r.expr e) = staticKey? e := by
  have folds := r.staticText?_expr e
  rcases r.shape e with same | ⟨mark, left, right, text, rfl, -, same⟩
  · rw [same] at folds ⊢
    cases e with
    | int => rfl
    | _ => exact congrArg (Option.map StaticKey.text) folds
  · rw [same] at folds ⊢
    exact congrArg (Option.map StaticKey.text) folds

theorem matching_map (wanted : StaticKey) (entries : List (Option Expr × Expr)) :
    matching wanted (entries.map (Prod.map (Option.map r.expr) r.expr)) =
      (matching wanted entries).map (List.map r.expr) := by
  induction entries with
  | nil => rfl
  | cons entry rest ih =>
    obtain ⟨_ | key, value⟩ := entry
    · rfl
    · simp only [List.map_cons, Prod.map, Option.map_some, matching, staticKey?_expr, ih]
      cases staticKey? key with
      | none => rfl
      | some found =>
        cases matching wanted rest with
        | none => rfl
        | some more => by_cases h : found = wanted <;> simp [h]

theorem selectItems_expr (items : List Expr) (index : Expr) :
    selectItems (items.map r.expr) (r.expr index) = (selectItems items index).map r.expr := by
  have item (place : Nat) : (items.map r.expr)[place]?.toList =
      items[place]?.toList.map r.expr := by
    rw [List.getElem?_map]
    cases items[place]? <;> rfl
  rcases r.shape index with same | ⟨mark, left, right, text, rfl, -, same⟩
  · rw [same]
    cases index with
    | int mark position =>
      simp only [Expr.mapParts, selectItems, List.length_map, item]
      split
      · split <;> rfl
      · rfl
    | _ => rfl
  · rw [same]
    rfl

theorem selectEntries_expr (entries : List (Option Expr × Expr)) (key : Expr) :
    selectEntries (entries.map (Prod.map (Option.map r.expr) r.expr)) (r.expr key) =
      (selectEntries entries key).map r.expr := by
  have values : (entries.map (Prod.map (Option.map r.expr) r.expr)).map (·.2) =
      (entries.map (·.2)).map r.expr := by simp [Function.comp_def]
  rw [selectEntries, selectEntries, staticKey?_expr]
  cases staticKey? key with
  | none => exact values
  | some wanted =>
    simp only [matching_map, values]
    cases matching wanted entries <;> rfl

theorem selected_expr (base index : Expr) :
    selected (r.expr base) (r.expr index) = (selected base index).map r.expr := by
  rcases r.shape base with same | ⟨mark, left, right, text, rfl, -, same⟩
  · rw [same]
    cases base with
    | dict mark entries => exact r.selectEntries_expr entries index
    | list mark items | tuple mark items | set mark items => exact r.selectItems_expr items index
    | _ => rfl
  · rw [same]
    rfl

theorem candidates_expr (e : Expr) : candidates (r.expr e) = (candidates e).map r.expr := by
  induction e using Expr.byChildren with
  | step e ih =>
    cases e with
    | subscript mark value index =>
      have found :
          ((candidates (r.expr value)).flatMap fun base => selected base (r.expr index)) =
            ((candidates value).flatMap fun base => selected base index).map r.expr := by
        rw [ih value (by simp [Expr.children])]
        exact flatMap_map_eq_map_flatMap fun base _ => r.selected_expr base index
      simp only [expr_subscript, candidates, found, List.isEmpty_map]
      split <;> simp
    | branch mark tests values =>
      rw [expr_branch, candidates, candidates, candidatesAll_eq, candidatesAll_eq]
      exact flatMap_map_eq_map_flatMap fun v hv => ih v (List.mem_append_right _ hv)
    | _ =>
      rw [candidates_of_plain ((r.isIndirection_expr _).trans rfl), candidates_of_plain rfl]
      rfl

/-! ## Lookups -/

@[simp] theorem callableName?_expr (e : Expr) : callableName? (r.expr e) = callableName? e :=
  r.keeps callableName? (fun e => by cases e <;> rfl) (fun _ _ _ _ _ => rfl) e

@[simp] theorem isNameHelper_expr (e : Expr) : isNameHelper (r.expr e) = isNameHelper e := by
  rw [isNameHelper, callableName?_expr, isNameHelper]

@[simp] theorem isDrawing_expr (e : Expr) : isDrawing (r.expr e) = isDrawing e := by
  rw [isDrawing, callableName?_expr, isDrawing]

@[simp] theorem isItemGetter_expr (e : Expr) : isItemGetter (r.expr e) = isItemGetter e := by
  rw [isItemGetter, callableName?_expr, isItemGetter]

@[simp] theorem nameArgument_expr (e : Expr) : nameArgument (r.expr e) = nameArgument e := by
  refine r.keeps nameArgument (fun e => ?_) (fun _ _ _ _ _ => rfl) e
  cases e with
  | «attribute» mark owner attr =>
    have looked := r.keeps (fun owner => nameArgument (.attribute (mark.rename f) owner attr))
      (fun e => by cases e <;> rfl) (fun _ _ _ _ _ => rfl) owner
    refine looked.trans ?_
    cases owner <;> rfl
  | _ => rfl

@[simp] theorem keyHit_expr (key : Expr) :
    keyHit policy (r.expr key) = (keyHit policy key).map (Hit.rename f) := by
  rw [keyHit, keyHit, staticText?_expr]
  cases staticText? key with
  | none => rfl
  | some text => cases policy.forbids text <;> simp [Hit.rename]

@[simp] theorem lookupRoute?_expr (e : Expr) : lookupRoute? (r.expr e) = lookupRoute? e := by
  rw [lookupRoute?, callableName?_expr, lookupRoute?]

@[simp] theorem isDisplayMethod_expr (e : Expr) :
    isDisplayMethod (r.expr e) = isDisplayMethod e := by
  refine r.keeps isDisplayMethod (fun e => ?_) (fun _ _ _ _ _ => rfl) e
  cases e with
  | «attribute» mark value attr => exact r.isDisplay_expr value
  | _ => rfl

theorem keyHits_map (args : List Expr) :
    (args.map r.expr).filterMap (keyHit policy) =
      (args.filterMap (keyHit policy)).map (Hit.rename f) := by
  simp [List.filterMap_map, List.map_filterMap]

@[simp] theorem lookupKeys_expr (func : Expr) (args : List Expr) :
    lookupKeys policy (r.expr func) (args.map r.expr) =
      (lookupKeys policy func args).map (Hit.rename f) := by
  rw [lookupKeys, lookupKeys, lookupRoute?_expr, isDisplayMethod_expr, keyHits_map]
  cases lookupRoute? func with
  | none => rfl
  | some route => cases isDisplayMethod func <;> simp

@[simp] theorem resultKeys_expr (func : Expr) (args : List Expr) :
    resultKeys policy (r.expr func) (args.map r.expr) =
      (resultKeys policy func args).map (Hit.rename f) := by
  have lookup := @lookupKeys_expr policy f r func args
  have getter := r.isItemGetter_expr func
  rcases r.shape func with same | ⟨mark, left, right, text, rfl, -, same⟩
  · rw [same] at lookup getter ⊢
    cases func with
    | name mark text =>
      simp only [Expr.mapParts] at lookup getter
      simp only [Expr.mapParts, resultKeys, lookup, getter]
      split <;> rfl
    | _ => exact lookup
  · rw [same] at lookup ⊢
    exact lookup

@[simp] theorem namedHits_map (args : List Expr) :
    namedHits policy (args.map r.expr) = (namedHits policy args).map (Hit.rename f) := by
  rw [namedHits, keyHits_map, map_via_rename, namedHits]

@[simp] theorem computed_expr (reached : List Hit) (func : Expr) (args : List Expr)
    (isCalled : Bool) :
    computed policy (reached.map (Hit.rename f)) (r.expr func) (args.map r.expr) isCalled =
      (computed policy reached func args isCalled).map (Hit.rename f) := by
  have known : ((args.map r.expr)[nameArgument func]?).any
      (fun arg => (staticText? arg).isSome) =
        (args[nameArgument func]?).any fun arg => (staticText? arg).isSome := by
    rw [List.getElem?_map]
    cases args[nameArgument func]? <;> simp
  simp only [computed, map_via_rename, namedHits_map, ← List.map_append, List.isEmpty_map,
    nameArgument_expr, known]
  split <;> simp [Hit.rename]

/-! ## Following -/

/-- A part of the recast container. -/
def part : Part → Part
  | .value e => .value (r.expr e)
  | .contents e => .contents (r.expr e)

@[simp] theorem isWrittenOut_expr (e : Expr) : isWrittenOut (r.expr e) = isWrittenOut e := by
  rw [isWrittenOut, isComprehension_expr, isDisplay_expr, isWrittenOut]

@[simp] theorem selectionRoute_expr (e : Expr) : selectionRoute (r.expr e) = selectionRoute e :=
  r.keeps selectionRoute (fun e => by cases e <;> rfl) (fun _ _ _ _ _ => rfl) e

theorem itemParts_map (items : List Expr) :
    itemParts (items.map r.expr) = (itemParts items).map r.part := by
  refine flatMap_map_eq_map_flatMap fun e _ => ?_
  rw [isDisplay_expr]
  split <;> rfl

theorem parts_expr (e : Expr) : Tree.parts (r.expr e) = (Tree.parts e).map r.part := by
  rcases r.shape e with same | ⟨mark, left, right, text, rfl, -, same⟩
  · rw [same]
    cases e with
    | list mark items | tuple mark items | set mark items => exact r.itemParts_map items
    | dict mark entries =>
      refine flatMap_map_eq_map_flatMap fun entry _ => ?_
      obtain ⟨_ | key, value⟩ := entry <;> rfl
    | comprehension mark elements clauses =>
      simp [Expr.mapParts, Tree.parts, part, Clause.map, Function.comp_def]
    | call mark func args keywords =>
      simp only [Expr.mapParts, Tree.parts, isDrawing_expr]
      split <;> simp [part]
    | _ => rfl
  · rw [same]
    rfl

theorem dictValues_expr (value key : Expr) :
    dictValues (r.expr value) (r.expr key) = (dictValues value key).map r.expr := by
  rw [dictValues, candidates_expr]
  refine flatMap_map_eq_map_flatMap fun base _ => ?_
  rcases r.shape base with same | ⟨mark, left, right, text, rfl, -, same⟩
  · rw [same]
    cases base with
    | dict mark entries => exact r.selectEntries_expr entries key
    | _ => rfl
  · rw [same]
    rfl

theorem methodValues_expr (func : Expr) (args : List Expr) :
    methodValues (r.expr func) (args.map r.expr) = (methodValues func args).map r.expr := by
  rcases r.shape func with same | ⟨mark, left, right, text, rfl, -, same⟩
  · rw [same]
    cases func with
    | «attribute» mark value attr =>
      cases args with
      | nil => rfl
      | cons key rest =>
        simp only [Expr.mapParts, List.map_cons, methodValues, dictValues_expr]
        split <;> rfl
    | _ => rfl
  · rw [same]
    rfl

/-- An expression is followed as it was before it was recast. -/
def Follows (policy : Policy) (e : Expr) : Prop :=
  reference policy (r.expr e) = (reference policy e).map (Hit.rename f) ∧
    members policy (r.expr e) = (members policy e).map (Hit.rename f)

section Step

variable {r}

theorem via_reference_expr {e : Expr} (ih : r.Follows policy e) (route : Route) :
    (reference policy (r.expr e)).map (Hit.via route) =
      ((reference policy e).map (Hit.via route)).map (Hit.rename f) := by
  rw [ih.1, map_via_rename]

theorem reference_expr_subscript {mark : Mark} {value index : Expr}
    (ih : ∀ n, n.IsInside (.subscript mark value index) → r.Follows policy n) :
    reference policy (r.expr (.subscript mark value index)) =
      (reference policy (.subscript mark value index)).map (Hit.rename f) := by
  have written : (candidates (r.expr value)).any isWrittenOut =
      (candidates value).any isWrittenOut := by
    simp [candidates_expr, Function.comp_def]
  rw [expr_subscript, reference_subscript, reference_subscript, written, keyHit_expr,
    candidates_expr]
  split
  · refine flatMap_map_eq_map_flatMap fun base hb => ?_
    have hb : base.IsInside (.subscript mark value index) :=
      Expr.isInside_base.of_mem_subterms (mem_subterms_of_mem_candidates hb)
    rw [isComprehension_expr, selectionRoute_expr, selected_expr]
    split
    · exact (ih base hb).2
    · refine flatMap_map_eq_map_flatMap fun s hs => via_reference_expr (ih s ?_) _
      exact hb.of_mem_subterms (isInside_of_mem_selected hs).mem_subterms
  · cases keyHit policy index <;> rfl

/-- The first choice of mapped choices is the mapped first choice. -/
theorem first_or_map {g : Hit → Hit} (first second rest : List Hit) (isDrawn : Bool) :
    (if !(first.map g).isEmpty then first.map g
      else if isDrawn then second.map g else rest.map g) =
        (if !first.isEmpty then first else if isDrawn then second else rest).map g := by
  rw [List.isEmpty_map]
  split
  · rfl
  · split <;> rfl

theorem methodHits_expr {func : Expr} (args : List Expr)
    (ih : ∀ n ∈ func.subterms, r.Follows policy n) :
    methodHits policy (r.expr func) (args.map r.expr) =
      (methodHits policy func args).map (Hit.rename f) := by
  rw [methodHits, methodValues_expr]
  exact flatMap_map_eq_map_flatMap fun s hs =>
    via_reference_expr (ih s (isInside_of_mem_methodValues hs).mem_subterms) _

theorem resultHits_expr {func : Expr} {args : List Expr}
    (ihf : ∀ n ∈ func.subterms, r.Follows policy n) (iha : ∀ a ∈ args, r.Follows policy a) :
    resultHits policy (r.expr func) (args.map r.expr) =
      (resultHits policy func args).map (Hit.rename f) := by
  have found := methodHits_expr args ihf
  have drawn : (args.map r.expr).flatMap (members policy) =
      (args.flatMap (members policy)).map (Hit.rename f) :=
    flatMap_map_eq_map_flatMap fun a ha => (iha a ha).2
  have keys := @resultKeys_expr policy f r func args
  have drawing := r.isDrawing_expr func
  rcases r.shape func with same | ⟨mark, left, right, text, rfl, -, same⟩
  · rw [same] at found keys drawing ⊢
    cases func with
    | lambda mark params header body => exact (ihf body Expr.isInside_body.mem_subterms).1
    | call mark getter keys keywords =>
      simp only [Expr.mapParts, resultHits, isItemGetter_expr, lookupKeys_expr]
      split <;> rfl
    | _ =>
      rw [Expr.mapParts] at found keys drawing ⊢
      simp only [resultHits, found, drawn, keys, drawing, first_or_map]
  · rw [same] at found keys drawing ⊢
    simp only [resultHits, found, drawn, keys, drawing, first_or_map]

theorem reference_expr_call {mark : Mark} {func : Expr} {args : List Expr}
    {keywords : List (Keyword Expr)}
    (ih : ∀ n, n.IsInside (.call mark func args keywords) → r.Follows policy n) :
    reference policy (r.expr (.call mark func args keywords)) =
      (reference policy (.call mark func args keywords)).map (Hit.rename f) := by
  have inArgs : ∀ a ∈ args, r.Follows policy a := fun a ha => ih a (Expr.isInside_arg ha)
  have inFunc : ∀ n ∈ func.subterms, r.Follows policy n := fun n hn =>
    ih n (Expr.isInside_func.of_mem_subterms hn)
  have reached : (args.map r.expr).flatMap (reference policy) =
      (args.flatMap (reference policy)).map (Hit.rename f) :=
    flatMap_map_eq_map_flatMap fun a ha => (inArgs a ha).1
  rw [expr_call, reference_call, reference_call, isNameHelper_expr, reached, computed_expr,
    resultHits_expr inFunc inArgs]
  split <;> rfl

theorem members_expr {e : Expr} (ih : ∀ n, n.IsInside e → r.Follows policy n) :
    members policy (r.expr e) = (members policy e).map (Hit.rename f) := by
  rw [members_eq, members_eq, candidates_expr]
  refine flatMap_map_eq_map_flatMap fun c hc => ?_
  rw [parts_expr]
  refine flatMap_map_eq_map_flatMap fun part hp => ?_
  have ih := ih part.expr (isInside_of_mem_parts hc hp)
  cases part with
  | value v => exact via_reference_expr ih _
  | contents v =>
    have same : members policy (r.expr v) = (members policy v).map (Hit.rename f) := ih.2
    rw [Recasting.part, Part.hits, Part.hits, same, map_via_rename]

end Step

theorem follows (e : Expr) : r.Follows policy e := by
  induction e using Expr.byInside with
  | step e ih =>
    refine ⟨?_, members_expr ih⟩
    cases e with
    | name mark text =>
      rw [expr_name, reference, reference]
      split <;> rfl
    | «attribute» mark value attr =>
      rw [expr_attribute, reference, reference, (ih value Expr.isInside_owner).1]
      split
      · rfl
      · simp
    | subscript mark value index => exact reference_expr_subscript ih
    | call mark func args keywords => exact reference_expr_call ih
    | branch mark tests values =>
      rw [expr_branch, reference_branch, reference_branch]
      exact flatMap_map_eq_map_flatMap fun v hv => (ih v (Expr.isInside_branchValue hv)).1
    | concat mark left right =>
      rcases r.joined mark left right with same | ⟨text, -, same⟩ <;> simp [same, reference]
    | _ => simp [reference]

end Recasting

end SourceGate.Tree
