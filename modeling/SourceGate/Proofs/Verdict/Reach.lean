import SourceGate.Proofs.Tree.Subterm

/-! # One step of following

What an expression may be and what a container may hold come in one step from what is followed:
candidates, selected entries, values and parts. All of these stand inside the expression.
-/

namespace SourceGate.Tree

variable {policy : Policy}

/-! ## One step -/

theorem flatMap_attach_eq {α β : Type} {xs : List α} {f : { x // x ∈ xs } → List β}
    {g : α → List β} (h : ∀ x hx, f ⟨x, hx⟩ = g x) : xs.attach.flatMap f = xs.flatMap g := by
  rw [List.flatMap_subtype h, List.unattach_attach]

theorem reference_subscript (mark : Mark) (value index : Expr) :
    reference policy (.subscript mark value index) =
      if (candidates value).any isWrittenOut then
        (candidates value).flatMap fun base =>
          if base.isComprehension then members policy base
          else (selected base index).flatMap fun s =>
            (reference policy s).map (Hit.via (selectionRoute base))
      else (keyHit policy index).toList := by
  rw [reference]
  refine if_congr Iff.rfl (flatMap_attach_eq fun base _ => ?_) rfl
  exact if_congr Iff.rfl rfl (flatMap_attach_eq fun _ _ => rfl)

theorem reference_branch (mark : Mark) (tests values : List Expr) :
    reference policy (.branch mark tests values) = values.flatMap (reference policy) := by
  rw [reference]
  exact flatMap_attach_eq fun _ _ => rfl

/-- What the values give that a method such as `{…}.get` looks up. -/
def methodHits (policy : Policy) (func : Expr) (args : List Expr) : List Hit :=
  (methodValues func args).flatMap fun s => (reference policy s).map (Hit.via .subscriptAccess)

/-- What the result of a call may be that is no lookup of a name. -/
def resultHits (policy : Policy) (func : Expr) (args : List Expr) : List Hit :=
  match func with
  | .lambda _ _ _ body => reference policy body
  | .call _ getter keys _ => if isItemGetter getter then lookupKeys policy getter keys else []
  | func =>
    if !(methodHits policy func args).isEmpty then methodHits policy func args
    else if isDrawing func then args.flatMap (members policy)
    else resultKeys policy func args

/-- The first choice unless it is empty; the parts of either side are those of the other. -/
theorem first_or_congr {first first' second second' : List Hit} (hf : first = first')
    (hs : second = second') (isDrawn : Bool) (rest : List Hit) :
    (if !first.isEmpty then first else if isDrawn then second else rest) =
      if !first'.isEmpty then first' else if isDrawn then second' else rest := by
  rw [hf, hs]

theorem reference_call (mark : Mark) (func : Expr) (args : List Expr)
    (keywords : List (Keyword Expr)) :
    reference policy (.call mark func args keywords) =
      if isNameHelper func then computed policy (args.flatMap (reference policy)) func args true
      else resultHits policy func args := by
  cases func with
  | lambda | call =>
    rw [reference]
    refine if_congr Iff.rfl (congrArg (computed policy · _ args true) ?_) rfl
    exact flatMap_attach_eq fun _ _ => rfl
  | _ =>
    rw [reference]
    · refine if_congr Iff.rfl (congrArg (computed policy · _ args true) ?_) ?_
      · exact flatMap_attach_eq fun _ _ => rfl
      · exact first_or_congr (flatMap_attach_eq fun _ _ => rfl) (flatMap_attach_eq fun _ _ => rfl)
          _ _
    · simp
    · simp

/-- What one part of a container gives. -/
def Part.hits (policy : Policy) : Part → List Hit
  | .value e => (reference policy e).map (Hit.via .containerIndirection)
  | .contents e => (members policy e).map (Hit.via .containerIndirection)

theorem members_eq (e : Expr) :
    members policy e = (candidates e).flatMap fun c => (parts c).flatMap (Part.hits policy) := by
  rw [members]
  refine flatMap_attach_eq fun c _ => flatMap_attach_eq fun part _ => ?_
  cases part <;> rfl

/-! ## What is followed -/

theorem mem_children_of_mem_selected {base index e : Expr} (h : e ∈ selected base index) :
    e ∈ base.children := by
  unfold selected at h
  split at h
  · obtain ⟨key, he⟩ := mem_selectEntries h
    exact List.mem_flatMap.2 ⟨_, he, by simp⟩
  · exact mem_selectItems h
  · exact mem_selectItems h
  · exact mem_selectItems h
  · cases h

theorem isInside_of_mem_selected {base index e : Expr} (h : e ∈ selected base index) :
    e.IsInside base :=
  Expr.isInside_of_mem_children (mem_children_of_mem_selected h)

theorem candidatesAll_eq (es : List Expr) : candidatesAll es = es.flatMap candidates := by
  induction es with
  | nil => rfl
  | cons e rest ih => rw [candidatesAll, ih, List.flatMap_cons]

theorem mem_subterms_of_mem_candidates {e c : Expr} (h : c ∈ candidates e) : c ∈ e.subterms := by
  induction e using Expr.byChildren generalizing c with
  | step e ih =>
    cases e with
    | subscript mark value index =>
      rw [candidates] at h
      split at h
      · obtain rfl := List.mem_singleton.1 h
        exact Expr.mem_subterms_self _
      · obtain ⟨base, hb, hs⟩ := List.mem_flatMap.1 h
        have hv : value ∈ (Expr.subscript mark value index).children := List.mem_cons_self
        have hs := (isInside_of_mem_selected hs).within (ih value hv hb)
        exact (Expr.isInside_base.of_mem_subterms hs.mem_subterms).mem_subterms
    | branch mark tests values =>
      rw [candidates, candidatesAll_eq] at h
      obtain ⟨v, hv, hc⟩ := List.mem_flatMap.1 h
      have hv : v ∈ (Expr.branch mark tests values).children := List.mem_append_right _ hv
      exact Expr.IsInside.mem_subterms ⟨v, hv, ih v hv hc⟩
    | _ =>
      obtain rfl := List.mem_singleton.1 h
      exact Expr.mem_subterms_self _

theorem mem_of_mem_itemParts {items : List Expr} {part : Part} (h : part ∈ itemParts items) :
    part.expr ∈ items := by
  obtain ⟨e, he, h⟩ := List.mem_flatMap.1 h
  split at h
  · simp only [List.mem_cons, List.not_mem_nil, or_false] at h
    rcases h with rfl | rfl <;> exact he
  · obtain rfl := List.mem_singleton.1 h
    exact he

theorem mem_children_of_mem_parts {e : Expr} {part : Part} (h : part ∈ parts e) :
    part.expr ∈ e.children := by
  cases e with
  | dict mark entries =>
    obtain ⟨⟨key, value⟩, he, h⟩ := List.mem_flatMap.1 h
    refine List.mem_flatMap.2 ⟨_, he, ?_⟩
    rcases List.mem_append.1 h with h | h
    · obtain ⟨k, hk, rfl⟩ := List.mem_map.1 h
      exact List.mem_append_left _ hk
    · obtain rfl := List.mem_singleton.1 h
      exact List.mem_append_right _ List.mem_cons_self
  | comprehension mark elements clauses =>
    rcases List.mem_append.1 h with h | h
    · obtain ⟨c, hc, rfl⟩ := List.mem_map.1 h
      exact List.mem_append_right _ (List.mem_flatMap.2 ⟨c, hc, by simp [Part.expr]⟩)
    · obtain ⟨e, he, rfl⟩ := List.mem_map.1 h
      exact List.mem_append_left _ he
  | call mark func args keywords =>
    simp only [parts] at h
    split at h
    · obtain ⟨a, ha, rfl⟩ := List.mem_map.1 h
      exact List.mem_cons_of_mem _ (List.mem_append_left _ ha)
    · cases h
  | list mark items | tuple mark items | set mark items => exact mem_of_mem_itemParts h
  | _ => cases h

/-- The parts of what an expression may be stand inside of it. -/
theorem isInside_of_mem_parts {e c : Expr} {part : Part} (hc : c ∈ candidates e)
    (hp : part ∈ parts c) : part.expr.IsInside e :=
  (Expr.isInside_of_mem_children (mem_children_of_mem_parts hp)).within
    (mem_subterms_of_mem_candidates hc)

theorem isInside_of_mem_dictValues {value key e : Expr} (h : e ∈ dictValues value key) :
    e.IsInside value := by
  obtain ⟨base, hb, hs⟩ := List.mem_flatMap.1 h
  have hs : e ∈ base.children := by
    cases base with
    | dict mark entries =>
      have hs : e ∈ selected (.dict mark entries) key := hs
      exact mem_children_of_mem_selected hs
    | _ => cases hs
  exact (Expr.isInside_of_mem_children hs).within (mem_subterms_of_mem_candidates hb)

theorem isInside_of_mem_methodValues {func e : Expr} {args : List Expr}
    (h : e ∈ methodValues func args) : e.IsInside func := by
  unfold methodValues at h
  split at h
  · split at h
    · exact ⟨_, List.mem_singleton_self _, (isInside_of_mem_dictValues h).mem_subterms⟩
    · cases h
  · cases h

/-! ## What comes out again -/

/-- Whether an expression stands for others: a subscript or a conditional form. -/
def Expr.isIndirection : Expr → Bool
  | .subscript _ _ _ | .branch _ _ _ => true
  | _ => false

theorem candidates_of_plain {e : Expr} (h : e.isIndirection = false) : candidates e = [e] := by
  cases e with
  | subscript | branch => cases h
  | _ => rfl

theorem candidates_of_isDisplay {e : Expr} (h : e.isDisplay = true) : candidates e = [e] := by
  refine candidates_of_plain ?_
  cases e with
  | subscript | branch => cases h
  | _ => rfl

theorem isDisplay_of_mem_selected {base index s : Expr} (h : s ∈ selected base index) :
    base.isDisplay = true := by
  cases base with
  | list | tuple | set | dict => rfl
  | _ => cases h

/-- What an entry gives that a display may select is found at the subscript. -/
theorem via_mem_reference_subscript {mark : Mark} {value index base s : Expr} {hit : Hit}
    (hb : base ∈ candidates value) (hs : s ∈ selected base index) (h : hit ∈ reference policy s) :
    hit.via (selectionRoute base) ∈ reference policy (.subscript mark value index) := by
  have display := isDisplay_of_mem_selected hs
  have written : (candidates value).any isWrittenOut = true :=
    List.any_eq_true.2 ⟨base, hb, by simp [isWrittenOut, display]⟩
  have drawn : ¬base.isComprehension = true := by
    cases base with
    | comprehension => cases display
    | _ => exact Bool.false_ne_true
  rw [reference_subscript, if_pos written]
  refine List.mem_flatMap.2 ⟨base, hb, ?_⟩
  rw [if_neg drawn]
  exact List.mem_flatMap.2 ⟨s, hs, List.mem_map_of_mem h⟩

/-- What a value gives that a method looks up is found at the call of the method. -/
theorem via_mem_reference_method {mark inner : Mark} {owner s : Expr} {attr : String}
    {args : List Expr} {keywords : List (Keyword Expr)} {hit : Hit}
    (plain : isNameHelper (.attribute inner owner attr) = false)
    (hs : s ∈ methodValues (.attribute inner owner attr) args) (h : hit ∈ reference policy s) :
    hit.via .subscriptAccess ∈
      reference policy (.call mark (.attribute inner owner attr) args keywords) := by
  have found : hit.via .subscriptAccess ∈ methodHits policy (.attribute inner owner attr) args :=
    List.mem_flatMap.2 ⟨s, hs, List.mem_map_of_mem h⟩
  have some : ¬(methodHits policy (.attribute inner owner attr) args).isEmpty = true := fun none =>
    List.not_mem_nil (List.isEmpty_iff.1 none ▸ found)
  rw [reference_call, plain, if_neg Bool.false_ne_true, resultHits, if_pos (by simpa using some)]
  · exact found
  · simp
  · simp

end SourceGate.Tree
