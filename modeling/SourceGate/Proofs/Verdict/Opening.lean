import SourceGate.Proofs.Verdict.Hit

/-! # Where following ends

What is followed is opened form by form: the value of a conditional form, the owner of an attribute,
the entries of a display, the arguments of a lookup by name. A hit is about the expression it was
found for or about one that some form inside opens. Forms that only use a value open nothing.
-/

namespace SourceGate.Tree

variable {policy : Policy} {hit : Hit} {e m n : Expr}

/-- An expression directly inside another at which following the other may end. -/
inductive Expr.Opens : Expr → Expr → Prop where
  | owner {mark value attr} : Opens (.attribute mark value attr) value
  | callee {mark func args keywords} : Opens (.call mark func args keywords) func
  | argument {mark func args keywords a} (helper : isNameHelper func = true) (ha : a ∈ args) :
      Opens (.call mark func args keywords) a
  | body {mark params header body} : Opens (.lambda mark params header body) body
  | branchValue {mark tests values v} (hv : v ∈ values) : Opens (.branch mark tests values) v
  | entry {display n} (isDisplay : display.isDisplay = true) (hn : n ∈ display.children) :
      Opens display n
  | element {mark elements clauses n} (hn : n ∈ elements) :
      Opens (.comprehension mark elements clauses) n
  | key {e n text} (hn : n ∈ e.children) (folds : staticText? n = some text) : Opens e n

theorem Expr.Opens.mem_children (h : m.Opens n) : n ∈ m.children := by
  cases h with
  | owner | callee => exact List.mem_cons_self
  | argument _ ha => exact List.mem_cons_of_mem _ (List.mem_append_left _ ha)
  | body => exact List.mem_append_right _ (List.mem_singleton_self _)
  | branchValue hv => exact List.mem_append_right _ hv
  | element hn => exact List.mem_append_left _ hn
  | entry _ hn | key hn _ => exact hn

namespace Hit

/-- Some form inside an expression opens the one that the hit is about. -/
def TakenFrom (hit : Hit) (e : Expr) : Prop :=
  ∃ m ∈ e.subterms, ∃ n, m.Opens n ∧ n.id = hit.leaf

/-- The hit is about an expression itself or is taken from it. -/
def EndsAt (hit : Hit) (e : Expr) : Prop := e.id = hit.leaf ∨ hit.TakenFrom e

theorem TakenFrom.within (h : hit.TakenFrom n) (hn : n ∈ e.subterms) : hit.TakenFrom e := by
  obtain ⟨m, hm, opened⟩ := h
  exact ⟨m, Expr.subterms_trans hn hm, opened⟩

theorem EndsAt.opened (h : hit.EndsAt n) (hm : m ∈ e.subterms) (opens : m.Opens n) :
    hit.TakenFrom e := by
  rcases h with leaf | taken
  · exact ⟨m, hm, n, opens, leaf⟩
  · have inside := Expr.isInside_of_mem_children opens.mem_children
    exact taken.within (inside.within hm).mem_subterms

theorem EndsAt.opened_self (h : hit.EndsAt n) (opens : e.Opens n) : hit.TakenFrom e :=
  h.opened (Expr.mem_subterms_self e) opens

/-- By another route the hit is about the same expression. -/
theorem TakenFrom.via (route : Route) (h : hit.TakenFrom e) : (hit.via route).TakenFrom e := h

@[simp] theorem leaf_throughAttribute : hit.throughAttribute.leaf = hit.leaf := by
  unfold throughAttribute
  split <;> rfl

theorem EndsAt.throughAttribute (h : hit.EndsAt e) : hit.throughAttribute.EndsAt e := by
  simpa [EndsAt, TakenFrom] using h

/-- What a hit is about, it ends at: the callee of a lookup is opened by the lookup. -/
theorem About.endsAt (h : hit.About policy e) : hit.EndsAt e := by
  cases h with
  | spelled leaf => exact .inl leaf
  | unknown leaf => exact .inr ⟨_, Expr.mem_subterms_self _, _, .callee, leaf⟩

end Hit

/-! ## Keys are texts -/

/-- A hit about a key that folds to a text. -/
def Hit.IsKey (hit : Hit) (key : Expr) : Prop :=
  key.id = hit.leaf ∧ ∃ text, staticText? key = some text

theorem Hit.IsKey.via (route : Route) (h : hit.IsKey n) : (hit.via route).IsKey n := h

theorem Hit.IsKey.takenFrom (h : hit.IsKey n) (hm : m ∈ e.subterms) (hn : n ∈ m.children) :
    hit.TakenFrom e := by
  obtain ⟨leaf, text, folds⟩ := h
  exact ⟨m, hm, n, .key hn folds, leaf⟩

theorem isKey_of_mem_keyHit {key : Expr} (h : hit ∈ keyHit policy key) : hit.IsKey key := by
  obtain ⟨text, folds, -, rfl⟩ := exists_of_mem_keyHit h
  exact ⟨rfl, text, folds⟩

theorem exists_isKey_of_mem_map {args : List Expr} {route : Route}
    (h : hit ∈ (args.filterMap (keyHit policy)).map (Hit.via route)) :
    ∃ a ∈ args, hit.IsKey a := by
  obtain ⟨a, ha, found, hf, rfl⟩ := exists_keyHit_of_mem_map h
  exact ⟨a, ha, (isKey_of_mem_keyHit hf).via route⟩

theorem exists_isKey_of_mem_lookupKeys {func : Expr} {args : List Expr}
    (h : hit ∈ lookupKeys policy func args) : ∃ a ∈ args, hit.IsKey a := by
  obtain ⟨route, -, a, ha, found, hf, rfl⟩ := exists_keyHit_of_mem_lookupKeys h
  exact ⟨a, ha, (isKey_of_mem_keyHit hf).via route⟩

/-! ## What one step opens -/

theorem opens_of_mem_selected {base index s : Expr} (h : s ∈ selected base index) : base.Opens s :=
  .entry (isDisplay_of_mem_selected h) (mem_children_of_mem_selected h)

theorem exists_opens_of_mem_dictValues {value key s : Expr} (h : s ∈ dictValues value key) :
    ∃ base ∈ candidates value, base.Opens s := by
  obtain ⟨base, hb, hs⟩ := List.mem_flatMap.1 h
  refine ⟨base, hb, ?_⟩
  cases base with
  | dict mark entries =>
    have hs : s ∈ selected (.dict mark entries) key := hs
    exact opens_of_mem_selected hs
  | _ => cases hs

theorem exists_opens_of_mem_methodValues {func s : Expr} {args : List Expr}
    (h : s ∈ methodValues func args) : ∃ base : Expr, base.IsInside func ∧ base.Opens s := by
  unfold methodValues at h
  split at h
  · split at h
    · obtain ⟨base, hb, opens⟩ := exists_opens_of_mem_dictValues h
      have inside := mem_subterms_of_mem_candidates hb
      exact ⟨base, Expr.isInside_owner.of_mem_subterms inside, opens⟩
    · cases h
  · cases h

theorem opens_of_value_mem_parts {c v : Expr} (h : .value v ∈ parts c) : c.Opens v := by
  have hc : v ∈ c.children := mem_children_of_mem_parts h
  cases c with
  | list | tuple | set | dict => exact .entry rfl hc
  | comprehension mark elements clauses =>
    rcases List.mem_append.1 h with h | h
    · obtain ⟨_, -, same⟩ := List.mem_map.1 h
      cases same
    · obtain ⟨_, hv, same⟩ := List.mem_map.1 h
      cases same
      exact .element hv
  | call mark func args keywords =>
    simp only [parts] at h
    split at h
    · obtain ⟨_, -, same⟩ := List.mem_map.1 h
      cases same
    · cases h
  | _ => cases h

/-! ## All hits -/

/-- Where all hits of an expression and of its members end. -/
structure Ends (policy : Policy) (e : Expr) : Prop where
  reference : ∀ {hit}, hit ∈ reference policy e → hit.EndsAt e
  members : ∀ {hit}, hit ∈ members policy e → hit.TakenFrom e

/-- The hits of whatever stands inside end where they should. -/
def EndsInside (policy : Policy) (e : Expr) : Prop := ∀ n, n.IsInside e → Ends policy n

namespace EndsInside

/-- What is found for an opened expression is taken from the one around it. -/
theorem opened (ih : EndsInside policy e) (hm : m ∈ e.subterms) (opens : m.Opens n)
    (h : hit ∈ reference policy n) : hit.TakenFrom e :=
  have inside := (Expr.isInside_of_mem_children opens.mem_children).within hm
  ((ih n inside).reference h).opened hm opens

theorem drawn (ih : EndsInside policy e) (inside : n.IsInside e) (h : hit ∈ members policy n) :
    hit.TakenFrom e :=
  ((ih n inside).members h).within inside.mem_subterms

variable {mark : Mark}

theorem ofSubscript {value index : Expr} (ih : EndsInside policy (.subscript mark value index))
    (h : hit ∈ reference policy (.subscript mark value index)) :
    hit.TakenFrom (.subscript mark value index) := by
  rw [reference_subscript] at h
  split at h
  · obtain ⟨base, hb, h⟩ := List.mem_flatMap.1 h
    have hb : base.IsInside (.subscript mark value index) :=
      Expr.isInside_base.of_mem_subterms (mem_subterms_of_mem_candidates hb)
    split at h
    · exact ih.drawn hb h
    · obtain ⟨s, hs, h⟩ := List.mem_flatMap.1 h
      obtain ⟨found, hf, rfl⟩ := List.mem_map.1 h
      exact (ih.opened hb.mem_subterms (opens_of_mem_selected hs) hf).via _
  · have key := isKey_of_mem_keyHit (Option.mem_toList.1 h)
    exact key.takenFrom (Expr.mem_subterms_self _) (List.mem_cons_of_mem _ List.mem_cons_self)

variable {func : Expr} {args : List Expr} {keywords : List (Keyword Expr)}

theorem ofLookupKeys (hm : .call mark func args keywords ∈ e.subterms)
    (h : hit ∈ lookupKeys policy func args) : hit.TakenFrom e := by
  obtain ⟨a, ha, key⟩ := exists_isKey_of_mem_lookupKeys h
  exact key.takenFrom hm (List.mem_cons_of_mem _ (List.mem_append_left _ ha))

theorem ofResultHits (ih : EndsInside policy (.call mark func args keywords))
    (h : hit ∈ resultHits policy func args) : hit.TakenFrom (.call mark func args keywords) := by
  unfold resultHits at h
  split at h
  · exact ih.opened Expr.isInside_func.mem_subterms .body h
  · split at h
    · exact ofLookupKeys Expr.isInside_func.mem_subterms h
    · cases h
  · split at h
    · obtain ⟨s, hs, h⟩ := List.mem_flatMap.1 h
      obtain ⟨found, hf, rfl⟩ := List.mem_map.1 h
      obtain ⟨base, inside, opens⟩ := exists_opens_of_mem_methodValues hs
      refine (ih.opened (Expr.IsInside.mem_subterms ?_) opens hf).via _
      exact Expr.isInside_func.of_mem_subterms inside.mem_subterms
    · split at h
      · obtain ⟨a, ha, h⟩ := List.mem_flatMap.1 h
        exact ih.drawn (Expr.isInside_arg ha) h
      · exact ofLookupKeys (Expr.mem_subterms_self _) (mem_lookupKeys_of_mem_resultKeys h)

theorem ofCall (ih : EndsInside policy (.call mark func args keywords))
    (h : hit ∈ reference policy (.call mark func args keywords)) :
    hit.TakenFrom (.call mark func args keywords) := by
  rw [reference_call] at h
  split at h
  · next helper =>
    rcases mem_computed h with ⟨found, hf, rfl⟩ | ⟨-, a, ha, about⟩ | ⟨-, rfl⟩
    · obtain ⟨a, ha, hf⟩ := List.mem_flatMap.1 hf
      exact (ih.opened (Expr.mem_subterms_self _) (.argument helper ha) hf).via _
    · exact about.endsAt.opened_self (.argument helper ha)
    · exact ⟨_, Expr.mem_subterms_self _, func, .callee, rfl⟩
  · exact ih.ofResultHits h

theorem ofReference (ih : EndsInside policy e) (h : hit ∈ reference policy e) : hit.EndsAt e := by
  cases e with
  | name mark text =>
    rw [reference] at h
    split at h
    · obtain rfl := List.mem_singleton.1 h
      exact .inl rfl
    · cases h
  | «attribute» mark value attr =>
    rw [reference] at h
    split at h
    · obtain rfl := List.mem_singleton.1 h
      exact .inl rfl
    · obtain ⟨found, hf, rfl⟩ := List.mem_map.1 h
      have ends := ((ih value Expr.isInside_owner).reference hf).throughAttribute
      exact .inr (ends.opened_self .owner)
  | subscript mark value index => exact .inr (ih.ofSubscript h)
  | call mark func args keywords => exact .inr (ih.ofCall h)
  | branch mark tests values =>
    rw [reference_branch] at h
    obtain ⟨v, hv, h⟩ := List.mem_flatMap.1 h
    exact .inr (ih.opened (Expr.mem_subterms_self _) (.branchValue hv) h)
  | _ => simp [reference] at h

theorem ofMembers (ih : EndsInside policy e) (h : hit ∈ members policy e) : hit.TakenFrom e := by
  rw [members_eq] at h
  obtain ⟨c, hc, h⟩ := List.mem_flatMap.1 h
  obtain ⟨part, hp, h⟩ := List.mem_flatMap.1 h
  cases part with
  | value v =>
    obtain ⟨found, hf, rfl⟩ := List.mem_map.1 h
    have opens := opens_of_value_mem_parts hp
    exact (ih.opened (mem_subterms_of_mem_candidates hc) opens hf).via _
  | contents v =>
    obtain ⟨found, hf, rfl⟩ := List.mem_map.1 h
    exact (ih.drawn (isInside_of_mem_parts hc hp) hf).via _

end EndsInside

/-- Every hit ends at the expression or at what a form inside opens. -/
theorem ends (e : Expr) : Ends policy e := by
  -- As for `rooted`, what is followed may stand further down than the children.
  induction e using Expr.byInside with
  | step e ih =>
    have ih : EndsInside policy e := ih
    exact ⟨ih.ofReference, ih.ofMembers⟩

end SourceGate.Tree
