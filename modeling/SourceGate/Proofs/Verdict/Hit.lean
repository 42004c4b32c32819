import SourceGate.Proofs.Verdict.Reach

/-! # What a hit is about

Following an expression stays inside of it, so every hit is about a part of the expression it was
found for: one that spells a forbidden operation by its name, its attribute or the text that it
folds to, or the callee of a lookup whose name is not known. A hit keeps the route of a direct call
only on the way through conditional forms and lambdas that are called at once.
-/

namespace SourceGate

/-- A route that is neither a plain mention nor a direct call. -/
def Route.IsIndirect (route : Route) : Prop := route ≠ .aliasReference ∧ route ≠ .directCall

namespace Tree

variable {policy : Policy}

/-! ## What a hit is about -/

/-- An expression names a forbidden operation, or is a text that does. -/
inductive Spells (policy : Policy) : Expr → String → Prop where
  | name {mark text} (h : policy.forbids text = true) : Spells policy (.name mark text) text
  | attribute {mark value attr} (h : policy.forbids attr = true) :
      Spells policy (.attribute mark value attr) attr
  | text {e text} (folds : staticText? e = some text) (h : policy.forbids text = true) :
      Spells policy e text

/-- What a hit is about: its leaf spells the operation, or is the callee of a lookup by a name that
is not known. -/
inductive Hit.About (policy : Policy) (hit : Hit) : Expr → Prop where
  | spelled {e} (leaf : e.id = hit.leaf) (h : Spells policy e hit.name) : About policy hit e
  | unknown {mark func args keywords} (leaf : func.id = hit.leaf)
      (helper : isNameHelper func = true) (name : hit.name = dynamicTarget) :
      About policy hit (.call mark func args keywords)

/-- A hit is about some part of an expression. -/
def Hit.StemsFrom (policy : Policy) (hit : Hit) (e : Expr) : Prop :=
  ∃ n ∈ e.subterms, hit.About policy n

namespace Hit

variable {hit : Hit} {e c : Expr}

theorem About.stemsFrom (h : hit.About policy e) : hit.StemsFrom policy e :=
  ⟨e, Expr.mem_subterms_self e, h⟩

theorem StemsFrom.within (h : hit.StemsFrom policy c) (hc : c ∈ e.subterms) :
    hit.StemsFrom policy e := by
  obtain ⟨n, hn, about⟩ := h
  exact ⟨n, Expr.subterms_trans hc hn, about⟩

theorem StemsFrom.ofInside (h : hit.StemsFrom policy c) (hc : c.IsInside e) :
    hit.StemsFrom policy e :=
  h.within hc.mem_subterms

/-- A change of the route leaves open what the hit is about. -/
theorem About.via (route : Route) (h : hit.About policy e) : (hit.via route).About policy e := by
  cases h with
  | spelled leaf h => exact .spelled leaf h
  | unknown leaf helper name => exact .unknown leaf helper name

theorem StemsFrom.via (route : Route) (h : hit.StemsFrom policy e) :
    (hit.via route).StemsFrom policy e := by
  obtain ⟨n, hn, about⟩ := h
  exact ⟨n, hn, about.via route⟩

theorem StemsFrom.throughAttribute (h : hit.StemsFrom policy e) :
    hit.throughAttribute.StemsFrom policy e := by
  unfold Hit.throughAttribute
  split
  · exact h.via _
  · exact h

end Hit

/-- A hit of a key says that the key folds to a forbidden text. -/
theorem exists_of_mem_keyHit {key : Expr} {hit : Hit} (h : hit ∈ keyHit policy key) :
    ∃ text, staticText? key = some text ∧ policy.forbids text = true ∧
      hit = ⟨text, .subscriptAccess, key.id⟩ := by
  unfold keyHit at h
  split at h
  · next text folds =>
    split at h
    · next forbidden =>
      cases h
      exact ⟨text, folds, forbidden, rfl⟩
    · cases h
  · cases h

theorem exists_keyHit_of_mem_map {args : List Expr} {route : Route} {hit : Hit}
    (h : hit ∈ (args.filterMap (keyHit policy)).map (Hit.via route)) :
    ∃ a ∈ args, ∃ found ∈ keyHit policy a, hit = found.via route := by
  obtain ⟨found, hf, rfl⟩ := List.mem_map.1 h
  obtain ⟨a, ha, hf⟩ := List.mem_filterMap.1 hf
  exact ⟨a, ha, found, hf, rfl⟩

/-- Every key of a lookup is one of its arguments, seen by the route of the lookup. -/
theorem exists_keyHit_of_mem_lookupKeys {func : Expr} {args : List Expr} {hit : Hit}
    (h : hit ∈ lookupKeys policy func args) :
    ∃ route, lookupRoute? func = some route ∧
      ∃ a ∈ args, ∃ found ∈ keyHit policy a, hit = found.via route := by
  unfold lookupKeys at h
  split at h
  · next route lookup =>
    split at h
    · cases h
    · exact ⟨route, lookup, exists_keyHit_of_mem_map h⟩
  · cases h

theorem about_of_mem_keyHit {key : Expr} {hit : Hit} (h : hit ∈ keyHit policy key) :
    hit.About policy key := by
  obtain ⟨text, folds, forbidden, rfl⟩ := exists_of_mem_keyHit h
  exact .spelled rfl (.text folds forbidden)

theorem about_of_mem_keyHits {args : List Expr} {route : Route} {hit : Hit}
    (h : hit ∈ (args.filterMap (keyHit policy)).map (Hit.via route)) :
    ∃ a ∈ args, hit.About policy a := by
  obtain ⟨a, ha, found, hf, rfl⟩ := exists_keyHit_of_mem_map h
  exact ⟨a, ha, (about_of_mem_keyHit hf).via route⟩

theorem about_of_mem_lookupKeys {func : Expr} {args : List Expr} {hit : Hit}
    (h : hit ∈ lookupKeys policy func args) : ∃ a ∈ args, hit.About policy a := by
  obtain ⟨route, -, a, ha, found, hf, rfl⟩ := exists_keyHit_of_mem_lookupKeys h
  exact ⟨a, ha, (about_of_mem_keyHit hf).via route⟩

theorem mem_lookupKeys_of_mem_resultKeys {func : Expr} {args : List Expr} {hit : Hit}
    (h : hit ∈ resultKeys policy func args) : hit ∈ lookupKeys policy func args := by
  unfold resultKeys at h
  split at h
  · split at h
    · exact h
    · cases h
  · exact h

/-- A call of a name helper gives what its arguments give or spell, or that the name is unknown. -/
theorem mem_computed {reached : List Hit} {func : Expr} {args : List Expr} {isCalled : Bool}
    {hit : Hit} (h : hit ∈ computed policy reached func args isCalled) :
    (∃ r ∈ reached, hit = r.via .computedName) ∨
      (hit.route = .computedName ∧ ∃ a ∈ args, hit.About policy a) ∨
      isCalled = true ∧ hit = ⟨dynamicTarget, .computedName, func.id⟩ := by
  unfold computed at h
  dsimp only at h
  split at h
  · next unknown =>
    simp only [Bool.and_eq_true] at unknown
    exact .inr (.inr ⟨unknown.1.1, List.mem_singleton.1 h⟩)
  · rcases List.mem_append.1 h with h | h
    · obtain ⟨r, hr, rfl⟩ := List.mem_map.1 h
      exact .inl ⟨r, hr, rfl⟩
    · refine .inr (.inl ⟨?_, about_of_mem_keyHits h⟩)
      obtain ⟨found, -, rfl⟩ := List.mem_map.1 h
      rfl

/-! ## Routes -/

theorem isIndirect_of_mem_keyHit {key : Expr} {hit : Hit} (h : hit ∈ keyHit policy key) :
    hit.route.IsIndirect := by
  obtain ⟨text, -, -, rfl⟩ := exists_of_mem_keyHit h
  simp [Route.IsIndirect]

theorem isIndirect_of_lookupRoute? {func : Expr} {route : Route}
    (h : lookupRoute? func = some route) : route.IsIndirect := by
  unfold lookupRoute? at h
  split at h
  · split at h
    · cases h
      simp [Route.IsIndirect]
    · split at h
      · cases h
        simp [Route.IsIndirect]
      · cases h
  · cases h

theorem isIndirect_of_mem_lookupKeys {func : Expr} {args : List Expr} {hit : Hit}
    (h : hit ∈ lookupKeys policy func args) : hit.route.IsIndirect := by
  obtain ⟨route, lookup, _, -, _, -, rfl⟩ := exists_keyHit_of_mem_lookupKeys h
  exact isIndirect_of_lookupRoute? lookup

theorem isIndirect_selectionRoute (base : Expr) : (selectionRoute base).IsIndirect := by
  unfold selectionRoute
  split <;> simp [Route.IsIndirect]

/-- A name that the value of an expression may be, as far as conditional forms and lambdas that are
called at once show it. -/
inductive Expr.StandsFor : Expr → String → Prop where
  | name {mark text} : StandsFor (.name mark text) text
  | branch {mark tests values v text} (hv : v ∈ values) (h : StandsFor v text) :
      StandsFor (.branch mark tests values) text
  | applied {mark inner params header body args keywords text} (h : StandsFor body text) :
      StandsFor (.call mark (.lambda inner params header body) args keywords) text

/-- A hit is no plain mention, and a direct call only of what the expression stands for. -/
def Hit.IsReached (e : Expr) (hit : Hit) : Prop :=
  hit.route ≠ .aliasReference ∧ (hit.route = .directCall → e.StandsFor hit.name)

theorem Hit.isReached_of_isIndirect {hit : Hit} (h : hit.route.IsIndirect) (e : Expr) :
    hit.IsReached e :=
  ⟨h.1, fun direct => absurd direct h.2⟩

theorem Hit.IsReached.throughAttribute {hit : Hit} {n : Expr} (h : hit.IsReached n) (e : Expr) :
    hit.throughAttribute.IsReached e := by
  unfold Hit.throughAttribute
  split
  · exact isReached_of_isIndirect (by simp [Hit.via, Route.IsIndirect]) e
  · next direct => exact isReached_of_isIndirect ⟨h.1, direct⟩ e

/-! ## One step -/

/-- How a hit of an expression comes about, in one step from what stands inside. -/
inductive Hit.Arises (policy : Policy) (e : Expr) (hit : Hit) : Prop where
  /-- The expression itself spells the operation, or looks up a name that is not known. -/
  | own (about : hit.About policy e) (reached : hit.IsReached e)
  /-- A key that is looked up spells it. -/
  | key {n} (inside : n.IsInside e) (about : hit.About policy n) (indirect : hit.route.IsIndirect)
  /-- It is seen by another route. -/
  | via {n found route} (inside : n.IsInside e) (h : found ∈ reference policy n)
      (indirect : Route.IsIndirect route) (same : hit = found.via route)
  /-- It is seen through an attribute. -/
  | through {n found} (inside : n.IsInside e) (h : found ∈ reference policy n)
      (same : hit = found.throughAttribute)
  /-- The expression may be what stands inside. -/
  | passed {n} (inside : n.IsInside e) (h : hit ∈ reference policy n)
      (stands : ∀ {text}, n.StandsFor text → e.StandsFor text)
  /-- It is drawn from a container. -/
  | member {n} (inside : n.IsInside e) (h : hit ∈ members policy n)

namespace Hit.Arises

variable {hit : Hit}

theorem ofSubscript {mark : Mark} {value index : Expr}
    (h : hit ∈ reference policy (.subscript mark value index)) :
    hit.Arises policy (.subscript mark value index) := by
  rw [reference_subscript] at h
  split at h
  · obtain ⟨base, hb, h⟩ := List.mem_flatMap.1 h
    have hb : base.IsInside (.subscript mark value index) :=
      Expr.isInside_base.of_mem_subterms (mem_subterms_of_mem_candidates hb)
    split at h
    · exact .member hb h
    · obtain ⟨s, hs, h⟩ := List.mem_flatMap.1 h
      obtain ⟨found, hf, rfl⟩ := List.mem_map.1 h
      have hs := hb.of_mem_subterms (isInside_of_mem_selected hs).mem_subterms
      exact .via hs hf (isIndirect_selectionRoute base) rfl
  · have hk := Option.mem_toList.1 h
    exact .key Expr.isInside_index (about_of_mem_keyHit hk) (isIndirect_of_mem_keyHit hk)

theorem ofLookupKeys {e func : Expr} {args : List Expr} (inside : ∀ a ∈ args, a.IsInside e)
    (h : hit ∈ lookupKeys policy func args) : hit.Arises policy e := by
  obtain ⟨a, ha, about⟩ := about_of_mem_lookupKeys h
  exact .key (inside a ha) about (isIndirect_of_mem_lookupKeys h)

theorem ofResultHits {mark : Mark} {func : Expr} {args : List Expr}
    {keywords : List (Keyword Expr)} (h : hit ∈ resultHits policy func args) :
    hit.Arises policy (.call mark func args keywords) := by
  unfold resultHits at h
  split at h
  · exact .passed (Expr.isInside_func.of_mem_subterms Expr.isInside_body.mem_subterms) h .applied
  · split at h
    · refine ofLookupKeys (fun a ha => ?_) h
      exact Expr.isInside_func.of_mem_subterms (Expr.isInside_arg ha).mem_subterms
    · cases h
  · split at h
    · obtain ⟨s, hs, h⟩ := List.mem_flatMap.1 h
      obtain ⟨found, hf, rfl⟩ := List.mem_map.1 h
      have hs := isInside_of_mem_methodValues hs
      refine .via (Expr.isInside_func.of_mem_subterms hs.mem_subterms) hf ?_ rfl
      simp [Route.IsIndirect]
    · split at h
      · obtain ⟨a, ha, h⟩ := List.mem_flatMap.1 h
        exact .member (Expr.isInside_arg ha) h
      · exact ofLookupKeys (fun a => Expr.isInside_arg) (mem_lookupKeys_of_mem_resultKeys h)

theorem ofCall {mark : Mark} {func : Expr} {args : List Expr} {keywords : List (Keyword Expr)}
    (h : hit ∈ reference policy (.call mark func args keywords)) :
    hit.Arises policy (.call mark func args keywords) := by
  rw [reference_call] at h
  split at h
  · next helper =>
    rcases mem_computed h with ⟨found, hf, rfl⟩ | ⟨route, a, ha, about⟩ | ⟨-, rfl⟩
    · obtain ⟨a, ha, hf⟩ := List.mem_flatMap.1 hf
      exact .via (Expr.isInside_arg ha) hf (by simp [Route.IsIndirect]) rfl
    · exact .key (Expr.isInside_arg ha) about (by simp [route, Route.IsIndirect])
    · exact .own (.unknown rfl helper rfl)
        (isReached_of_isIndirect (by simp [Route.IsIndirect]) _)
  · exact ofResultHits h

theorem ofMem {e : Expr} (h : hit ∈ reference policy e) : hit.Arises policy e := by
  cases e with
  | name mark text =>
    rw [reference] at h
    split at h
    · next forbidden =>
      obtain rfl := List.mem_singleton.1 h
      exact .own (.spelled rfl (.name forbidden)) ⟨by simp, fun _ => .name⟩
    · cases h
  | «attribute» mark value attr =>
    rw [reference] at h
    split at h
    · next forbidden =>
      obtain rfl := List.mem_singleton.1 h
      exact .own (.spelled rfl (.attribute forbidden))
        (isReached_of_isIndirect (by simp [Route.IsIndirect]) _)
    · obtain ⟨found, hf, rfl⟩ := List.mem_map.1 h
      exact .through Expr.isInside_owner hf rfl
  | subscript mark value index => exact ofSubscript h
  | call mark func args keywords => exact ofCall h
  | branch mark tests values =>
    rw [reference_branch] at h
    obtain ⟨v, hv, h⟩ := List.mem_flatMap.1 h
    exact .passed (Expr.isInside_branchValue hv) h (.branch hv)
  | _ => simp [reference] at h

end Hit.Arises

/-- What a container holds is found inside of it, as a value or among the members of a part. -/
theorem exists_of_mem_members {e : Expr} {hit : Hit} (h : hit ∈ members policy e) :
    ∃ n found, n.IsInside e ∧ (found ∈ reference policy n ∨ found ∈ members policy n) ∧
      hit = found.via .containerIndirection := by
  rw [members_eq] at h
  obtain ⟨c, hc, h⟩ := List.mem_flatMap.1 h
  obtain ⟨part, hp, h⟩ := List.mem_flatMap.1 h
  have inside := isInside_of_mem_parts hc hp
  cases part with
  | value v =>
    obtain ⟨found, hf, rfl⟩ := List.mem_map.1 h
    exact ⟨v, found, inside, .inl hf, rfl⟩
  | contents v =>
    obtain ⟨found, hf, rfl⟩ := List.mem_map.1 h
    exact ⟨v, found, inside, .inr hf, rfl⟩

theorem route_of_mem_members {e : Expr} {hit : Hit} (h : hit ∈ members policy e) :
    hit.route = .containerIndirection := by
  obtain ⟨_, _, -, -, rfl⟩ := exists_of_mem_members h
  rfl

theorem isIndirect_of_mem_members {e : Expr} {hit : Hit} (h : hit ∈ members policy e) :
    hit.route.IsIndirect := by
  simp [route_of_mem_members h, Route.IsIndirect]

/-! ## All hits of an expression -/

/-- Every hit that is found for the expression is about a part of it. -/
def Rooted (policy : Policy) (e : Expr) : Prop :=
  (∀ hit ∈ reference policy e, hit.StemsFrom policy e) ∧
    ∀ hit ∈ members policy e, hit.StemsFrom policy e

/-- Whatever is followed stays inside the expression, so every hit is about a part of it. -/
theorem rooted (e : Expr) : Rooted policy e := by
  -- Not on the children alone: a subscript or a method is followed to entries further down.
  induction e using Expr.byInside with
  | step e ih =>
    constructor
    · intro hit h
      cases Hit.Arises.ofMem h with
      | own about _ => exact about.stemsFrom
      | key inside about _ => exact about.stemsFrom.ofInside inside
      | via inside h _ same => exact same ▸ (((ih _ inside).1 _ h).via _).ofInside inside
      | through inside h same =>
        exact same ▸ ((ih _ inside).1 _ h).throughAttribute.ofInside inside
      | passed inside h _ => exact ((ih _ inside).1 hit h).ofInside inside
      | member inside h => exact ((ih _ inside).2 hit h).ofInside inside
    · intro hit h
      obtain ⟨n, found, inside, hf | hf, rfl⟩ := exists_of_mem_members h
      · exact (((ih n inside).1 found hf).via _).ofInside inside
      · exact (((ih n inside).2 found hf).via _).ofInside inside

theorem isReached_of_mem_reference {e : Expr} {hit : Hit} (h : hit ∈ reference policy e) :
    hit.IsReached e := by
  induction e using Expr.byInside generalizing hit with
  | step e ih =>
    cases Hit.Arises.ofMem h with
    | own _ reached => exact reached
    | key _ _ indirect => exact Hit.isReached_of_isIndirect indirect e
    | via inside h indirect same =>
      subst same
      exact Hit.isReached_of_isIndirect indirect e
    | through inside h same => exact same ▸ (ih _ inside h).throughAttribute e
    | passed inside h stands =>
      obtain ⟨mention, direct⟩ := ih _ inside h
      exact ⟨mention, fun route => stands (direct route)⟩
    | member _ h => exact Hit.isReached_of_isIndirect (isIndirect_of_mem_members h) e

end Tree

end SourceGate
