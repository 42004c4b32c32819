import SourceGate.Proofs.Policy.Name
import SourceGate.Proofs.Verdict.Reach
import SourceGate.Proofs.Verdict.Silence

/-! # Relaxing a policy

A policy that allows more and forbids less may find what the stricter one did not: a name that was
reported can have hidden a lookup by a name that is not known. But where the stricter one finds
nothing at all, the other finds nothing. So a module that is accepted stays accepted, and no other
change of the tables keeps every module that is accepted.
-/

namespace SourceGate

/-- Another policy allows as much and forbids no more. -/
structure Policy.IsRelaxedTo (policy other : Policy) : Prop where
  allowed : policy.allowed.names ⊆ other.allowed.names
  forbidden : other.forbidden.names ⊆ policy.forbidden.names

namespace Policy.IsRelaxedTo

variable {policy other : Policy} (relaxed : policy.IsRelaxedTo other)

include relaxed

theorem allows {path : String} (h : policy.allows path = true) : other.allows path = true :=
  allows_iff.2 (relaxed.allowed (allows_iff.1 h))

theorem forbids {operation : String} (h : policy.forbids operation = false) :
    other.forbids operation = false := by
  rw [← Bool.not_eq_true, forbids_iff] at h ⊢
  exact fun forbidden => h (relaxed.forbidden forbidden)

end Policy.IsRelaxedTo

namespace Tree

/-! ## Lists that are empty with others -/

/-- The second list is empty if the first is. -/
def EmptyWith {α β : Type} (xs : List α) (ys : List β) : Prop := xs = [] → ys = []

namespace EmptyWith

variable {α β γ δ : Type} {xs xs' : List α} {ys ys' : List β}

theorem nil (xs : List α) : EmptyWith xs ([] : List β) := fun _ => rfl

theorem append (h : EmptyWith xs ys) (h' : EmptyWith xs' ys') :
    EmptyWith (xs ++ xs') (ys ++ ys') := by
  intro empty
  obtain ⟨first, second⟩ := List.append_eq_nil_iff.1 empty
  rw [h first, h' second, List.append_nil]

theorem map (f : α → γ) (g : β → δ) (h : EmptyWith xs ys) :
    EmptyWith (xs.map f) (ys.map g) := by
  intro empty
  rw [h (List.map_eq_nil_iff.1 empty), List.map_nil]

theorem flatMap {items : List γ} {f : γ → List α} {g : γ → List β}
    (h : ∀ x ∈ items, EmptyWith (f x) (g x)) : EmptyWith (items.flatMap f) (items.flatMap g) := by
  intro empty
  rw [List.flatMap_eq_nil_iff] at empty ⊢
  exact fun x hx => h x hx (empty x hx)

theorem ite {c : Prop} [Decidable c] (h : c → EmptyWith xs ys) (h' : ¬c → EmptyWith xs' ys') :
    EmptyWith (if c then xs else xs') (if c then ys else ys') := by
  by_cases hc : c
  · simpa only [if_pos hc] using h hc
  · simpa only [if_neg hc] using h' hc

/-- Two lists that are there as long as their tests hold. -/
theorem single {b b' : Bool} (h : b = false → b' = false) (x : α) (y : β) :
    EmptyWith (if b then [x] else []) (if b' then [y] else []) := by
  cases b with
  | false => simp [EmptyWith, h rfl]
  | true => simp [EmptyWith]

/-- The first choice unless it is empty, and then the second. -/
theorem orElse (h : EmptyWith xs ys) (h' : EmptyWith xs' ys') :
    EmptyWith (if !xs.isEmpty then xs else xs') (if !ys.isEmpty then ys else ys') := by
  intro empty
  cases xs with
  | cons x rest => cases empty
  | nil =>
    rw [h rfl]
    exact h' empty

end EmptyWith

variable {policy other : Policy} {bound : Bound}

section Relaxed

variable (relaxed : policy.IsRelaxedTo other)

include relaxed

/-! ## Following -/

theorem keyHit_emptyWith (key : Expr) :
    EmptyWith (keyHit policy key).toList (keyHit other key).toList := by
  unfold keyHit
  cases staticText? key with
  | none => exact .nil _
  | some text =>
    cases h : policy.forbids text with
    | false => simp [EmptyWith, relaxed.forbids h]
    | true => simp [EmptyWith, h]

theorem keyHits_emptyWith (route : Route) (args : List Expr) :
    EmptyWith ((args.filterMap (keyHit policy)).map (Hit.via route))
      ((args.filterMap (keyHit other)).map (Hit.via route)) := by
  have listed (policy : Policy) :
      args.filterMap (keyHit policy) = args.flatMap fun a => (keyHit policy a).toList := by
    rw [List.filterMap_eq_flatMap_toList]
  rw [listed, listed]
  exact .map _ _ (.flatMap fun a _ => keyHit_emptyWith relaxed a)

theorem lookupKeys_emptyWith (func : Expr) (args : List Expr) :
    EmptyWith (lookupKeys policy func args) (lookupKeys other func args) := by
  unfold lookupKeys
  cases lookupRoute? func with
  | none => exact .nil _
  | some route => exact .ite (fun _ => .nil _) fun _ => keyHits_emptyWith relaxed route args

theorem resultKeys_emptyWith (func : Expr) (args : List Expr) :
    EmptyWith (resultKeys policy func args) (resultKeys other func args) := by
  have keys := lookupKeys_emptyWith relaxed func args
  unfold resultKeys
  split
  · exact .ite (fun _ => keys) fun _ => .nil _
  · exact keys

/-- A name that is not known is no hit only where there is another, so nothing can be hidden by what
is forbidden no more. -/
theorem computed_emptyWith {reached reached' : List Hit} (h : EmptyWith reached reached')
    (func : Expr) (args : List Expr) (isCalled : Bool) :
    EmptyWith (computed policy reached func args isCalled)
      (computed other reached' func args isCalled) := by
  have hits := (h.map (Hit.via .computedName) (Hit.via .computedName)).append
    (keyHits_emptyWith relaxed .computedName args)
  unfold computed namedHits
  intro silent
  dsimp only at silent ⊢
  split at silent
  · cases silent
  · next known =>
    rw [silent] at known
    rw [hits silent, if_neg known]

/-- Where following an expression finds nothing under one policy, it finds nothing under the other.
-/
structure FollowedWith (policy other : Policy) (e : Expr) : Prop where
  reference : EmptyWith (reference policy e) (reference other e)
  members : EmptyWith (members policy e) (members other e)

theorem resultHits_emptyWith {func : Expr} {args : List Expr} {e : Expr}
    (inside : ∀ n, n.IsInside e → FollowedWith policy other n) (hf : func.IsInside e)
    (ha : ∀ a ∈ args, a.IsInside e) :
    EmptyWith (resultHits policy func args) (resultHits other func args) := by
  unfold resultHits
  split
  · exact (inside _ (hf.of_mem_subterms Expr.isInside_body.mem_subterms)).reference
  · exact .ite (fun _ => lookupKeys_emptyWith relaxed _ _) fun _ => .nil _
  · have found : EmptyWith (methodHits policy func args) (methodHits other func args) :=
      .flatMap fun s hs => .map _ _
        (inside s (hf.of_mem_subterms (isInside_of_mem_methodValues hs).mem_subterms)).reference
    exact found.orElse (.ite (fun _ => .flatMap fun a h => (inside a (ha a h)).members)
      fun _ => resultKeys_emptyWith relaxed _ _)

theorem reference_emptyWith {e : Expr} (inside : ∀ n, n.IsInside e → FollowedWith policy other n) :
    EmptyWith (reference policy e) (reference other e) := by
  cases e with
  | name mark text =>
    rw [reference, reference]
    exact .single relaxed.forbids _ _
  | «attribute» mark value attr =>
    rw [reference, reference]
    have owner := (inside value Expr.isInside_owner).reference
    cases h : policy.forbids attr with
    | true => simp [EmptyWith]
    | false =>
      rw [relaxed.forbids h]
      exact owner.map _ _
  | subscript mark value index =>
    rw [reference_subscript, reference_subscript]
    refine .ite (fun _ => .flatMap fun base hb => ?_) fun _ => keyHit_emptyWith relaxed index
    have hb : base.IsInside (.subscript mark value index) :=
      Expr.isInside_base.of_mem_subterms (mem_subterms_of_mem_candidates hb)
    refine .ite (fun _ => (inside base hb).members) fun _ => .flatMap fun s hs => .map _ _ ?_
    exact (inside s (hb.of_mem_subterms (isInside_of_mem_selected hs).mem_subterms)).reference
  | call mark func args keywords =>
    rw [reference_call, reference_call]
    refine .ite (fun _ => computed_emptyWith relaxed (.flatMap fun a ha => ?_) func args true)
      fun _ => resultHits_emptyWith relaxed inside Expr.isInside_func fun a => Expr.isInside_arg
    exact (inside a (Expr.isInside_arg ha)).reference
  | branch mark tests values =>
    rw [reference_branch, reference_branch]
    exact .flatMap fun v hv => (inside v (Expr.isInside_branchValue hv)).reference
  | _ => simp [reference, EmptyWith]

theorem followedWith (e : Expr) : FollowedWith policy other e := by
  induction e using Expr.byInside with
  | step e inside =>
    refine ⟨reference_emptyWith relaxed inside, ?_⟩
    rw [members_eq, members_eq]
    refine .flatMap fun c hc => .flatMap fun part hp => ?_
    have within := isInside_of_mem_parts hc hp
    cases part with
    | value v => exact .map _ _ (inside v within).reference
    | contents v => exact .map _ _ (inside v within).members

/-! ## Walking -/

theorem memberFindings_emptyWith (e : Expr) :
    EmptyWith (memberFindings policy e) (memberFindings other e) :=
  .map _ _ (followedWith relaxed e).members

theorem callFindings_emptyWith (place : Location) (func : Expr) (args : List Expr) :
    EmptyWith (callFindings policy place func args) (callFindings other place func args) := by
  have reached : EmptyWith (args.flatMap (reference policy)) (args.flatMap (reference other)) :=
    .flatMap fun a _ => (followedWith relaxed a).reference
  refine .map _ _ (.append (.append (followedWith relaxed func).reference ?_)
    (lookupKeys_emptyWith relaxed func args))
  exact .ite (fun _ => computed_emptyWith relaxed reached func args false) fun _ => .nil _

theorem importFindings_emptyWith (place : Location) (path : String) :
    EmptyWith (importFindings policy place path) (importFindings other place path) := by
  unfold importFindings
  cases h : policy.allows path with
  | false => simp [EmptyWith]
  | true => simp [EmptyWith, relaxed.allows h]

theorem Expr.ownFindings_emptyWith (p : Position) (e : Expr) :
    EmptyWith (e.ownFindings policy bound p) (e.ownFindings other bound p) := by
  cases e with
  | name mark text =>
    refine .single (fun h => ?_) _ _
    cases forbidden : policy.forbids text with
    | false => simp [relaxed.forbids forbidden]
    | true =>
      rw [forbidden, Bool.and_true] at h
      rw [Bool.and_right_comm, h, Bool.false_and]
  | «attribute» mark value attr => exact .single relaxed.forbids _ _
  | subscript mark value index =>
    exact .ite (fun _ => .nil _) fun _ => .map _ _ (keyHit_emptyWith relaxed index)
  | call mark func args keywords => exact callFindings_emptyWith relaxed mark.place func args
  | comprehension mark elements clauses =>
    exact .flatMap fun c _ => memberFindings_emptyWith relaxed c.iter
  | _ => exact .nil _

theorem Stmt.ownFindings_emptyWith (s : Stmt) :
    EmptyWith (s.ownFindings policy) (s.ownFindings other) := by
  cases s with
  | imports place modules => exact .flatMap fun path _ => importFindings_emptyWith relaxed _ path
  | importsFrom place source level names => exact importFindings_emptyWith relaxed place _
  | assign place targets value =>
    exact .flatMap fun _ _ =>
      .ite (fun _ => memberFindings_emptyWith relaxed value) fun _ => .nil _
  | loop place target iter body orelse => exact memberFindings_emptyWith relaxed iter
  | unsupported place => exact id
  | _ => exact .nil _

end Relaxed

/-! ## Modules -/

variable {root : List Stmt}

/-- A module is accepted if nothing is found at any of its statements and expressions. -/
theorem accepts_iff_ownFindings_eq_nil :
    accepts policy root = true ↔
      (∀ {frames s}, StmtAt root frames s → s.ownFindings policy = []) ∧
        ∀ {frames p e}, ExprAt root frames p e →
          e.ownFindings policy (recordedNames frames) p = [] := by
  simp only [accepts_iff_findings_eq_nil, List.eq_nil_iff_forall_not_mem, mem_stmtsFindings_iff,
    FoundAt, not_or, not_exists, not_and]
  constructor
  · rintro h
    exact ⟨fun hs f => (h f).1 _ _ hs, fun he f => (h f).2 _ _ _ he⟩
  · rintro ⟨stmts, exprs⟩ f
    exact ⟨fun _ _ hs => stmts hs f, fun _ _ _ he => exprs he f⟩

theorem accepts_of_isRelaxedTo (relaxed : policy.IsRelaxedTo other)
    (h : accepts policy root = true) : accepts other root = true := by
  rw [accepts_iff_ownFindings_eq_nil] at h ⊢
  exact ⟨fun hs => Stmt.ownFindings_emptyWith relaxed _ (h.1 hs),
    fun he => Expr.ownFindings_emptyWith relaxed _ _ (h.2 he)⟩

theorem accepts_import_iff (place : Location) {name : String} (valid : isPolicyName name = true) :
    accepts policy [.imports place [name]] = true ↔ name ∈ policy.allowed.names := by
  have root := Policy.moduleRoot_of_isPolicyName valid
  rw [accepts_iff_findings_eq_nil, ← root, ← Policy.allows_iff, root]
  simp [stmtsFindings, stmtFindings, importFindings]

theorem accepts_mention_iff (mark : Mark) (name : String) :
    accepts policy [.block mark.place [.name mark name] []] = true ↔
      name ∉ policy.forbidden.names := by
  rw [accepts_iff_findings_eq_nil, ← Policy.forbids_iff]
  simp [stmtsFindings, stmtFindings, exprsFindings, exprFindings, bodiesFindings]

/-- Relaxing a policy, and nothing but relaxing it, keeps every module that is accepted. -/
theorem isRelaxedTo_iff_accepts (policy other : Policy) :
    policy.IsRelaxedTo other ↔
      ∀ root, accepts policy root = true → accepts other root = true := by
  refine ⟨fun relaxed root => accepts_of_isRelaxedTo relaxed, fun keeps => ⟨?_, ?_⟩⟩
  · intro name allowed
    have valid := policy.allowed.valid name allowed
    rw [← accepts_import_iff ⟨1, 1⟩ valid] at allowed ⊢
    exact keeps _ allowed
  · intro name forbidden
    by_contra free
    rw [← accepts_mention_iff ⟨0, ⟨1, 1⟩⟩] at free
    exact (accepts_mention_iff ⟨0, ⟨1, 1⟩⟩ name).1 (keeps _ free) forbidden

/-- The violations themselves do not become fewer: in `getattr(eval, name)()` the lookup is reported
once its argument is not. -/
example :
    let strict : Policy := ⟨.empty, Policy.namesOf ["eval", "exec"], by decide⟩
    let other : Policy := ⟨.empty, Policy.namesOf ["exec"], by decide⟩
    let body := [.block ⟨1, 1⟩ [.call ⟨0, ⟨1, 1⟩⟩
      (.call ⟨1, ⟨1, 1⟩⟩ (.name ⟨2, ⟨1, 1⟩⟩ "getattr")
        [.name ⟨3, ⟨1, 9⟩⟩ "eval", .name ⟨4, ⟨1, 15⟩⟩ "name"] []) [] []] []]
    (violations strict body).map (·.target) = ["eval"] ∧
      (violations other body).map (·.target) = [dynamicTarget] := by
  decide +kernel

end Tree

end SourceGate
