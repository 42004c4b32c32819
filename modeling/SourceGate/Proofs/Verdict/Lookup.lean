import SourceGate.Proofs.Verdict.Reach
import SourceGate.Proofs.Verdict.Surface

/-! # Lookups by a forbidden key

Where a key folds to the name of a forbidden operation, an accepted module looks it up in a display
and nowhere else, and what the display has written at the key is followed if the result is called.
A mapping that is splatted into the display is not written there, and a key that a method is given
by its name is not looked at: these two lookups pass, though the base may hold anything.
-/

namespace SourceGate.Tree

variable {policy : Policy} {bound : Bound} {root : List Stmt}

/-! ## What is looked up -/

/-- Methods that take a key. -/
def keyMethods : List String := ["get", "pop", "setdefault", "__getitem__"]

/-- A lookup by a key: `base[key]`, or a call of a key method of `base`. Every argument of such a
call counts, as in `dict.get(base, key)`; the method may also be given the key by its name. -/
inductive Lookup (base key : Expr) : (byName : Bool) → Expr → Prop where
  | item {mark} : Lookup base key false (.subscript mark base key)
  | method {mark inner attr args keywords} (name : attr ∈ keyMethods) (arg : key ∈ args) :
      Lookup base key false (.call mark (.attribute inner base attr) args keywords)
  | named {mark inner attr args keywords} (name : attr ∈ keyMethods)
      (arg : ⟨some "key", key⟩ ∈ keywords) :
      Lookup base key true (.call mark (.attribute inner base attr) args keywords)

namespace Expr

/-- A display into which a splat or a star puts what is not written there. Which items are stars is
for the text to say: they are lowered like other forms that are not modelled. -/
def isOpen (isStar : Expr → Bool) : Expr → Bool
  | .list _ items | .tuple _ items | .set _ items => items.any isStar
  | .dict _ entries => entries.any (·.1.isNone)
  | _ => false

/-- A display whose contents are all written out. -/
def isClosed (isStar : Expr → Bool) (e : Expr) : Bool := e.isDisplay && !e.isOpen isStar

/-- What a lookup finds written at its key. -/
def taken : Expr → List Expr
  | .subscript _ base key => selected base key
  | .call _ (.attribute _ base attr) (key :: _) _ =>
    if attr ∈ keyMethods then dictValues base key else []
  | _ => []

end Expr

/-! ## Key methods -/

section KeyMethods

variable {mark : Mark} {base key : Expr} {rest : List Expr} {attr : String}

theorem mem_keyMethods_iff : attr ∈ keyMethods ↔
    attr = "get" ∨ attr = "pop" ∨ attr = "setdefault" ∨ attr = "__getitem__" := by
  simp [keyMethods]

theorem lookupRoute?_of_mem_keyMethods (h : attr ∈ keyMethods) :
    (lookupRoute? (.attribute mark base attr)).isSome = true := by
  rcases mem_keyMethods_iff.1 h with rfl | rfl | rfl | rfl <;> rfl

theorem isNameHelper_of_mem_keyMethods (h : attr ∈ keyMethods) :
    isNameHelper (.attribute mark base attr) = false := by
  rcases mem_keyMethods_iff.1 h with rfl | rfl | rfl | rfl <;> rfl

theorem methodValues_of_mem_keyMethods (h : attr ∈ keyMethods) :
    methodValues (.attribute mark base attr) (key :: rest) = dictValues base key := by
  rcases mem_keyMethods_iff.1 h with rfl | rfl | rfl | rfl <;> rfl

end KeyMethods

/-! ## What silence means for a lookup -/

theorem keyHit_eq_none_iff {key : Expr} :
    keyHit policy key = none ↔ ∀ text ∈ staticText? key, policy.forbids text = false := by
  unfold keyHit
  cases staticText? key with
  | none => simp
  | some text => simp

theorem callFindings_eq_nil_iff {place : Location} {func : Expr} {args : List Expr} :
    callFindings policy place func args = [] ↔
      reference policy func = [] ∧
        (isNameHelper func = true →
          computed policy (args.flatMap (reference policy)) func args false = []) ∧
        lookupKeys policy func args = [] := by
  simp only [callFindings, Finding.ofHits, List.map_eq_nil_iff, List.append_eq_nil_iff, and_assoc]
  refine and_congr_right fun _ => and_congr_left fun _ => ?_
  split <;> simp_all

/-- A lookup that is not passed over reports its forbidden keys. -/
theorem keyHit_eq_none_of_lookupKeys {func key : Expr} {args : List Expr}
    (h : lookupKeys policy func args = []) (lookup : (lookupRoute? func).isSome = true)
    (other : isDisplayMethod func = false) (hk : key ∈ args) : keyHit policy key = none := by
  obtain ⟨route, hr⟩ := Option.isSome_iff_exists.1 lookup
  simp only [lookupKeys, hr, other, Bool.false_eq_true, if_false, List.map_eq_nil_iff,
    List.filterMap_eq_nil_iff] at h
  exact h key hk

section Silent

variable {p : Position} {e base key : Expr}

theorem callFindings_of_silent {mark : Mark} {func : Expr} {args : List Expr}
    {keywords : List (Keyword Expr)}
    (h : exprFindings policy bound p (.call mark func args keywords) = []) :
    callFindings policy mark.place func args = [] := by
  simp only [exprFindings, List.append_eq_nil_iff] at h
  exact h.1.1.1

/-- A key that is handed over by its place is looked at unless the base is a display. -/
theorem isDisplay_of_silent {text : String} (h : exprFindings policy bound p e = [])
    (lookup : Lookup base key false e) (folds : staticText? key = some text)
    (forbidden : policy.forbids text = true) : base.isDisplay = true := by
  rw [← Bool.not_eq_false]
  intro other
  suffices allowed : policy.forbids text = false by simp [allowed] at forbidden
  cases lookup with
  | item => exact forbids_key_of_silent h other folds
  | method name arg =>
    have silent := (callFindings_eq_nil_iff.1 (callFindings_of_silent h)).2.2
    have unseen :=
      keyHit_eq_none_of_lookupKeys silent (lookupRoute?_of_mem_keyMethods name) other arg
    exact keyHit_eq_none_iff.1 unseen text folds

/-- What a subscript of a display selects is among what the subscript may be. -/
theorem reference_eq_nil_of_mem_selected {mark : Mark} {s : Expr}
    (h : reference policy (.subscript mark base key) = []) (hs : s ∈ selected base key) :
    reference policy s = [] := by
  have hb : base ∈ candidates base := by
    rw [candidates_of_isDisplay (isDisplay_of_mem_selected hs)]
    exact List.mem_singleton_self base
  refine List.eq_nil_iff_forall_not_mem.2 fun hit hh => ?_
  exact List.not_mem_nil (h ▸ via_mem_reference_subscript hb hs hh)

theorem reference_eq_nil_of_mem_dictValues {mark inner : Mark} {attr : String} {rest : List Expr}
    {keywords : List (Keyword Expr)} {s : Expr}
    (h : reference policy (.call mark (.attribute inner base attr) (key :: rest) keywords) = [])
    (name : attr ∈ keyMethods) (hs : s ∈ dictValues base key) : reference policy s = [] := by
  have hs : s ∈ methodValues (.attribute inner base attr) (key :: rest) := by
    rwa [methodValues_of_mem_keyMethods name]
  refine List.eq_nil_iff_forall_not_mem.2 fun hit hh => ?_
  exact List.not_mem_nil
    (h ▸ via_mem_reference_method (isNameHelper_of_mem_keyMethods name) hs hh)

theorem reference_eq_nil_of_mem_taken {s : Expr} (h : reference policy e = [])
    (hs : s ∈ e.taken) : reference policy s = [] := by
  unfold Expr.taken at hs
  split at hs
  · exact reference_eq_nil_of_mem_selected h hs
  · split at hs
    · next name => exact reference_eq_nil_of_mem_dictValues h name hs
    · cases hs
  · cases hs

end Silent

/-! ## The module as a whole -/

/-- Lookups by a forbidden key are made on displays whose contents are all written out. -/
def KeysWrittenOut (isStar : Expr → Bool) (policy : Policy) (root : List Stmt) : Prop :=
  ∀ {frames p e base key byName text}, ExprAt root frames p e → Lookup base key byName e →
    staticText? key = some text → policy.forbids text = true → base.isClosed isStar = true

/-- What is known of the lookups of a module. -/
structure KeysFollowed (isStar : Expr → Bool) (policy : Policy) (root : List Stmt) : Prop where
  /-- The base of a lookup by a forbidden key is a display, written out but for splats and stars;
  what has a method that is given such a key by its name is left open. -/
  bases : ∀ {frames p e base key byName text}, ExprAt root frames p e → Lookup base key byName e →
    staticText? key = some text → policy.forbids text = true →
      base.isClosed isStar = true ∨ base.isOpen isStar = true ∨ byName = true
  /-- Where the result of a lookup is called, all that is written at its key is followed. -/
  taken : ∀ {frames p mark e args keywords}, ExprAt root frames p (.call mark e args keywords) →
    ∀ s ∈ e.taken, reference policy s = []

theorem accepted_keys_followed (isStar : Expr → Bool) (h : accepts policy root = true) :
    KeysFollowed isStar policy root where
  bases {frames p e base key byName text} he lookup folds forbidden := by
    cases byName with
    | true => exact .inr (.inr rfl)
    | false =>
      have display := isDisplay_of_silent (he.exprFindings_eq_nil h) lookup folds forbidden
      cases written : base.isOpen isStar with
      | true => exact .inr (.inl rfl)
      | false => exact .inl (by simp [Expr.isClosed, display, written])
  taken he s hs :=
    have silent := callFindings_of_silent (he.exprFindings_eq_nil h)
    reference_eq_nil_of_mem_taken (callFindings_eq_nil_iff.1 silent).1 hs

/-- `{"eval": print}["eval"]("x")`: the display has all that the key may select. -/
def writtenOut : List Stmt :=
  [.block ⟨1, 1⟩
    [.call ⟨0, ⟨1, 1⟩⟩
      (.subscript ⟨1, ⟨1, 1⟩⟩
        (.dict ⟨2, ⟨1, 1⟩⟩ [(some (.str ⟨3, ⟨1, 2⟩⟩ "eval"), .name ⟨4, ⟨1, 10⟩⟩ "print")])
        (.str ⟨5, ⟨1, 17⟩⟩ "eval"))
      [.str ⟨6, ⟨1, 25⟩⟩ "x"] []] []]

theorem writtenOut_keys_followed :
    accepts .standard writtenOut = true ∧ KeysFollowed (fun _ => false) .standard writtenOut := by
  have h : accepts .standard writtenOut = true := by decide +kernel
  exact ⟨h, accepted_keys_followed _ h⟩

/-- `x = {**table}["eval"]`. -/
def splattedTable : List Stmt :=
  [.assign ⟨1, 1⟩ [.name ⟨0, ⟨1, 1⟩⟩ "x"]
    (.subscript ⟨1, ⟨1, 5⟩⟩ (.dict ⟨2, ⟨1, 5⟩⟩ [(none, .name ⟨3, ⟨1, 8⟩⟩ "table")])
      (.str ⟨4, ⟨1, 15⟩⟩ "eval"))]

/-- `x = table.get(key="eval")`. -/
def keyByName : List Stmt :=
  [.assign ⟨1, 1⟩ [.name ⟨0, ⟨1, 1⟩⟩ "x"]
    (.call ⟨1, ⟨1, 5⟩⟩ (.attribute ⟨2, ⟨1, 5⟩⟩ (.name ⟨3, ⟨1, 5⟩⟩ "table") "get") []
      [⟨some "key", .str ⟨4, ⟨1, 19⟩⟩ "eval"⟩])]

/-- Whatever counts as a star, two lookups are let through whose base is not written out. -/
theorem accepted_key_not_written_out :
    (accepts .standard splattedTable = true ∧
        ∀ isStar, ¬KeysWrittenOut isStar .standard splattedTable) ∧
      accepts .standard keyByName = true ∧
        ∀ isStar, ¬KeysWrittenOut isStar .standard keyByName := by
  have forbidden : Policy.standard.forbids "eval" = true := by decide +kernel
  refine ⟨⟨by decide +kernel, fun isStar h => ?_⟩, ⟨by decide +kernel, fun isStar h => ?_⟩⟩
  · cases h (.held (.top List.mem_cons_self) .assigned) .item rfl forbidden
  · cases h (.held (.top List.mem_cons_self) .assigned)
      (.named (by decide) List.mem_cons_self) rfl forbidden

end SourceGate.Tree
