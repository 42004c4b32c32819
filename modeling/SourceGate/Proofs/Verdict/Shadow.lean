import SourceGate.Proofs.Verdict.Leaves
import SourceGate.Proofs.Verdict.Listing
import SourceGate.Proofs.Verdict.Opening

/-! # Names that a scope binds

A forbidden name that a recorded scope binds is no plain mention. But callees, the arguments of
lookups by name and what is iterated over or unpacked are followed without regard to scopes: the
name is reported exactly where one of these comes to it, and only from a form that opens it.
-/

namespace SourceGate.Tree

variable {policy : Policy} {root : List Stmt} {frames frames' : List Frame} {p q : Position}
  {e n : Expr} {f : Finding} {leaf : Nat}

/-- A violation is about an expression. -/
def IsReported (policy : Policy) (root : List Stmt) (leaf : Nat) : Prop :=
  ∃ f ∈ reported policy root, f.leaf = some leaf

/-- A hit of an expression is about another. -/
def Refers (policy : Policy) (e : Expr) (leaf : Nat) : Prop :=
  ∃ hit ∈ reference policy e, hit.leaf = leaf

/-- A hit among the members of a container is about an expression. -/
def Contains (policy : Policy) (e : Expr) (leaf : Nat) : Prop :=
  ∃ hit ∈ members policy e, hit.leaf = leaf

/-- The callee of some call of a module is followed to an expression. -/
def IsCalled (policy : Policy) (root : List Stmt) (leaf : Nat) : Prop :=
  ∃ frames p mark func args keywords, ExprAt root frames p (.call mark func args keywords) ∧
    Refers policy func leaf

/-- A lookup by name takes an expression as argument, or an iteration or an unpacking hands it out,
somewhere in a module. -/
inductive IsHandedOut (policy : Policy) (root : List Stmt) (leaf : Nat) : Prop where
  | argument {frames p mark func args keywords a}
      (he : ExprAt root frames p (.call mark func args keywords))
      (helper : isNameHelper func = true) (ha : a ∈ args) (h : Refers policy a leaf)
  | unpacked {frames place targets value target}
      (hs : StmtAt root frames (.assign place targets value)) (ht : target ∈ targets)
      (display : target.sequenceItems?.isSome = true) (h : Contains policy value leaf)
  | iterated {frames place target iter body orelse}
      (hs : StmtAt root frames (.loop place target iter body orelse))
      (h : Contains policy iter leaf)
  | drawn {frames p mark elements clauses c}
      (he : ExprAt root frames p (.comprehension mark elements clauses)) (hc : c ∈ clauses)
      (h : Contains policy c.iter leaf)

/-! ## From the report -/

theorem contains_of_mem_memberFindings (hf : f ∈ memberFindings policy e)
    (hl : f.leaf = some leaf) : Contains policy e leaf := by
  obtain ⟨hit, hh, rfl⟩ := List.mem_map.1 hf
  exact ⟨hit, hh, Option.some.inj hl⟩

theorem isHandedOut_of_mem_stmt {s : Stmt} (hs : StmtAt root frames s)
    (hf : f ∈ s.ownFindings policy) (hl : f.leaf = some leaf) : IsHandedOut policy root leaf := by
  cases s with
  | assign place targets value =>
    obtain ⟨target, ht, hf⟩ := List.mem_flatMap.1 hf
    split at hf
    · next display => exact .unpacked hs ht display (contains_of_mem_memberFindings hf hl)
    · cases hf
  | loop place target iter body orelse => exact .iterated hs (contains_of_mem_memberFindings hf hl)
  | imports | importsFrom | unsupported =>
    rcases Stmt.blamed_of_mem_ownFindings hf with ⟨none, -⟩ | ⟨e, he, -⟩
    · cases none.symm.trans hl
    · cases he
  | function | classDef | block | declare => cases hf

theorem computed_of_uncalled (reached : List Hit) (func : Expr) (args : List Expr) :
    computed policy reached func args false =
      reached.map (Hit.via .computedName) ++ namedHits policy args := by
  simp [computed]

/-- What an argument of a lookup by name gives is reached by the lookup. -/
theorem via_mem_computed {hit : Hit} {args : List Expr} {a : Expr} (func : Expr) (ha : a ∈ args)
    (h : hit ∈ reference policy a) : hit.via .computedName ∈
      computed policy (args.flatMap (reference policy)) func args false := by
  rw [computed_of_uncalled]
  exact List.mem_append_left _ (List.mem_map_of_mem (List.mem_flatMap.2 ⟨a, ha, h⟩))

section Bound

variable {mark : Mark} {text : String}

/-- The name of a module with distinct identities is no key of a lookup. -/
theorem ExprAt.not_isKey {hit : Hit} (distinct : (ids root).Nodup)
    (he : ExprAt root frames p (.name mark text)) (hn : ExprAt root frames' q n)
    (key : hit.IsKey n) : hit.leaf ≠ mark.id := by
  rintro same
  obtain ⟨leaf, folded, folds⟩ := key
  obtain rfl := he.eq_of_id_eq distinct hn (leaf.trans same)
  cases folds

theorem isCalled_or_isHandedOut_of_mem_call {call : Mark} {func : Expr} {args : List Expr}
    {keywords : List (Keyword Expr)} (distinct : (ids root).Nodup)
    (he : ExprAt root frames p (.name mark text))
    (hc : ExprAt root frames' q (.call call func args keywords))
    (hf : f ∈ callFindings policy call.place func args) (hl : f.leaf = some mark.id) :
    IsCalled policy root mark.id ∨ IsHandedOut policy root mark.id := by
  obtain ⟨hit, hh, rfl⟩ := List.mem_map.1 hf
  have leaf : hit.leaf = mark.id := Option.some.inj hl
  have keyless (h : ∃ a ∈ args, hit.IsKey a) : False := by
    obtain ⟨a, ha, key⟩ := h
    exact he.not_isKey distinct (hc.part (.arg ha)) key leaf
  rcases List.mem_append.1 hh with hh | hh
  · rcases List.mem_append.1 hh with hh | hh
    · exact .inl ⟨_, _, _, _, _, _, hc, hit, hh, leaf⟩
    · split at hh
      · next helper =>
        rw [computed_of_uncalled] at hh
        rcases List.mem_append.1 hh with hh | hh
        · obtain ⟨found, hr, rfl⟩ := List.mem_map.1 hh
          obtain ⟨a, ha, hr⟩ := List.mem_flatMap.1 hr
          exact .inr (.argument hc helper ha ⟨found, hr, leaf⟩)
        · exact (keyless (exists_isKey_of_mem_map hh)).elim
      · cases hh
  · exact (keyless (exists_isKey_of_mem_lookupKeys hh)).elim

theorem isCalled_or_isHandedOut_of_mem_expr (distinct : (ids root).Nodup)
    (he : ExprAt root frames .load (.name mark text)) (bound : text ∈ recordedNames frames)
    (hn : ExprAt root frames' q n) (hf : f ∈ n.ownFindings policy (recordedNames frames') q)
    (hl : f.leaf = some mark.id) :
    IsCalled policy root mark.id ∨ IsHandedOut policy root mark.id := by
  cases n with
  | name other spelled =>
    simp only [Expr.ownFindings] at hf
    split at hf
    · next free =>
      obtain rfl := List.mem_singleton.1 hf
      obtain ⟨rfl, rfl, same⟩ := he.place_unique distinct hn (Option.some.inj hl)
      cases same
      simp [bound] at free
    · cases hf
  | «attribute» other owner attr =>
    simp only [Expr.ownFindings] at hf
    split at hf
    · obtain rfl := List.mem_singleton.1 hf
      cases he.eq_of_id_eq distinct hn (Option.some.inj hl)
    · cases hf
  | subscript other value index =>
    simp only [Expr.ownFindings] at hf
    split at hf
    · cases hf
    · obtain ⟨hit, hh, rfl⟩ := List.mem_map.1 hf
      have key := isKey_of_mem_keyHit (Option.mem_toList.1 hh)
      exact absurd (Option.some.inj hl) (he.not_isKey distinct (hn.part .index) key)
  | call other func args keywords =>
    exact isCalled_or_isHandedOut_of_mem_call distinct he hn hf hl
  | comprehension other elements clauses =>
    obtain ⟨c, hc, hf⟩ := List.mem_flatMap.1 hf
    exact .inr (.drawn hn hc (contains_of_mem_memberFindings hf hl))
  | _ => cases hf

end Bound

/-! ## To the report -/

theorem isReported_of_mem (hf : f ∈ stmtsFindings policy [] root) (hl : f.leaf = some leaf) :
    IsReported policy root leaf :=
  exists_mem_firstPerLeaf hf hl List.not_mem_nil

theorem exists_mem_memberFindings (h : Contains policy e leaf) :
    ∃ f ∈ memberFindings policy e, f.leaf = some leaf := by
  obtain ⟨hit, hh, rfl⟩ := h
  exact ⟨_, List.mem_map_of_mem hh, rfl⟩

theorem StmtAt.isReported {s : Stmt} (hs : StmtAt root frames s) (hf : f ∈ s.ownFindings policy)
    (hl : f.leaf = some leaf) : IsReported policy root leaf :=
  isReported_of_mem (mem_stmtsFindings_iff.2 (.inl ⟨frames, s, hs, hf⟩)) hl

theorem ExprAt.isReported (he : ExprAt root frames p e)
    (hf : f ∈ e.ownFindings policy (recordedNames frames) p) (hl : f.leaf = some leaf) :
    IsReported policy root leaf :=
  isReported_of_mem (mem_stmtsFindings_iff.2 (.inr ⟨frames, p, e, he, hf⟩)) hl

theorem IsCalled.isReported (h : IsCalled policy root leaf) : IsReported policy root leaf := by
  obtain ⟨frames, p, mark, func, args, keywords, he, hit, hh, rfl⟩ := h
  refine he.isReported (List.mem_map_of_mem ?_) rfl
  exact List.mem_append_left _ (List.mem_append_left _ hh)

theorem IsHandedOut.isReported (h : IsHandedOut policy root leaf) :
    IsReported policy root leaf := by
  cases h with
  | @argument _ _ mark func args _ _ he helper ha h =>
    obtain ⟨hit, hh, rfl⟩ := h
    have found : Finding.ofHit mark.place (hit.via .computedName) ∈
        callFindings policy mark.place func args := by
      refine List.mem_map_of_mem (List.mem_append_left _ (List.mem_append_right _ ?_))
      rw [if_pos helper]
      exact via_mem_computed func ha hh
    exact he.isReported found rfl
  | unpacked hs ht display h =>
    obtain ⟨f, hf, hl⟩ := exists_mem_memberFindings h
    refine hs.isReported (List.mem_flatMap.2 ⟨_, ht, ?_⟩) hl
    rwa [if_pos display]
  | iterated hs h =>
    obtain ⟨f, hf, hl⟩ := exists_mem_memberFindings h
    exact hs.isReported hf hl
  | drawn he hc h =>
    obtain ⟨f, hf, hl⟩ := exists_mem_memberFindings h
    exact he.isReported (List.mem_flatMap.2 ⟨_, hc, hf⟩) hl

/-! ## The forms around the name -/

/-- Somewhere in a module a form opens an expression. -/
def IsOpened (root : List Stmt) (n : Expr) : Prop :=
  ∃ frames p m, ExprAt root frames p m ∧ m.Opens n

theorem ExprAt.isOpened {hit : Hit} (distinct : (ids root).Nodup) (he : ExprAt root frames p n)
    (hm : ExprAt root frames' q e) (taken : hit.TakenFrom e) (leaf : hit.leaf = n.id) :
    IsOpened root n := by
  obtain ⟨m, hn, c, opens, same⟩ := taken
  obtain ⟨_, _, hm⟩ := hm.exists_of_mem_subterms hn
  obtain ⟨_, _, held⟩ := Expr.exists_holds_iff_mem_children.2 opens.mem_children
  obtain rfl := he.eq_of_id_eq distinct (hm.part held) (same.trans leaf)
  exact ⟨_, _, m, hm, opens⟩

theorem IsCalled.isOpened (distinct : (ids root).Nodup) (he : ExprAt root frames p n)
    (h : IsCalled policy root n.id) : IsOpened root n := by
  obtain ⟨_, _, mark, func, args, keywords, hc, hit, hh, leaf⟩ := h
  exact he.isOpened distinct hc (((ends func).reference hh).opened_self .callee) leaf

theorem IsHandedOut.isOpened (distinct : (ids root).Nodup) (he : ExprAt root frames p n)
    (h : IsHandedOut policy root n.id) : IsOpened root n := by
  cases h with
  | argument hc helper ha h =>
    obtain ⟨hit, hh, leaf⟩ := h
    exact he.isOpened distinct hc (((ends _).reference hh).opened_self (.argument helper ha)) leaf
  | unpacked hs ht display h =>
    obtain ⟨hit, hh, leaf⟩ := h
    exact he.isOpened distinct (.held hs .assigned) ((ends _).members hh) leaf
  | iterated hs h =>
    obtain ⟨hit, hh, leaf⟩ := h
    exact he.isOpened distinct (.held hs .loopIter) ((ends _).members hh) leaf
  | @drawn _ _ mark elements clauses c hc hm h =>
    obtain ⟨hit, hh, leaf⟩ := h
    have inside : c.iter.IsInside (.comprehension mark elements clauses) := Expr.isInside_iter hm
    exact he.isOpened distinct hc (((ends _).members hh).within inside.mem_subterms) leaf

/-! ## Bound names -/

/-- A name is reported exactly where a callee is followed to it or it is handed out, and then some
form opens it: as an operand of arithmetic, an ordinary argument or a result it is not reported. -/
structure FollowedName (policy : Policy) (root : List Stmt) (mark : Mark) (text : String) :
    Prop where
  verdict : violations policy root = (reported policy root).map (·.violation)
  reported_iff : IsReported policy root mark.id ↔
    IsCalled policy root mark.id ∨ IsHandedOut policy root mark.id
  opened : IsReported policy root mark.id → IsOpened root (.name mark text)

theorem bound_name_followed {mark : Mark} {text : String} (policy : Policy)
    (distinct : (ids root).Nodup) (he : ExprAt root frames .load (.name mark text))
    (bound : ∃ frame ∈ frames, text ∈ frame.recorded) : FollowedName policy root mark text := by
  have followed (h : IsReported policy root mark.id) :
      IsCalled policy root mark.id ∨ IsHandedOut policy root mark.id := by
    obtain ⟨f, hf, hl⟩ := h
    rcases mem_stmtsFindings_iff.1 (firstPerLeaf_sublist.subset hf) with
      ⟨_, s, hs, hf⟩ | ⟨_, q, n, hn, hf⟩
    · exact .inr (isHandedOut_of_mem_stmt hs hf hl)
    · exact isCalled_or_isHandedOut_of_mem_expr distinct he (List.mem_flatMap.2 bound) hn hf hl
  refine ⟨violations_eq_reported policy root, ?_, fun h => ?_⟩
  · exact ⟨followed, fun h => h.elim IsCalled.isReported IsHandedOut.isReported⟩
  · rcases followed h with called | handed
    · exact called.isOpened distinct he
    · exact handed.isOpened distinct he

/-- `for x in [open]:` and in it `print(open)`. -/
def passingLoop : Stmt :=
  .loop ⟨2, 5⟩ (.name ⟨0, ⟨2, 9⟩⟩ "x") (.list ⟨1, ⟨2, 14⟩⟩ [.name ⟨2, ⟨2, 15⟩⟩ "open"])
    [.block ⟨3, 9⟩
      [.call ⟨3, ⟨3, 9⟩⟩ (.name ⟨4, ⟨3, 9⟩⟩ "print") [.name ⟨5, ⟨3, 15⟩⟩ "open"] []] []]
    []

/-- `def f(open):` with the loop as its body. -/
def passedOn : List Stmt := [.function ⟨1, 1⟩ "f" ["open"] [] [passingLoop]]

theorem ids_passedOn : ids passedOn = [0, 1, 2, 3, 4, 5] := by
  simp [ids, allExprs, allStmts, passedOn, passingLoop, Stmt.nested_eq, Stmt.inner, Stmt.exprs,
    Expr.subterms_eq, Expr.children, Expr.id, Expr.mark]

theorem nodup_ids_passedOn : (ids passedOn).Nodup := by
  rw [ids_passedOn]
  decide

/-- What is around the loop. -/
def passedOnFrames : List Frame := [.function ["open"] [passingLoop]]

theorem passedOn_loop : StmtAt passedOn passedOnFrames passingLoop :=
  .inFunction (.top List.mem_cons_self) List.mem_cons_self

theorem passedOn_item : ExprAt passedOn passedOnFrames .load (.name ⟨2, ⟨2, 15⟩⟩ "open") :=
  .part (.held passedOn_loop .loopIter) (.listItem List.mem_cons_self)

theorem passedOn_argument : ExprAt passedOn passedOnFrames .load (.name ⟨5, ⟨3, 15⟩⟩ "open") :=
  .part (.held (.inLoop passedOn_loop List.mem_cons_self) (.expr List.mem_cons_self))
    (.arg List.mem_cons_self)

theorem passedOn_bound : ∃ frame ∈ passedOnFrames, "open" ∈ frame.recorded :=
  ⟨_, List.mem_cons_self, by decide +kernel⟩

theorem passedOn_argument_followed : (ids passedOn).Nodup ∧
    ExprAt passedOn passedOnFrames .load (.name ⟨5, ⟨3, 15⟩⟩ "open") ∧
    (∃ frame ∈ passedOnFrames, "open" ∈ frame.recorded) ∧
    FollowedName .standard passedOn ⟨5, ⟨3, 15⟩⟩ "open" :=
  ⟨nodup_ids_passedOn, passedOn_argument, passedOn_bound,
    bound_name_followed .standard nodup_ids_passedOn passedOn_argument passedOn_bound⟩

/-- The item is reported, though no callee is followed to it. -/
theorem passedOn_item_reported : (ids passedOn).Nodup ∧
    ExprAt passedOn passedOnFrames .load (.name ⟨2, ⟨2, 15⟩⟩ "open") ∧
    Policy.standard.forbids "open" = true ∧
    (∃ frame ∈ passedOnFrames, "open" ∈ frame.recorded) ∧
    IsReported .standard passedOn 2 ∧ ¬IsCalled .standard passedOn 2 := by
  refine ⟨nodup_ids_passedOn, passedOn_item, by decide +kernel, passedOn_bound, ?_, ?_⟩
  · have iterated : Contains .standard (.list ⟨1, ⟨2, 14⟩⟩ [.name ⟨2, ⟨2, 15⟩⟩ "open"]) 2 :=
      ⟨⟨"open", .containerIndirection, 2⟩, by decide +kernel, rfl⟩
    exact (IsHandedOut.iterated passedOn_loop iterated).isReported
  · rintro ⟨_, _, mark, func, args, keywords, he, hit, hh, -⟩
    have listed : mark = ⟨3, ⟨3, 9⟩⟩ ∧ func = .name ⟨4, ⟨3, 9⟩⟩ "print" ∧
        args = [.name ⟨5, ⟨3, 15⟩⟩ "open"] ∧ keywords = [] := by
      simpa [allExprs, allStmts, passedOn, passingLoop, Stmt.nested_eq, Stmt.inner, Stmt.exprs,
        Expr.subterms_eq, Expr.children] using he.mem_allExprs
    obtain ⟨-, rfl, -⟩ := listed
    have none : reference .standard (.name ⟨4, ⟨3, 9⟩⟩ "print") = [] := by decide +kernel
    rw [none] at hh
    cases hh

end SourceGate.Tree
