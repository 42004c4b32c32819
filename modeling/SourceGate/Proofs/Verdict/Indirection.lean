import SourceGate.Proofs.Verdict.Computed
import SourceGate.Proofs.Verdict.Hit

/-! # Indirection through displays

An expression may be another by way of conditional forms and of what subscripts of displays pick,
nested to any depth. Following it keeps up with this as long as no picked entry that is itself a
conditional form or a subscript is subscripted again: then the hits of whatever it may be are hits
of the expression. An entry of that kind is not opened, and what lies behind it is lost.
-/

namespace SourceGate.Tree

variable {policy : Policy} {isUnbound : Expr → Bool}

/-! ## What an expression may be -/

/-- The item at a position, which counts from the end if it is negative. -/
def itemAt (items : List Expr) : Int → Option Expr
  | .ofNat n => items[n]?
  | .negSucc n => items.reverse[n]?

/-- The items of a display that has positions. -/
def Expr.placedItems? : Expr → Option (List Expr)
  | .list _ items | .tuple _ items => some items
  | _ => none

/-- An entry of a display that is picked by an index. An index that is not known picks any entry,
and a key that is not known is picked by any index. -/
inductive Picks : Expr → Expr → Expr → Prop where
  | at {d items mark position s} (placed : d.placedItems? = some items)
      (found : itemAt items position = some s) : Picks d (.int mark position) s
  | any {d items index s} (placed : d.placedItems? = some items) (unknown : staticKey? index = none)
      (found : s ∈ items) : Picks d index s
  | entry {mark entries key index s} (found : (some key, s) ∈ entries)
      (same : ∀ k ∈ staticKey? key, ∀ i ∈ staticKey? index, k = i) :
      Picks (.dict mark entries) index s

/-- What an expression may be. -/
inductive MayBe : Expr → Expr → Prop where
  | self {e} (plain : e.isIndirection = false) : MayBe e e
  | branch {mark tests values v x} (hv : v ∈ values) (h : MayBe v x) :
      MayBe (.branch mark tests values) x
  | item {mark base index d s x} (hd : MayBe base d) (hs : Picks d index s) (h : MayBe s x) :
      MayBe (.subscript mark base index) x

/-- What an expression shows: entries that a subscript picks are left as they stand. -/
inductive Shows : Expr → Expr → Prop where
  | self {e} (plain : e.isIndirection = false) : Shows e e
  | branch {mark tests values v x} (hv : v ∈ values) (h : Shows v x) :
      Shows (.branch mark tests values) x
  | item {mark base index d s} (hd : Shows base d) (hs : Picks d index s) :
      Shows (.subscript mark base index) s

/-- Somewhere in an expression, an entry that is a conditional form or a subscript is picked from a
display only to be subscripted again. -/
def HasDetour (e : Expr) : Prop :=
  ∃ mark base index s, .subscript mark base index ∈ e.subterms ∧ Shows base s ∧
    s.isIndirection = true

/-! ## Picking is selecting -/

theorem selectItems_int (items : List Expr) (mark : Mark) (position : Int) :
    selectItems items (.int mark position) = (itemAt items position).toList := by
  cases position with
  | ofNat n =>
    have front : ¬Int.ofNat n < 0 := Int.not_lt.2 (Int.natCast_nonneg n)
    simp only [selectItems, itemAt, front, if_false]
    rfl
  | negSucc n =>
    have back : Int.negSucc n < 0 := Int.negSucc_lt_zero n
    simp only [selectItems, itemAt, back, if_true]
    by_cases inside : n < items.length
    · have place : (items.length + Int.negSucc n).toNat = items.length - 1 - n := by omega
      rw [if_neg (by omega), place, List.getElem?_reverse inside]
    · rw [if_pos (by omega), List.getElem?_eq_none (by simpa using inside)]
      rfl

theorem selectItems_unknown {items : List Expr} {index : Expr} (h : staticKey? index = none) :
    selectItems items index = items := by
  unfold selectItems
  split
  · cases h
  · rfl

theorem mem_of_matching {wanted : StaticKey} {entries : List (Option Expr × Expr)}
    {found : List Expr} {key s : Expr} (h : matching wanted entries = some found)
    (he : (some key, s) ∈ entries) (same : ∀ k ∈ staticKey? key, k = wanted) : s ∈ found := by
  induction entries generalizing found with
  | nil => cases he
  | cons entry rest ih =>
    obtain ⟨head, value⟩ := entry
    cases head with
    | none => cases h
    | some head =>
      cases known : staticKey? head with
      | none => simp [matching, known] at h
      | some k =>
        simp only [matching, known, Option.map_eq_some_iff] at h
        obtain ⟨more, hm, rfl⟩ := h
        rcases List.mem_cons.1 he with first | later
        · cases first
          rw [if_pos (same k known)]
          exact List.mem_cons_self
        · have hs := ih hm later
          split
          · exact List.mem_cons_of_mem _ hs
          · exact hs

theorem Picks.mem_selected {d index s : Expr} (h : Picks d index s) : s ∈ selected d index := by
  have placed {d index s : Expr} {items : List Expr} (hd : d.placedItems? = some items)
      (hs : s ∈ selectItems items index) : s ∈ selected d index := by
    cases d with
    | list | tuple => cases hd; exact hs
    | _ => cases hd
  cases h with
  | «at» hd found => exact placed hd (by rw [selectItems_int]; exact Option.mem_toList.2 found)
  | any hd unknown found => exact placed hd (by rwa [selectItems_unknown unknown])
  | @entry mark entries key index s found same =>
    have all : s ∈ entries.map (·.2) := List.mem_map_of_mem found
    rw [selected, selectEntries]
    split
    · exact all
    · next wanted known =>
      cases hm : matching wanted entries with
      | none => exact all
      | some values => exact mem_of_matching hm found fun k hk => same k hk wanted known

/-! ## What is shown is a candidate -/

section Following

variable {e c d s x : Expr} {hit : Hit}

theorem Shows.mem_candidates (h : Shows e d) : d ∈ candidates e := by
  induction h with
  | self plain => exact candidates_of_plain plain ▸ List.mem_singleton_self _
  | branch hv h ih =>
    rw [candidates, candidatesAll_eq]
    exact List.mem_flatMap.2 ⟨_, hv, ih⟩
  | @item mark base index d s hd hs ih =>
    have found : s ∈ (candidates base).flatMap fun d => selected d index :=
      List.mem_flatMap.2 ⟨d, ih, hs.mem_selected⟩
    rw [candidates, if_neg fun none => List.not_mem_nil (List.isEmpty_iff.1 none ▸ found)]
    exact found

theorem MayBe.mem_subterms (h : MayBe e x) : x ∈ e.subterms := by
  induction h with
  | self plain => exact Expr.mem_subterms_self _
  | branch hv h ih => exact Expr.subterms_trans (Expr.isInside_branchValue hv).mem_subterms ih
  | item hd hs h ihd ih =>
    have hs := (isInside_of_mem_selected hs.mem_selected).within ihd
    exact Expr.subterms_trans (Expr.isInside_base.of_mem_subterms hs.mem_subterms).mem_subterms ih

/-! ## Without detours -/

theorem HasDetour.within (h : HasDetour c) (hc : c ∈ e.subterms) : HasDetour e := by
  obtain ⟨mark, base, index, s, hn, shown⟩ := h
  exact ⟨mark, base, index, s, Expr.subterms_trans hc hn, shown⟩

theorem direct_branchValue {mark : Mark} {tests values : List Expr} {v : Expr}
    (direct : ¬HasDetour (.branch mark tests values)) (hv : v ∈ values) : ¬HasDetour v :=
  fun detour => direct (detour.within (Expr.isInside_branchValue hv).mem_subterms)

section Subscript

variable {mark : Mark} {base index : Expr}

theorem direct_base (direct : ¬HasDetour (.subscript mark base index)) : ¬HasDetour base :=
  fun detour => direct (detour.within Expr.isInside_base.mem_subterms)

theorem plain_of_direct (direct : ¬HasDetour (.subscript mark base index)) (h : Shows base s) :
    s.isIndirection = false := by
  rw [← Bool.not_eq_true]
  exact fun indirect => direct ⟨mark, base, index, s, Expr.mem_subterms_self _, h, indirect⟩

theorem direct_picked (direct : ¬HasDetour (.subscript mark base index)) (hd : MayBe base d)
    (hs : Picks d index s) : ¬HasDetour s := by
  have inside : s.IsInside base :=
    (isInside_of_mem_selected hs.mem_selected).within hd.mem_subterms
  exact fun detour => direct_base direct (detour.within inside.mem_subterms)

end Subscript

/-- Where nothing inside has a detour and only plain expressions are shown, all that an expression
may be is shown. -/
theorem MayBe.shows (h : MayBe e d) (direct : ¬HasDetour e)
    (plain : ∀ s, Shows e s → s.isIndirection = false) : Shows e d := by
  induction h with
  | self h => exact .self h
  | branch hv h ih =>
    exact .branch hv (ih (direct_branchValue direct hv) fun s hs => plain s (.branch hv hs))
  | @item mark base index d s x hd hs h ihd ih =>
    have shown := ihd (direct_base direct) fun s => plain_of_direct direct
    have picked : Shows (.subscript mark base index) s := .item shown hs
    have stays := plain s picked
    cases h with
    | self => exact picked
    | branch | item => cases stays

/-- A hit of whatever an expression may be is one of the expression, seen by some route. -/
theorem exists_via_mem_reference (h : MayBe e x) (direct : ¬HasDetour e)
    (hh : hit ∈ reference policy x) : ∃ route, hit.via route ∈ reference policy e := by
  induction h with
  | self => exact ⟨hit.route, hh⟩
  | branch hv h ih =>
    obtain ⟨route, found⟩ := ih (direct_branchValue direct hv) hh
    rw [reference_branch]
    exact ⟨route, List.mem_flatMap.2 ⟨_, hv, found⟩⟩
  | @item mark base index d s x hd hs h ihd ih =>
    have shown := hd.shows (direct_base direct) fun s => plain_of_direct direct
    obtain ⟨route, found⟩ := ih (direct_picked direct hd hs) hh
    -- Of the two routes only the last one stays.
    have seen : (hit.via route).via (selectionRoute d) ∈
        reference policy (.subscript mark base index) :=
      via_mem_reference_subscript shown.mem_candidates hs.mem_selected found
    exact ⟨selectionRoute d, seen⟩

/-- Whether a subscript has no candidates but plain ones as its base. -/
def Expr.hasPlainBase : Expr → Bool
  | .subscript _ base _ => (candidates base).all fun c => !c.isIndirection
  | _ => true

theorem direct_of_hasPlainBase (h : e.subterms.all Expr.hasPlainBase = true) : ¬HasDetour e := by
  rintro ⟨mark, base, index, s, hn, shown, indirect⟩
  have plain := List.all_eq_true.1 (List.all_eq_true.1 h _ hn) s shown.mem_candidates
  simp [indirect] at plain

end Following

/-! ## Leaves that are traced -/

/-- Whatever an expression may be, a forbidden name or attribute gives a hit of its own, and so does
the call of a helper that takes a name which is not known. -/
structure Traced (takes : Expr → List Expr → Nat → Prop) (policy : Policy) (e : Expr) : Prop where
  names : ∀ {mark text}, MayBe e (.name mark text) → policy.forbids text = true →
    ∃ hit ∈ reference policy e, hit.name = text ∧ hit.leaf = mark.id
  attributes : ∀ {mark owner attr}, MayBe e (.attribute mark owner attr) →
    policy.forbids attr = true → ∃ hit ∈ reference policy e, hit.name = attr ∧ hit.leaf = mark.id
  lookups : ∀ {mark func args keywords i}, MayBe e (.call mark func args keywords) →
    takes func args i → (∀ a ∈ args[i]?, staticText? a = none) →
      ∃ hit ∈ reference policy e, hit.StemsFrom policy (.call mark func args keywords)

/-- A lookup by a name that is not known gives a hit, unless the name is overlooked. -/
theorem exists_mem_reference_lookup {mark : Mark} {func : Expr} {args : List Expr}
    {keywords : List (Keyword Expr)} {i : Nat} (takes : TakesName isUnbound func args i)
    (seen : ¬Overlooked isUnbound func i) (unknown : ∀ a ∈ args[i]?, staticText? a = none) :
    ∃ hit ∈ reference policy (.call mark func args keywords),
      hit.StemsFrom policy (.call mark func args keywords) := by
  have some : reference policy (.call mark func args keywords) ≠ [] := by
    rw [reference_call, if_pos (exists_takesName_iff.1 ⟨i, takes⟩), Ne, computed_eq_nil_iff]
    rintro ⟨-, -, known⟩
    obtain ⟨a, text, ha, folds⟩ := known rfl
    rw [← takes.overlooked_or_eq.resolve_left seen] at ha
    cases folds.symm.trans (unknown a ha)
  obtain ⟨hit, hh⟩ := List.exists_mem_of_ne_nil _ some
  exact ⟨hit, hh, (rooted _).1 hit hh⟩

theorem traced_of_direct {e : Expr} (direct : ¬HasDetour e) :
    Traced (fun func args i => TakesName isUnbound func args i ∧ ¬Overlooked isUnbound func i)
      policy e where
  names {mark text} h forbidden := by
    have found : ⟨text, .directCall, mark.id⟩ ∈ reference policy (.name mark text) := by
      simp [reference, forbidden]
    obtain ⟨route, hh⟩ := exists_via_mem_reference h direct found
    exact ⟨_, hh, rfl, rfl⟩
  attributes {mark owner attr} h forbidden := by
    have found : ⟨attr, .attributeAccess, mark.id⟩ ∈
        reference policy (.attribute mark owner attr) := by
      simp [reference, forbidden]
    obtain ⟨route, hh⟩ := exists_via_mem_reference h direct found
    exact ⟨_, hh, rfl, rfl⟩
  lookups h takes unknown := by
    obtain ⟨hit, found, stems⟩ := exists_mem_reference_lookup takes.1 takes.2 unknown
    obtain ⟨route, hh⟩ := exists_via_mem_reference h direct found
    exact ⟨_, hh, stems.via route⟩

/-- `{"f": [print, eval]}["f" if c else key][-1]`. -/
def storedPair : Expr :=
  .subscript ⟨0, ⟨1, 1⟩⟩
    (.subscript ⟨1, ⟨1, 1⟩⟩
      (.dict ⟨2, ⟨1, 1⟩⟩ [(some (.str ⟨3, ⟨1, 2⟩⟩ "f"),
        .list ⟨4, ⟨1, 7⟩⟩ [.name ⟨5, ⟨1, 8⟩⟩ "print", .name ⟨6, ⟨1, 15⟩⟩ "eval"])])
      (.branch ⟨7, ⟨1, 22⟩⟩ [.name ⟨8, ⟨1, 29⟩⟩ "c"]
        [.str ⟨9, ⟨1, 22⟩⟩ "f", .name ⟨10, ⟨1, 36⟩⟩ "key"]))
    (.int ⟨11, ⟨1, 41⟩⟩ (-1))

theorem mayBe_storedPair : MayBe storedPair (.name ⟨6, ⟨1, 15⟩⟩ "eval") :=
  .item (.item (.self rfl) (.entry List.mem_cons_self (by simp [staticKey?, staticText?]))
    (.self rfl)) (.at rfl rfl) (.self rfl)

theorem storedPair_traced : MayBe storedPair (.name ⟨6, ⟨1, 15⟩⟩ "eval") ∧ ¬HasDetour storedPair ∧
    Traced (fun func args i => TakesName (fun _ => false) func args i ∧
      ¬Overlooked (fun _ => false) func i) .standard storedPair := by
  have direct : ¬HasDetour storedPair := direct_of_hasPlainBase (by decide +kernel)
  exact ⟨mayBe_storedPair, direct, traced_of_direct direct⟩

/-- `[[eval] if c else [print]][0][0]`. -/
def branchedEntry : Expr :=
  .subscript ⟨0, ⟨1, 1⟩⟩
    (.subscript ⟨1, ⟨1, 1⟩⟩
      (.list ⟨2, ⟨1, 1⟩⟩ [.branch ⟨3, ⟨1, 2⟩⟩ [.name ⟨4, ⟨1, 12⟩⟩ "c"]
        [.list ⟨5, ⟨1, 2⟩⟩ [.name ⟨6, ⟨1, 3⟩⟩ "eval"],
          .list ⟨7, ⟨1, 19⟩⟩ [.name ⟨8, ⟨1, 20⟩⟩ "print"]]])
      (.int ⟨9, ⟨1, 28⟩⟩ 0))
    (.int ⟨10, ⟨1, 31⟩⟩ 0)

/-- `[[[getattr(x, n)]][0]][0][0]`. -/
def subscriptedEntry : Expr :=
  .subscript ⟨0, ⟨1, 1⟩⟩
    (.subscript ⟨1, ⟨1, 1⟩⟩
      (.list ⟨2, ⟨1, 1⟩⟩ [.subscript ⟨3, ⟨1, 2⟩⟩
        (.list ⟨4, ⟨1, 2⟩⟩ [.list ⟨5, ⟨1, 3⟩⟩ [.call ⟨6, ⟨1, 4⟩⟩ (.name ⟨7, ⟨1, 4⟩⟩ "getattr")
          [.name ⟨8, ⟨1, 12⟩⟩ "x", .name ⟨9, ⟨1, 15⟩⟩ "n"] []]])
        (.int ⟨10, ⟨1, 20⟩⟩ 0)])
      (.int ⟨11, ⟨1, 24⟩⟩ 0))
    (.int ⟨12, ⟨1, 27⟩⟩ 0)

theorem mayBe_branchedEntry : MayBe branchedEntry (.name ⟨6, ⟨1, 3⟩⟩ "eval") :=
  .item (.item (.self rfl) (.at rfl rfl) (.branch List.mem_cons_self (.self rfl))) (.at rfl rfl)
    (.self rfl)

theorem mayBe_subscriptedEntry : MayBe subscriptedEntry
    (.call ⟨6, ⟨1, 4⟩⟩ (.name ⟨7, ⟨1, 4⟩⟩ "getattr")
      [.name ⟨8, ⟨1, 12⟩⟩ "x", .name ⟨9, ⟨1, 15⟩⟩ "n"] []) :=
  .item (.item (.self rfl) (.at rfl rfl) (.item (.self rfl) (.at rfl rfl) (.self rfl)))
    (.at rfl rfl) (.self rfl)

/-- The name that the one may be and the lookup that the other is leave no hit. -/
theorem detour_not_traced :
    (reference .standard branchedEntry = [] ∧
        ∀ isUnbound, ¬Traced (TakesName isUnbound) .standard branchedEntry) ∧
      reference .standard subscriptedEntry = [] ∧
        ∀ isUnbound, ¬Traced (TakesName isUnbound) .standard subscriptedEntry := by
  have lost : reference .standard branchedEntry = [] := by decide +kernel
  have gone : reference .standard subscriptedEntry = [] := by decide +kernel
  refine ⟨⟨lost, fun isUnbound traced => ?_⟩, ⟨gone, fun isUnbound traced => ?_⟩⟩
  · obtain ⟨hit, hh, -⟩ := traced.names mayBe_branchedEntry (by decide +kernel)
    exact List.not_mem_nil (lost ▸ hh)
  · obtain ⟨hit, hh, -⟩ := traced.lookups mayBe_subscriptedEntry (.getattr rfl) (by decide)
    exact List.not_mem_nil (gone ▸ hh)

end SourceGate.Tree
