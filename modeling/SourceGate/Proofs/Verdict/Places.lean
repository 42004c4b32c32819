import SourceGate.Proofs.Verdict.Indirection
import SourceGate.Word

/-! # Places of a sequence

An index takes one item of a list or a tuple, from the front or from the end. When the module runs,
that is the place of a value; before, it is the place of an item, and without starred items the two
are the same. Counting back from the end stays in the words that are counted in.
-/

namespace SourceGate.Tree

/-! ## Items at an index -/

/-- The element of a sequence at an index, which counts from the end if it is negative. -/
inductive ElementAt {α : Type} : List α → Int → α → Prop where
  | front {before x after} : ElementAt (before ++ x :: after) before.length x
  | back {before x after} : ElementAt (before ++ x :: after) (-(after.length + 1)) x

section Elements

variable {α : Type} {xs : List α} {x y : α} {i : Int} {n : Nat}

theorem getElem?_eq_some_iff_split :
    xs[n]? = some x ↔ ∃ before after, xs = before ++ x :: after ∧ before.length = n := by
  constructor
  · intro h
    obtain ⟨inside, rfl⟩ := List.getElem?_eq_some_iff.1 h
    refine ⟨xs.take n, xs.drop (n + 1), ?_, List.length_take_of_le (Nat.le_of_lt inside)⟩
    rw [← List.drop_eq_getElem_cons inside, List.take_append_drop]
  · rintro ⟨before, after, rfl, rfl⟩
    simp

theorem elementAt_natCast_iff : ElementAt xs n x ↔ xs[n]? = some x := by
  rw [getElem?_eq_some_iff_split]
  constructor
  · intro h
    generalize place : (n : Int) = i at h
    cases h with
    | @front before x after => exact ⟨before, after, rfl, (Int.ofNat.inj place).symm⟩
    | back => omega
  · rintro ⟨before, after, rfl, rfl⟩
    exact .front

theorem elementAt_negSucc_iff : ElementAt xs (.negSucc n) x ↔ xs.reverse[n]? = some x := by
  rw [getElem?_eq_some_iff_split]
  constructor
  · intro h
    generalize place : Int.negSucc n = i at h
    cases h with
    | front => omega
    | @back before x after => exact ⟨after.reverse, before.reverse, by simp, by simp; omega⟩
  · rintro ⟨before, after, split, rfl⟩
    have turned : xs = after.reverse ++ x :: before.reverse := by
      rw [← List.reverse_reverse xs, split]
      simp
    rw [turned, Int.negSucc_eq, ← List.length_reverse]
    exact .back

theorem itemAt_eq_some_iff {items : List Expr} {item : Expr} :
    itemAt items i = some item ↔ ElementAt items i item := by
  cases i with
  | ofNat n => exact elementAt_natCast_iff.symm
  | negSucc n => exact elementAt_negSucc_iff.symm

theorem ElementAt.mem (h : ElementAt xs i x) : x ∈ xs := by
  cases h <;> simp

theorem exists_elementAt_iff : (∃ x, ElementAt xs i x) ↔ -xs.length ≤ i ∧ i < xs.length := by
  cases i with
  | ofNat n =>
    simp only [Int.ofNat_eq_natCast, elementAt_natCast_iff, ← Option.isSome_iff_exists,
      isSome_getElem?]
    omega
  | negSucc n =>
    simp only [elementAt_negSucc_iff, ← Option.isSome_iff_exists, isSome_getElem?,
      List.length_reverse]
    omega

theorem ElementAt.unique (hx : ElementAt xs i x) (hy : ElementAt xs i y) : x = y := by
  cases i with
  | ofNat n =>
    rw [Int.ofNat_eq_natCast, elementAt_natCast_iff] at hx hy
    exact Option.some.inj (hx.symm.trans hy)
  | negSucc n =>
    rw [elementAt_negSucc_iff] at hx hy
    exact Option.some.inj (hx.symm.trans hy)

end Elements

/-- An item of a display and the values that it adds to the sequence: a starred item any number, and
every other item one. -/
structure Slot (V : Type) where
  item : Expr
  values : List V

namespace Slot

variable {V : Type} {slots : List (Slot V)} {s : Slot V} {i : Int} {v : V}

theorem length_values (single : ∀ s ∈ slots, s.values.length = 1) :
    (slots.flatMap values).length = slots.length := by
  induction slots with
  | nil => rfl
  | cons s slots ih =>
    obtain ⟨hs, hslots⟩ := List.forall_mem_cons.1 single
    rw [List.flatMap_cons, List.length_append, ih hslots, hs, List.length_cons, Nat.add_comm]

theorem elementAt_value (single : ∀ s ∈ slots, s.values.length = 1) (h : ElementAt slots i s)
    (value : s.values = [v]) : ElementAt (slots.flatMap values) i v := by
  cases h with
  | @front before s after =>
    rw [List.forall_mem_append, List.forall_mem_cons] at single
    rw [List.flatMap_append, List.flatMap_cons, value, ← length_values single.1]
    exact .front
  | @back before s after =>
    rw [List.forall_mem_append, List.forall_mem_cons] at single
    rw [List.flatMap_append, List.flatMap_cons, value, ← length_values single.2.2]
    exact .back

theorem item_at (h : ElementAt slots i s) : ElementAt (slots.map item) i s.item := by
  cases h with
  | @front before s after =>
    rw [List.map_append, List.map_cons, ← @List.length_map _ _ before item]
    exact .front
  | @back before s after =>
    rw [List.map_append, List.map_cons, ← @List.length_map _ _ after item]
    exact .back

/-- Without starred items, the items of a display have the places of their values. -/
theorem elementAt_values_iff (single : ∀ s ∈ slots, s.values.length = 1) :
    ElementAt (slots.flatMap values) i v ↔ ∃ s, ElementAt slots i s ∧ s.values = [v] := by
  constructor
  · intro h
    obtain ⟨s, hs⟩ : ∃ s, ElementAt slots i s := by
      rw [exists_elementAt_iff, ← length_values single]
      exact exists_elementAt_iff.1 ⟨v, h⟩
    obtain ⟨w, hw⟩ := List.length_eq_one_iff.1 (single s hs.mem)
    rw [h.unique (elementAt_value single hs hw)]
    exact ⟨s, hs, hw⟩
  · rintro ⟨s, hs, value⟩
    exact elementAt_value single hs value

end Slot

/-! ## Indices in words -/

/-- The items that an index selects, where the place from the end is counted in words. -/
def selectInWords (items : List Expr) (position : Int64) : List Expr :=
  let place := if position < 0 then Int64.ofNat items.length + position else position
  if place < 0 then [] else items[place.toInt.toNat]?.toList

section Words

variable {count : Nat} {position : Int64}

/-- Counting back from the end of a sequence stays in a word. -/
theorem toInt_fromEnd (small : count < Word.signedCount) (back : position < 0) :
    (Int64.ofNat count + position).toInt = count + position.toInt := by
  have bound : count < 2 ^ 63 := small
  have least := position.le_toInt
  rw [Int64.lt_iff_toInt_lt, Int64.toInt_zero] at back
  rw [Int64.toInt_add, Int64.toInt_ofNat_of_lt bound]
  apply Int.bmod_eq_of_le <;> omega

theorem selectInWords_eq {items : List Expr} (small : items.length < Word.signedCount)
    (mark : Mark) (position : Int64) :
    selectInWords items position = selectItems items (.int mark position.toInt) := by
  have sign (n : Int64) : n < 0 ↔ n.toInt < 0 := by rw [Int64.lt_iff_toInt_lt, Int64.toInt_zero]
  unfold selectInWords selectItems
  by_cases back : position < 0
  · simp only [if_pos ((sign position).1 back), sign, toInt_fromEnd small back]
  · simp only [if_neg (mt (sign position).2 back), sign]

end Words

/-! ## What is selected -/

/-- What an index selects of the items of a list or tuple display. -/
structure SelectsItems (items : List Expr) : Prop where
  /-- A known index selects just the item that is there. -/
  item {mark i e} : selectItems items (.int mark i) = [e] ↔ ElementAt items i e
  /-- Out of range it selects nothing. -/
  outside {mark i} : selectItems items (.int mark i) = [] ↔ i < -items.length ∨ items.length ≤ i
  /-- Any other index selects all. -/
  other {index} (h : ∀ mark i, index ≠ .int mark i) : selectItems items index = items
  /-- Without starred items, the value at the index is the one of the item that is selected. -/
  value {V : Type} {slots : List (Slot V)} (written : slots.map Slot.item = items)
    (single : ∀ s ∈ slots, s.values.length = 1) {mark i v} :
    ElementAt (slots.flatMap Slot.values) i v ↔
      ∃ s, ElementAt slots i s ∧ s.values = [v] ∧ selectItems items (.int mark i) = [s.item]
  /-- In words the same is selected, of as many items as these can count. -/
  inWords (small : items.length < Word.signedCount) (mark : Mark) (position : Int64) :
    selectInWords items position = selectItems items (.int mark position.toInt)
  /-- Counting back from the end, words are not left. -/
  noOverflow (small : items.length < Word.signedCount) {position : Int64} (back : position < 0) :
    (Int64.ofNat items.length + position).toInt = items.length + position.toInt

theorem selectItems_eq_singleton_iff {items : List Expr} {mark : Mark} {i : Int} {e : Expr} :
    selectItems items (.int mark i) = [e] ↔ ElementAt items i e := by
  rw [selectItems_int, Option.toList_eq_singleton_iff, itemAt_eq_some_iff]

theorem selectItems_eq_nil_iff {items : List Expr} {mark : Mark} {i : Int} :
    selectItems items (.int mark i) = [] ↔ i < -items.length ∨ items.length ≤ i := by
  have range : (itemAt items i).isSome ↔ -items.length ≤ i ∧ i < items.length := by
    simp only [Option.isSome_iff_exists, itemAt_eq_some_iff, exists_elementAt_iff]
  rw [selectItems_int, Option.toList_eq_nil_iff, ← Option.not_isSome_iff_eq_none, range]
  omega

theorem selectsItems (items : List Expr) : SelectsItems items where
  item := selectItems_eq_singleton_iff
  outside := selectItems_eq_nil_iff
  other {index} h := by
    unfold selectItems
    split
    · exact absurd rfl (h _ _)
    · rfl
  value {V slots} written single mark i v := by
    subst written
    rw [Slot.elementAt_values_iff single]
    apply exists_congr
    intro s
    apply and_congr_right
    intro hs
    rw [selectItems_eq_singleton_iff, and_iff_left (Slot.item_at hs)]
  inWords := selectInWords_eq
  noOverflow small _ back := toInt_fromEnd small back

end SourceGate.Tree
