import Mathlib.Data.List.DropRight
import SourceGate.Proofs.Text.Bytes
import SourceGate.Text.Location

/-! # Lines and columns of a text

An offset between two characters is located by the newlines before it and by the characters since
the last of them. Going on by a character goes on to a later place, so places keep the order of
offsets.
-/

namespace SourceGate

/-! ## The order of places -/

/-- A place comes before another: on an earlier line, or further left on the same one. -/
def Location.Before (a b : Location) : Prop :=
  a.line < b.line ∨ a.line = b.line ∧ a.column < b.column

instance (a b : Location) : Decidable (a.Before b) := inferInstanceAs (Decidable (_ ∨ _))

theorem Location.Before.ne {a b : Location} (h : a.Before b) : a ≠ b := by
  rintro rfl
  rcases h with h | ⟨-, h⟩
  · exact Nat.lt_irrefl _ h
  · exact Nat.lt_irrefl _ h

theorem Location.Before.trans {a b c : Location} (h : a.Before b) (h' : b.Before c) :
    a.Before c := by
  unfold Location.Before at *
  omega

namespace Text

/-- The characters behind the last newline of a text. -/
def lastLine (text : List Char) : List Char := text.rtakeWhile (· ≠ '\n')

/-- The place that a text ends at. -/
def endPlace (text : List Char) : Location := ⟨text.count '\n' + 1, (lastLine text).length + 1⟩

theorem endPlace_concat (text : List Char) (c : Char) :
    endPlace (text ++ [c]) = (endPlace text).after c := by
  rw [endPlace, lastLine, List.rtakeWhile_concat, List.count_append, Location.after]
  by_cases same : c = '\n'
  · subst same
    rfl
  · simp [same, endPlace, lastLine]

/-- The end of a text is reached from its start by one character after the other. -/
theorem foldl_after (text : List Char) : text.foldl Location.after .first = endPlace text := by
  induction text using List.reverseRecOn with
  | nil => rfl
  | append_singleton rest c ih => rw [List.foldl_concat, ih, endPlace_concat]

theorem before_after (here : Location) (c : Char) : here.Before (here.after c) := by
  rw [Location.after]
  split
  · exact .inl (Nat.lt_succ_self _)
  · exact .inr ⟨rfl, Nat.lt_succ_self _⟩

/-- A longer text ends at a later place. -/
theorem endPlace_before (text : List Char) {more : List Char} (some : more ≠ []) :
    (endPlace text).Before (endPlace (text ++ more)) := by
  induction more using List.reverseRecOn with
  | nil => exact absurd rfl some
  | append_singleton rest c ih =>
    rw [← List.append_assoc, endPlace_concat]
    have next := before_after (endPlace (text ++ rest)) c
    by_cases none : rest = []
    · subst none
      rwa [List.append_nil] at next ⊢
    · exact (ih none).trans next

end Text

/-! ## The table of places -/

namespace LineIndex

open Text

theorem length_placesFrom (here : Location) (text : List Char) :
    (placesFrom here text).length = (bytes text).length + 1 := by
  induction text generalizing here with
  | nil => rfl
  | cons c rest ih =>
    have positive := c.utf8Size_pos
    rw [placesFrom, List.length_cons, List.length_append, List.length_replicate, ih,
      length_bytes_cons]
    omega

/-- Behind the bytes of a character stand the places of what follows it. -/
theorem getElem?_placesFrom_cons (here : Location) (c : Char) (rest : List Char) (n : Nat) :
    (placesFrom here (c :: rest))[c.utf8Size + n]? = (placesFrom (here.after c) rest)[n]? := by
  obtain ⟨size, hs⟩ : ∃ size, c.utf8Size = size + 1 := ⟨_, (Nat.sub_add_cancel c.utf8Size_pos).symm⟩
  have behind : size + 1 + n = (List.replicate size (Location.mk here.line 1)).length + n + 1 := by
    rw [List.length_replicate, Nat.add_right_comm]
  rw [placesFrom, hs, Nat.add_sub_cancel, behind, List.getElem?_cons_succ,
    List.getElem?_append_right (Nat.le_add_right _ _), Nat.add_sub_cancel_left]

theorem getElem?_placesFrom_append (here : Location) (before after : List Char) (n : Nat) :
    (placesFrom here (before ++ after))[(bytes before).length + n]? =
      (placesFrom (before.foldl Location.after here) after)[n]? := by
  induction before generalizing here with
  | nil => rw [bytes_nil, List.length_nil, Nat.zero_add, List.nil_append, List.foldl_nil]
  | cons c rest ih =>
    rw [length_bytes_cons, Nat.add_assoc, List.cons_append, getElem?_placesFrom_cons, ih,
      List.foldl_cons]

theorem getElem?_placesFrom_zero (here : Location) (text : List Char) :
    (placesFrom here text)[0]? = some here := by
  cases text <;> rfl

theorem getElem?_placesFrom_inside (here : Location) {c : Char} (rest : List Char) {n : Nat}
    (positive : 0 < n) (inside : n < c.utf8Size) :
    (placesFrom here (c :: rest))[n]? = some ⟨here.line, 1⟩ := by
  obtain ⟨m, rfl⟩ : ∃ m, n = m + 1 := ⟨n - 1, by omega⟩
  have short : m < c.utf8Size - 1 := by omega
  rw [placesFrom, List.getElem?_cons_succ,
    List.getElem?_append_left (by rwa [List.length_replicate]), List.getElem?_replicate,
    if_pos short]

/-! ## Locating -/

theorem locate_eq_of_getElem? {text : List Char} {offset : Nat} {place : Location}
    (h : (placesFrom .first text)[min offset (bytes text).length]? = some place) :
    (ofText text).locate offset = place := by
  have size : (ofText text).places.size = (bytes text).length + 1 := by
    rw [ofText, List.size_toArray, length_placesFrom]
  have found : (ofText text).places[min offset ((ofText text).places.size - 1)]? = some place := by
    rw [size, Nat.add_sub_cancel, ofText, List.getElem?_toArray, h]
  rw [locate]
  exact Option.some.inj ((Array.getElem?_eq_getElem _).symm.trans found)

/-- Only as much of an offset counts as there is text. -/
theorem locate_min (text : List Char) (offset : Nat) :
    (ofText text).locate (min offset (bytes text).length) = (ofText text).locate offset := by
  obtain ⟨place, h⟩ : ∃ place,
      (placesFrom .first text)[min offset (bytes text).length]? = some place := by
    refine ⟨_, List.getElem?_eq_getElem ?_⟩
    rw [length_placesFrom]
    omega
  rw [locate_eq_of_getElem? h, locate_eq_of_getElem? (by rwa [Nat.min_assoc, Nat.min_self])]

/-- An offset between two characters is located where the text before it ends. -/
theorem locate_boundary (before after : List Char) :
    (ofText (before ++ after)).locate (bytes before).length = endPlace before := by
  have inside : (bytes before).length ≤ (bytes (before ++ after)).length := by
    rw [bytes_append, List.length_append]
    exact Nat.le_add_right _ _
  have here := getElem?_placesFrom_append .first before after 0
  rw [Nat.add_zero, getElem?_placesFrom_zero, foldl_after] at here
  exact locate_eq_of_getElem? (by rwa [Nat.min_eq_left inside])

/-- An offset inside a character is taken to the head of its line. -/
theorem locate_inside (before : List Char) {c : Char} (after : List Char) {n : Nat}
    (positive : 0 < n) (inside : n < c.utf8Size) :
    (ofText (before ++ c :: after)).locate ((bytes before).length + n) =
      ⟨(endPlace before).line, 1⟩ := by
  have within : (bytes before).length + n ≤ (bytes (before ++ c :: after)).length := by
    rw [bytes_append, List.length_append, length_bytes_cons]
    omega
  apply locate_eq_of_getElem?
  rw [Nat.min_eq_left within, getElem?_placesFrom_append,
    getElem?_placesFrom_inside _ _ positive inside, foldl_after]

end LineIndex

end SourceGate
