import SourceGate.Tree.Basic

/-! # What an expression may statically be

Text that a string expression folds to, the entries that a subscript of a display may select, and
the expressions as which another may turn up when literal subscripts and conditional forms are
looked through. All of these are parts of the expression they are taken from.
-/

namespace SourceGate.Tree

/-- The text of string constants joined by `+`. -/
def staticText? : Expr → Option String
  | .str _ text => some text
  | .concat _ left right =>
    match staticText? left, staticText? right with
    | some a, some b => some (a ++ b)
    | _, _ => none
  | _ => none

/-- A key that is known without running anything. -/
inductive StaticKey where
  | text (value : String)
  | int (value : Int)
  deriving DecidableEq, Repr

def staticKey? : Expr → Option StaticKey
  | .int _ value => some (.int value)
  | e => (staticText? e).map .text

/-- The items that an index may select: one by a known integer, which counts from the end if it is
negative, and all by anything else. -/
def selectItems (items : List Expr) (index : Expr) : List Expr :=
  match index with
  | .int _ position =>
    let place := if position < 0 then items.length + position else position
    if place < 0 then [] else items[place.toNat]?.toList
  | _ => items

/-- The values of the entries whose key is `wanted`; `none` if some entry has no known key and so
may have that one. -/
def matching (wanted : StaticKey) : List (Option Expr × Expr) → Option (List Expr)
  | [] => some []
  | (none, _) :: _ => none
  | (some key, value) :: rest =>
    match staticKey? key with
    | none => none
    | some found =>
      (matching wanted rest).map fun more => if found = wanted then value :: more else more

/-- The values that a key may select. -/
def selectEntries (entries : List (Option Expr × Expr)) (key : Expr) : List Expr :=
  match staticKey? key with
  | none => entries.map (·.2)
  | some wanted => (matching wanted entries).getD (entries.map (·.2))

/-- What a subscript of a display may select; nothing from any other expression. -/
def selected (base index : Expr) : List Expr :=
  match base with
  | .dict _ entries => selectEntries entries index
  | .list _ items | .tuple _ items | .set _ items => selectItems items index
  | _ => []

mutual

/-- The expressions as which an expression may turn up. -/
def candidates : Expr → List Expr
  | .subscript mark value index =>
    let found := (candidates value).flatMap fun base => selected base index
    if found.isEmpty then [.subscript mark value index] else found
  | .branch _ _ values => candidatesAll values
  | e => [e]

def candidatesAll : List Expr → List Expr
  | [] => []
  | e :: rest => candidates e ++ candidatesAll rest

end

theorem matching_subset {wanted : StaticKey} {entries : List (Option Expr × Expr)}
    {found : List Expr} (h : matching wanted entries = some found) :
    ∀ e ∈ found, ∃ key, (key, e) ∈ entries := by
  induction entries generalizing found with
  | nil => simp_all [matching]
  | cons entry rest ih =>
    obtain ⟨key, value⟩ := entry
    cases key with
    | none => simp [matching] at h
    | some key =>
      simp only [matching] at h
      split at h
      · simp at h
      · obtain ⟨more, hm, rfl⟩ := Option.map_eq_some_iff.1 h
        intro e he
        have : e = value ∨ e ∈ more := by
          split at he <;> simp_all
        rcases this with rfl | he
        · exact ⟨some key, by simp⟩
        · obtain ⟨k, hk⟩ := ih hm e he
          exact ⟨k, by simp [hk]⟩

theorem mem_selectEntries {entries : List (Option Expr × Expr)} {key e : Expr}
    (h : e ∈ selectEntries entries key) : ∃ k, (k, e) ∈ entries := by
  have all : e ∈ entries.map (·.2) → ∃ k, (k, e) ∈ entries := by simp
  simp only [selectEntries] at h
  split at h
  · exact all h
  · next wanted _ =>
    cases hm : matching wanted entries with
    | none => exact all (by simpa [hm] using h)
    | some found => exact matching_subset hm e (by simpa [hm] using h)

theorem mem_selectItems {items : List Expr} {index e : Expr} (h : e ∈ selectItems items index) :
    e ∈ items := by
  unfold selectItems at h
  split at h
  · next position =>
    by_cases hn : position < 0
    · by_cases hp : (items.length : Int) + position < 0
      · simp [hn, hp] at h
      · exact List.mem_of_getElem? (Option.mem_toList.1 (by simpa [hn, hp] using h))
    · exact List.mem_of_getElem? (Option.mem_toList.1 (by simpa [hn] using h))
  · exact h

theorem sizeOf_lt_of_mem_entries {entries : List (Option Expr × Expr)} {key : Option Expr}
    {e : Expr} (h : (key, e) ∈ entries) : sizeOf e < sizeOf entries := by
  have := List.sizeOf_lt_of_mem h
  simp only [Prod.mk.sizeOf_spec] at this
  omega

/-- A selected expression is a proper part of the display it is selected from. -/
theorem sizeOf_lt_of_mem_selected {base index e : Expr} (h : e ∈ selected base index) :
    sizeOf e < sizeOf base := by
  unfold selected at h
  split at h
  · obtain ⟨k, hk⟩ := mem_selectEntries h
    have := sizeOf_lt_of_mem_entries hk
    simp only [Expr.dict.sizeOf_spec]
    omega
  · have := List.sizeOf_lt_of_mem (mem_selectItems h)
    simp only [Expr.list.sizeOf_spec]
    omega
  · have := List.sizeOf_lt_of_mem (mem_selectItems h)
    simp only [Expr.tuple.sizeOf_spec]
    omega
  · have := List.sizeOf_lt_of_mem (mem_selectItems h)
    simp only [Expr.set.sizeOf_spec]
    omega
  · simp at h

mutual

/-- A candidate is a part of the expression, proper or not. -/
theorem sizeOf_le_of_mem_candidates {e c : Expr} (h : c ∈ candidates e) :
    sizeOf c ≤ sizeOf e := by
  cases e with
  | subscript mark value index =>
    simp only [candidates] at h
    split at h
    · simp_all
    · obtain ⟨base, hb, hs⟩ := List.mem_flatMap.1 h
      have := sizeOf_le_of_mem_candidates hb
      have := sizeOf_lt_of_mem_selected hs
      simp only [Expr.subscript.sizeOf_spec]
      omega
  | branch mark tests values =>
    have := sizeOf_le_of_mem_candidatesAll (by simpa only [candidates] using h)
    simp only [Expr.branch.sizeOf_spec]
    omega
  | _ => simp_all [candidates]

theorem sizeOf_le_of_mem_candidatesAll {es : List Expr} {c : Expr} (h : c ∈ candidatesAll es) :
    sizeOf c ≤ sizeOf es := by
  cases es with
  | nil => simp [candidatesAll] at h
  | cons e rest =>
    simp only [candidatesAll, List.mem_append] at h
    simp only [List.cons.sizeOf_spec]
    rcases h with h | h
    · have := sizeOf_le_of_mem_candidates h
      omega
    · have := sizeOf_le_of_mem_candidatesAll h
      omega

end

end SourceGate.Tree
