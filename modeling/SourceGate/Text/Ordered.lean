/-! # Ordered lists of texts

Sets and dictionaries that are read in the order of their texts are kept as strictly increasing
lists. The order is by code point, which is the order of the encoded bytes.
-/

namespace SourceGate.Text

/-- A text put at its place in an increasing list. -/
def place (text : String) : List String → List String
  | [] => [text]
  | t :: rest =>
    if text < t then text :: t :: rest
    else if text = t then t :: rest
    else t :: place text rest

theorem mem_place {text t : String} {texts : List String} :
    t ∈ place text texts ↔ t = text ∨ t ∈ texts := by
  induction texts with
  | nil => simp [place]
  | cons m rest ih =>
    simp only [place]
    split
    · simp
    · split
      · simp_all
      · simp [ih]; grind

theorem increasing_place {text : String} {texts : List String}
    (h : texts.Pairwise (· < ·)) : (place text texts).Pairwise (· < ·) := by
  induction texts with
  | nil => simp [place]
  | cons m rest ih =>
    simp only [place]
    have hm := List.pairwise_cons.1 h
    split
    · next lt =>
      exact List.pairwise_cons.2 ⟨fun n hn => by
        rcases List.mem_cons.1 hn with rfl | hn
        · exact lt
        · exact String.lt_trans lt (hm.1 n hn), h⟩
    · split
      · exact h
      · next nlt ne =>
        refine List.pairwise_cons.2 ⟨fun n hn => ?_, ih hm.2⟩
        rcases mem_place.1 hn with rfl | hn
        · have le : m ≤ n := String.not_lt.1 nlt
          exact Decidable.byContradiction fun h' => ne (String.le_antisymm (String.not_lt.1 h') le)
        · exact hm.1 n hn

/-- A dictionary with an entry put at its key's place; an entry of that key is replaced. -/
def enter {α : Type} (key : String) (value : α) : List (String × α) → List (String × α)
  | [] => [(key, value)]
  | (k, v) :: rest =>
    if key < k then (key, value) :: (k, v) :: rest
    else if key = k then (key, value) :: rest
    else (k, v) :: enter key value rest

/-- The keys of a dictionary are placed like the texts of a set. -/
theorem map_fst_enter {α : Type} (key : String) (value : α) (entries : List (String × α)) :
    (enter key value entries).map (·.1) = place key (entries.map (·.1)) := by
  induction entries with
  | nil => rfl
  | cons entry rest ih =>
    obtain ⟨k, v⟩ := entry
    simp only [enter, place, List.map_cons]
    split
    · rfl
    · split
      · simp_all
      · simp [ih]

/-- The value of a key. -/
def lookup {α : Type} (key : String) (entries : List (String × α)) : Option α :=
  (entries.find? fun entry => entry.1 == key).map (·.2)

theorem lookup_cons {α : Type} (other key : String) (value : α) (entries : List (String × α)) :
    lookup other ((key, value) :: entries) =
      if key = other then some value else lookup other entries := by
  by_cases h : key = other <;> simp [lookup, h]

theorem lookup_enter {α : Type} (key other : String) (value : α) (entries : List (String × α)) :
    lookup other (enter key value entries) =
      if key = other then some value else lookup other entries := by
  induction entries with
  | nil => simp [enter, lookup_cons]
  | cons entry rest ih =>
    obtain ⟨k, v⟩ := entry
    simp only [enter]
    split
    · rw [lookup_cons]
    · split
      · next e =>
        subst e
        simp only [lookup_cons]
        split <;> rfl
      · next ne =>
        simp only [lookup_cons, ih]
        by_cases h : k = other
        · subst h
          simp [ne]
        · simp [h]

end SourceGate.Text
