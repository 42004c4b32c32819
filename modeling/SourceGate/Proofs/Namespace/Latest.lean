import SourceGate.Text.Ordered

/-! # The last entry of a name

A dictionary to which values are added under their names, one after another, holds of each name the
last value. Which value that is can be told from the list of all values, or from what they came from.
-/

namespace SourceGate

/-! ## The last of a list -/

/-- The last member of a list with a property. -/
def IsLast {α : Type} (p : α → Prop) (a : α) (as : List α) : Prop :=
  ∃ before after, as = before ++ a :: after ∧ p a ∧ ∀ b ∈ after, ¬ p b

section Last

variable {α β : Type} {p : α → Prop} {a b : α} {as bs : List α}

theorem not_isLast_nil : ¬ IsLast p a [] := by
  rintro ⟨before, after, split, -⟩
  simp at split

theorem isLast_cons_iff :
    IsLast p a (b :: as) ↔ IsLast p a as ∨ a = b ∧ p b ∧ ∀ c ∈ as, ¬ p c := by
  constructor
  · rintro ⟨before, after, split, holds, last⟩
    cases before with
    | nil =>
      cases split
      exact .inr ⟨rfl, holds, last⟩
    | cons first before =>
      cases split
      exact .inl ⟨before, after, rfl, holds, last⟩
  · rintro (⟨before, after, rfl, holds, last⟩ | ⟨rfl, holds, last⟩)
    · exact ⟨b :: before, after, rfl, holds, last⟩
    · exact ⟨[], as, rfl, holds, last⟩

theorem isLast_singleton_iff : IsLast p a [b] ↔ a = b ∧ p b := by
  simp [isLast_cons_iff, not_isLast_nil]

theorem IsLast.mem (h : IsLast p a as) : a ∈ as := by
  obtain ⟨before, after, rfl, -⟩ := h
  simp

theorem IsLast.holds (h : IsLast p a as) : p a := by
  obtain ⟨before, after, -, holds, -⟩ := h
  exact holds

theorem exists_isLast_iff : (∃ a, IsLast p a as) ↔ ∃ a ∈ as, p a := by
  constructor
  · rintro ⟨a, last⟩
    exact ⟨a, last.mem, last.holds⟩
  · intro h
    induction as with
    | nil => simp at h
    | cons b as ih =>
      by_cases later : ∃ c ∈ as, p c
      · obtain ⟨c, last⟩ := ih later
        exact ⟨c, isLast_cons_iff.2 (.inl last)⟩
      · simp only [List.mem_cons, exists_eq_or_imp, later, or_false] at h
        simp only [not_exists, not_and] at later
        exact ⟨b, isLast_cons_iff.2 (.inr ⟨rfl, h, later⟩)⟩

theorem isLast_congr {q : α → Prop} (h : ∀ b ∈ as, p b ↔ q b) :
    IsLast p a as ↔ IsLast q a as := by
  induction as with
  | nil => simp [not_isLast_nil]
  | cons b as ih =>
    rw [List.forall_mem_cons] at h
    simp only [isLast_cons_iff, ih h.2, h.1]
    grind

theorem IsLast.of_imp {q : α → Prop} (last : IsLast p a as) (h : ∀ b, q b → p b) (ha : q a) :
    IsLast q a as := by
  obtain ⟨before, after, rfl, -, none⟩ := last
  exact ⟨before, after, rfl, ha, fun b hb hq => none b hb (h b hq)⟩

theorem isLast_append_iff :
    IsLast p a (as ++ bs) ↔ IsLast p a bs ∨ IsLast p a as ∧ ∀ b ∈ bs, ¬ p b := by
  induction as with
  | nil => simp [not_isLast_nil]
  | cons c as ih =>
    simp only [List.cons_append, isLast_cons_iff, ih, List.forall_mem_append, or_and_right,
      and_assoc, or_assoc]

/-- The last of all entries is the last one of the last entry list that has any. -/
theorem isLast_flatMap_iff {g : β → List α} {xs : List β} :
    IsLast p a (xs.flatMap g) ↔
      ∃ x, IsLast (fun x => ∃ c ∈ g x, p c) x xs ∧ IsLast p a (g x) := by
  induction xs with
  | nil => simp [not_isLast_nil]
  | cons y ys ih =>
    have none_later : (∀ c ∈ ys.flatMap g, ¬ p c) ↔ ∀ x ∈ ys, ¬ ∃ c ∈ g x, p c := by
      simp only [List.mem_flatMap]
      grind
    rw [List.flatMap_cons, isLast_append_iff, ih, none_later]
    simp only [isLast_cons_iff, or_and_right, exists_or]
    apply or_congr_right
    constructor
    · rintro ⟨last, none⟩
      exact ⟨y, ⟨rfl, ⟨a, last.mem, last.holds⟩, none⟩, last⟩
    · rintro ⟨x, ⟨rfl, -, none⟩, last⟩
      exact ⟨last, none⟩

theorem isLast_map_iff {f : β → α} {xs : List β} :
    IsLast p a (xs.map f) ↔ ∃ x, f x = a ∧ IsLast (fun x => p (f x)) x xs := by
  induction xs with
  | nil => simp [not_isLast_nil]
  | cons y ys ih =>
    simp only [List.map_cons, isLast_cons_iff, ih, List.forall_mem_map]
    grind

end Last

/-! ## Dictionaries -/

namespace Text

variable {α : Type} {key : String} {a : α} {known : List (String × α)}

/-- Values entered under their names: the last of a name counts, else what was there before. -/
theorem lookup_foldl_enter_iff (name : α → String) (as : List α) :
    lookup key (as.foldl (fun known a => enter (name a) a known) known) = some a ↔
      IsLast (name · = key) a as ∨ lookup key known = some a ∧ ∀ b ∈ as, name b ≠ key := by
  induction as generalizing known with
  | nil => simp [not_isLast_nil]
  | cons b as ih =>
    rw [List.foldl_cons, ih, lookup_enter, isLast_cons_iff, List.forall_mem_cons]
    by_cases same : name b = key
    · simp [same, eq_comm]
    · simp [same]

theorem increasing_foldl_enter (name : α → String) (as : List α)
    (h : (known.map (·.1)).Pairwise (· < ·)) :
    ((as.foldl (fun known a => enter (name a) a known) known).map (·.1)).Pairwise (· < ·) := by
  induction as generalizing known with
  | nil => exact h
  | cons b as ih =>
    apply ih
    rw [map_fst_enter]
    exact increasing_place h

/-- In a dictionary each entry is found under its key. -/
theorem mem_iff_lookup_eq (h : (known.map (·.1)).Pairwise (· < ·)) :
    (key, a) ∈ known ↔ lookup key known = some a := by
  induction known with
  | nil => simp [lookup]
  | cons entry rest ih =>
    obtain ⟨k, b⟩ := entry
    rw [List.map_cons, List.pairwise_cons] at h
    rw [List.mem_cons, lookup_cons, ih h.2]
    by_cases same : k = key
    · subst same
      have none_later : lookup k rest ≠ some a := by
        rw [ne_eq, ← ih h.2]
        intro later
        exact String.lt_irrefl k (h.1 k (List.mem_map_of_mem later))
      simp [none_later, eq_comm]
    · simp [same, Ne.symm same]

end Text

end SourceGate
