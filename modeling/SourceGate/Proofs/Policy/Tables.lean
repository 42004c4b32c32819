import SourceGate.Proofs.Policy.Stream

/-! # Tables made of lists

Two lists make a policy if every entry is a name once its outer blanks are off, and something is
forbidden. The tables then hold these names and no others, in the order of their bytes, so the lists
of a policy make it again.
-/

namespace SourceGate

theorem bind_eq_ok_iff {ε α β : Type} {x : Except ε α} {f : α → Except ε β} {b : β} :
    x >>= f = .ok b ↔ ∃ a, x = .ok a ∧ f a = .ok b := by
  cases x with
  | error e => simp [bind, Except.bind]
  | ok a => simp [bind, Except.bind]

theorem mapError_eq_ok_iff {ε ε' α : Type} {x : Except ε α} {f : ε → ε'} {a : α} :
    x.mapError f = .ok a ↔ x = .ok a := by
  cases x <;> simp [Except.mapError]

variable {name : String}

/-- An identifier of ASCII with at most 128 characters. -/
structure IsIdentifier (name : String) : Prop where
  length_le : name.toList.length ≤ 128
  starts : ∃ c ∈ name.toList.head?, c.isAlpha = true ∨ c = '_'
  word : ∀ c ∈ name.toList, c.isAlphanum = true ∨ c = '_'

theorem isIdentifier_of_isPolicyName (h : isPolicyName name = true) : IsIdentifier name where
  length_le := by
    unfold isPolicyName at h
    split at h
    · cases h
    · next first rest same =>
      simp only [Bool.and_eq_true, decide_eq_true_eq] at h
      rw [same, List.length_cons]
      omega
  starts := by
    unfold isPolicyName at h
    split at h
    · cases h
    · next first rest same =>
      simp only [Bool.and_eq_true, Bool.or_eq_true, beq_iff_eq] at h
      exact ⟨first, by simp [same], h.1.1⟩
  word _ := isAlphanum_or_of_mem h

/-- Texts of ASCII are ordered like their bytes. -/
theorem map_toNat_lt {s t : List Char} (hs : ∀ c ∈ s, c.toNat ≤ 122) (ht : ∀ c ∈ t, c.toNat ≤ 122)
    (h : s < t) :
    s.map (fun c => UInt8.ofNat c.toNat) < t.map fun c => UInt8.ofNat c.toNat := by
  induction h with
  | nil => exact .nil
  | cons _ ih =>
    exact .cons (ih (fun c hc => hs c (.tail _ hc)) fun c hc => ht c (.tail _ hc))
  | @rel a _ b _ lt =>
    refine .rel (UInt8.lt_iff_toNat_lt.2 ?_)
    have ha := hs a List.mem_cons_self
    have hb := ht b List.mem_cons_self
    have less : a.toNat < b.toNat := lt
    rw [UInt8.toNat_ofNat', UInt8.toNat_ofNat']
    omega

theorem bytes_lt {s t : String} (hs : isPolicyName s = true) (ht : isPolicyName t = true)
    (h : s < t) : s.toUTF8.toList < t.toUTF8.toList := by
  rw [bytes_of_isPolicyName hs, bytes_of_isPolicyName ht]
  exact map_toNat_lt (fun _ hc => (toNat_bounds_of_mem hs hc).2)
    (fun _ hc => (toNat_bounds_of_mem ht hc).2) h

namespace NameSet

theorem eq_of_mem_iff {s t : NameSet} (h : ∀ n, n ∈ s.names ↔ n ∈ t.names) : s = t := by
  have same := Policy.eq_of_increasing s.increasing t.increasing h
  cases s
  cases t
  cases same
  rfl

theorem increasing_bytes (s : NameSet) :
    s.names.Pairwise fun a b => a.toUTF8.toList < b.toUTF8.toList :=
  s.increasing.imp_of_mem fun ha hb => bytes_lt (s.valid _ ha) (s.valid _ hb)

theorem mem_insert {s : NameSet} (h : isPolicyName name = true) {n : String} :
    n ∈ (s.insert name h).names ↔ n = name ∨ n ∈ s.names :=
  Text.mem_place

end NameSet

namespace Policy

/-- A set with the trimmed entries of a list added. -/
structure Adds (set : NameSet) (entries : List String) (set' : NameSet) : Prop where
  valid : ∀ e ∈ entries, isPolicyName (Text.trimmed e) = true
  mem_iff : ∀ n, n ∈ set'.names ↔ n ∈ set.names ∨ ∃ e ∈ entries, Text.trimmed e = n

theorem Adds.unique {set : NameSet} {entries : List String} {s t : NameSet}
    (hs : Adds set entries s) (ht : Adds set entries t) : s = t :=
  NameSet.eq_of_mem_iff fun n => (hs.mem_iff n).trans (ht.mem_iff n).symm

theorem adds_of_collect {table : PolicyTable} {set set' : NameSet} {entries : List String}
    (h : collect table set entries = .ok set') : Adds set entries set' := by
  induction entries generalizing set with
  | nil =>
    cases h
    exact ⟨by simp, by simp⟩
  | cons entry rest ih =>
    rw [collect] at h
    split at h
    · next valid =>
      obtain ⟨later, mem⟩ := ih h
      refine ⟨List.forall_mem_cons.2 ⟨valid, later⟩, fun n => ?_⟩
      rw [mem, NameSet.mem_insert]
      simp only [List.mem_cons, exists_eq_or_imp]
      grind
    · cases h

theorem exists_collect (table : PolicyTable) {entries : List String}
    (valid : ∀ e ∈ entries, isPolicyName (Text.trimmed e) = true) (set : NameSet) :
    ∃ set', collect table set entries = .ok set' := by
  induction entries generalizing set with
  | nil => exact ⟨set, rfl⟩
  | cons entry rest ih =>
    obtain ⟨first, later⟩ := List.forall_mem_cons.1 valid
    rw [collect, dif_pos first]
    exact ih later _

theorem collect_eq_ok_iff {table : PolicyTable} {set set' : NameSet} {entries : List String} :
    collect table set entries = .ok set' ↔ Adds set entries set' := by
  refine ⟨adds_of_collect, fun adds => ?_⟩
  obtain ⟨found, collected⟩ := exists_collect table adds.valid set
  rw [collected, (adds_of_collect collected).unique adds]

/-- A policy has the trimmed entries of two lists as its tables. -/
structure MadeOf (policy : Policy) (allowed forbidden : List String) : Prop where
  allowed : Adds .empty allowed policy.allowed
  forbidden : Adds .empty forbidden policy.forbidden

theorem ofLists_eq_ok_iff {allowed forbidden : List String} {policy : Policy} :
    ofLists allowed forbidden = .ok policy ↔ policy.MadeOf allowed forbidden := by
  constructor
  · intro h
    unfold ofLists at h
    obtain ⟨a, ha, h⟩ := bind_eq_ok_iff.1 h
    obtain ⟨f, hf, h⟩ := bind_eq_ok_iff.1 h
    split at h
    · cases h
      exact ⟨adds_of_collect ha, adds_of_collect hf⟩
    · cases h
  · rintro ⟨allowed, forbidden⟩
    refine bind_eq_ok_iff.2 ⟨_, collect_eq_ok_iff.2 allowed, ?_⟩
    refine bind_eq_ok_iff.2 ⟨_, collect_eq_ok_iff.2 forbidden, ?_⟩
    rw [dif_pos policy.forbidden_nonempty]
    rfl

theorem adds_names (set : NameSet) : Adds .empty set.names set where
  valid n hn := by
    rw [trimmed_of_isPolicyName (set.valid n hn)]
    exact set.valid n hn
  mem_iff n := by
    refine ⟨fun hn => .inr ⟨n, hn, trimmed_of_isPolicyName (set.valid n hn)⟩, ?_⟩
    rintro (hn | ⟨e, he, rfl⟩)
    · cases hn
    · rwa [trimmed_of_isPolicyName (set.valid e he)]

/-- The tables of a policy make the policy. -/
theorem ofLists_names (policy : Policy) :
    ofLists policy.allowed.names policy.forbidden.names = .ok policy :=
  ofLists_eq_ok_iff.2 ⟨adds_names policy.allowed, adds_names policy.forbidden⟩

end Policy

end SourceGate
