import Mathlib.Data.List.TakeWhile
import SourceGate.Policy.Basic

/-! # Names of a policy

A name is made of letters, digits and underscores. So nothing is trimmed or cut off it, it is its
own root, and a root that is allowed is never empty.
-/

namespace SourceGate

variable {name : String}

theorem isAlphanum_or_of_mem (h : isPolicyName name = true) {c : Char} (hc : c ∈ name.toList) :
    c.isAlphanum = true ∨ c = '_' := by
  unfold isPolicyName at h
  split at h
  · cases h
  · next first rest same =>
    simp only [Bool.and_eq_true, Bool.or_eq_true, beq_iff_eq, List.all_eq_true] at h
    rw [same] at hc
    rcases List.mem_cons.1 hc with rfl | hc
    · exact h.1.1.imp_left fun alpha => by simp [Char.isAlphanum, alpha]
    · exact h.1.2 c hc

/-- The characters of a name are behind those that separate and before the end of ASCII. -/
theorem toNat_bounds_of_mem (h : isPolicyName name = true) {c : Char} (hc : c ∈ name.toList) :
    48 ≤ c.toNat ∧ c.toNat ≤ 122 := by
  rcases isAlphanum_or_of_mem h hc with word | rfl
  · change ((decide (c.val ≥ 65 ∧ c.val ≤ 90) || (decide (c.val ≥ 97) && decide (c.val ≤ 122))) ||
      (decide (c.val ≥ 48) && decide (c.val ≤ 57))) = true at word
    simp only [Bool.or_eq_true, Bool.and_eq_true, decide_eq_true_eq, ge_iff_le,
      UInt32.le_iff_toNat_le] at word
    change ((65 ≤ c.toNat ∧ c.toNat ≤ 90) ∨ (97 ≤ c.toNat ∧ c.toNat ≤ 122)) ∨
      (48 ≤ c.toNat ∧ c.toNat ≤ 57) at word
    omega
  · decide

theorem Text.trim_eq_self {text : List Char} (h : ∀ c ∈ text, isBlank c = false) :
    trim text = text := by
  have left {text : List Char} (h : ∀ c ∈ text, isBlank c = false) : trimLeft text = text := by
    cases text with
    | nil => rfl
    | cons c rest => simp [trimLeft, h c]
  rw [trim, left h, left fun c hc => h c (List.mem_reverse.1 hc), List.reverse_reverse]

theorem isBlank_eq_false_of_mem (h : isPolicyName name = true) {c : Char} (hc : c ∈ name.toList) :
    Text.isBlank c = false := by
  have := toNat_bounds_of_mem h hc
  simp only [Text.isBlank, Bool.or_eq_false_iff, Bool.and_eq_false_iff, beq_eq_false_iff_ne,
    decide_eq_false_iff_not]
  omega

theorem trimmed_of_isPolicyName (h : isPolicyName name = true) : Text.trimmed name = name := by
  rw [Text.trimmed, Text.trim_eq_self fun _ => isBlank_eq_false_of_mem h, String.ofList_toList]

namespace Policy

theorem moduleRoot_of_isPolicyName (h : isPolicyName name = true) : moduleRoot name = name := by
  have undotted : name.toList.takeWhile (· != '.') = name.toList := by
    rw [List.takeWhile_eq_self_iff]
    intro c hc
    rw [bne_iff_ne]
    rintro rfl
    exact absurd (toNat_bounds_of_mem h hc).1 (by decide)
  rw [moduleRoot, undotted]
  exact trimmed_of_isPolicyName h

/-- A root that is allowed is a name, so it is not empty. -/
theorem allows_iff {policy : Policy} {path : String} :
    policy.allows path = true ↔ moduleRoot path ∈ policy.allowed.names := by
  have nameless : "" ∉ policy.allowed.names := fun h => by
    have valid := policy.allowed.valid "" h
    simp [isPolicyName] at valid
  constructor
  · intro h
    simp only [allows, NameSet.contains, Bool.and_eq_true, List.contains_iff_mem] at h
    exact h.2
  · intro h
    have nonempty : moduleRoot path ≠ "" := fun e => nameless (e ▸ h)
    simp [allows, NameSet.contains, nonempty, h]

theorem forbids_iff {policy : Policy} {operation : String} :
    policy.forbids operation = true ↔ operation ∈ policy.forbidden.names :=
  List.contains_iff_mem

end Policy

end SourceGate
