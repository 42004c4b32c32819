import SourceGate.Text.Ordered

/-! # Sets of names

A set of identifiers as the strictly increasing list of its members, so that equal sets are equal
values.
-/

namespace SourceGate

/-- Letters, digits and underscores of ASCII, no digit first, at most 128 of them. -/
def isPolicyName (name : String) : Bool :=
  match name.toList with
  | [] => false
  | c :: rest =>
    (c.isAlpha || c == '_') && rest.all (fun c => c.isAlphanum || c == '_') && rest.length ≤ 127

structure NameSet where
  names : List String
  increasing : names.Pairwise (· < ·)
  valid : ∀ n ∈ names, isPolicyName n = true

namespace NameSet

instance : DecidableEq NameSet := fun s t =>
  if h : s.names = t.names then
    isTrue (by cases s; cases t; simp_all)
  else isFalse (fun e => h (by rw [e]))

def empty : NameSet := ⟨[], .nil, by simp⟩

/-- Membership by the members' list. -/
def contains (s : NameSet) (name : String) : Bool := s.names.contains name

/-- The set with one more name. -/
def insert (s : NameSet) (name : String) (h : isPolicyName name = true) : NameSet where
  names := Text.place name s.names
  increasing := Text.increasing_place s.increasing
  valid := fun n hn => (Text.mem_place.1 hn).elim (fun e => e ▸ h) (s.valid n)

end NameSet

end SourceGate
