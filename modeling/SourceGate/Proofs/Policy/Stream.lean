import SourceGate.Proofs.Policy.Name
import SourceGate.Proofs.Text.Bytes

/-! # What the hashed stream tells of a policy

Every entry of the stream ends in a zero, which no name holds, so the stream gives back the list of
its entries. Where the second table begins is told by its heading alone, and a name may be spelled
like that heading. Where it is the last of the allowed names or the first of the forbidden ones, two
policies have one stream; in every other case the stream identifies the policy.
-/

namespace SourceGate

/-! ## The bytes of a text -/

theorem eq_of_bytes_eq {s t : String} (h : s.toUTF8.toList = t.toUTF8.toList) : s = t := by
  rw [toList_eq_data, toList_eq_data, Array.toList_inj] at h
  exact String.toByteArray_inj.1 (ByteArray.ext h)

/-- A name is written with one byte for each character. -/
theorem bytes_of_isPolicyName {name : String} (h : isPolicyName name = true) :
    name.toUTF8.toList = name.toList.map fun c => UInt8.ofNat c.toNat := by
  rw [bytes_eq_flatMap, List.map_eq_flatMap]
  refine List.flatMap_congr fun c hc => ?_
  have small : c.val.toNat ≤ 127 := Nat.le_trans (toNat_bounds_of_mem h hc).2 (by decide)
  rw [String.utf8EncodeChar]
  exact if_pos small

/-- A name has no zero among its bytes. -/
theorem zero_notMem_bytes {name : String} (h : isPolicyName name = true) :
    0 ∉ name.toUTF8.toList := by
  rw [bytes_of_isPolicyName h, List.mem_map]
  rintro ⟨c, hc, zero⟩
  obtain ⟨positive, ascii⟩ := toNat_bounds_of_mem h hc
  have same : c.toNat % 256 = 0 := congrArg UInt8.toNat zero
  omega

namespace Policy

/-! ## The entries of the stream -/

/-- What stands before a first zero is not longer on one side than on the other. -/
theorem eq_nil_of_append_zero {before between rest rest' : List UInt8}
    (zero_free : 0 ∉ before ++ between) (h : 0 :: rest = between ++ 0 :: rest') :
    between = [] := by
  cases between with
  | nil => rfl
  | cons b more =>
    obtain ⟨rfl, -⟩ := List.cons.inj h
    exact absurd (by simp) zero_free

/-- An entry is read up to its zero. -/
theorem zeroEnded_append_inj {name name' : String} {rest rest' : List UInt8}
    (valid : isPolicyName name = true) (valid' : isPolicyName name' = true)
    (h : zeroEnded name ++ rest = zeroEnded name' ++ rest') : name = name' ∧ rest = rest' := by
  simp only [zeroEnded, List.append_assoc, List.singleton_append] at h
  rcases List.append_eq_append_iff.1 h with ⟨between, same, h⟩ | ⟨between, same, h⟩
  · obtain rfl := eq_nil_of_append_zero (same ▸ zero_notMem_bytes valid') h
    rw [List.append_nil] at same
    exact ⟨(eq_of_bytes_eq same).symm, (List.cons.inj h).2⟩
  · obtain rfl := eq_nil_of_append_zero (same ▸ zero_notMem_bytes valid) h
    rw [List.append_nil] at same
    exact ⟨eq_of_bytes_eq same, (List.cons.inj h).2.symm⟩

/-- The stream of a list of names gives the list back. -/
theorem eq_of_flatMap_zeroEnded_eq {names names' : List String}
    (valid : ∀ n ∈ names, isPolicyName n = true) (valid' : ∀ n ∈ names', isPolicyName n = true)
    (h : names.flatMap zeroEnded = names'.flatMap zeroEnded) : names = names' := by
  induction names generalizing names' with
  | nil =>
    cases names' with
    | nil => rfl
    | cons name' rest' => simp [zeroEnded] at h
  | cons name rest ih =>
    cases names' with
    | nil => simp [zeroEnded] at h
    | cons name' rest' =>
      obtain ⟨first, later⟩ := List.forall_mem_cons.1 valid
      obtain ⟨first', later'⟩ := List.forall_mem_cons.1 valid'
      rw [List.flatMap_cons, List.flatMap_cons] at h
      obtain ⟨same, h⟩ := zeroEnded_append_inj first first' h
      rw [same, ih later later' h]

/-- The heading of the forbidden names. -/
def heading : String := "forbidden_operations"

/-- What is listed in the stream behind the first heading. -/
def listing (policy : Policy) : List String :=
  policy.allowed.names ++ heading :: policy.forbidden.names

theorem tableBytes_eq_flatMap (policy : Policy) :
    policy.tableBytes = ("allowed_modules" :: policy.listing).flatMap zeroEnded := by
  simp [tableBytes, listing, heading]

theorem isPolicyName_of_mem_listing {policy : Policy} :
    ∀ n ∈ "allowed_modules" :: policy.listing, isPolicyName n = true := by
  simp only [listing, List.mem_cons, List.mem_append]
  rintro n (rfl | allowed | rfl | forbidden)
  · decide
  · exact policy.allowed.valid n allowed
  · decide
  · exact policy.forbidden.valid n forbidden

/-- Policies have one stream if they have one listing. -/
theorem tableBytes_eq_iff_listing {policy other : Policy} :
    policy.tableBytes = other.tableBytes ↔ policy.listing = other.listing := by
  rw [tableBytes_eq_flatMap, tableBytes_eq_flatMap]
  refine ⟨fun h => ?_, fun h => by rw [h]⟩
  have same := eq_of_flatMap_zeroEnded_eq isPolicyName_of_mem_listing isPolicyName_of_mem_listing h
  exact (List.cons.inj same).2

/-! ## The tables behind the listing -/

/-- The other policy has the heading as its last allowed name, this one as its first forbidden name,
and there is no other difference. -/
def ShiftsTo (policy other : Policy) : Prop :=
  policy.forbidden.names = heading :: other.forbidden.names ∧
    other.allowed.names = policy.allowed.names ++ [heading]

variable {policy other : Policy}

theorem eq_of_names_eq (allowed : policy.allowed.names = other.allowed.names)
    (forbidden : policy.forbidden.names = other.forbidden.names) : policy = other := by
  obtain ⟨⟨_, _, _⟩, ⟨_, _, _⟩, _⟩ := policy
  obtain ⟨⟨_, _, _⟩, ⟨_, _, _⟩, _⟩ := other
  cases allowed
  cases forbidden
  rfl

theorem ShiftsTo.listing_eq (h : policy.ShiftsTo other) : policy.listing = other.listing := by
  rw [listing, listing, h.1, h.2, List.append_assoc, List.singleton_append]

/-- If the tables of one listing are divided behind one another, nothing but the heading stands
between, for what stands there is ordered behind it and before it. -/
theorem eq_or_shiftsTo_of_append {between : List String}
    (allowed : other.allowed.names = policy.allowed.names ++ between)
    (forbidden : heading :: policy.forbidden.names = between ++ heading :: other.forbidden.names) :
    policy = other ∨ policy.ShiftsTo other := by
  cases between with
  | nil =>
    rw [List.append_nil] at allowed
    exact .inl (eq_of_names_eq allowed.symm (List.cons.inj forbidden).2)
  | cons name rest =>
    rw [List.cons_append, List.cons.injEq] at forbidden
    obtain ⟨rfl, forbidden⟩ := forbidden
    have nothing : rest = [] := by
      refine List.eq_nil_iff_forall_not_mem.2 fun n hn => ?_
      have behind : heading < n := by
        have increasing := allowed ▸ other.allowed.increasing
        exact List.rel_of_pairwise_cons (List.pairwise_append.1 increasing).2.1 hn
      have before : n < heading := by
        have increasing := forbidden ▸ policy.forbidden.increasing
        exact (List.pairwise_append.1 increasing).2.2 n hn heading List.mem_cons_self
      exact String.lt_irrefl n (String.lt_trans before behind)
    subst nothing
    exact .inr ⟨forbidden, allowed⟩

theorem listing_eq_iff :
    policy.listing = other.listing ↔
      policy = other ∨ policy.ShiftsTo other ∨ other.ShiftsTo policy := by
  constructor
  · intro h
    rcases List.append_eq_append_iff.1 h with ⟨between, allowed, forbidden⟩ |
      ⟨between, allowed, forbidden⟩
    · exact (eq_or_shiftsTo_of_append allowed forbidden).imp_right .inl
    · exact (eq_or_shiftsTo_of_append allowed forbidden).imp Eq.symm .inr
  · rintro (rfl | h | h)
    · rfl
    · exact h.listing_eq
    · exact h.listing_eq.symm

/-! ## Moving a name -/

/-- The other policy has the name among the allowed ones and not among the forbidden ones, this one
the other way round, and there is no other difference. -/
structure Moves (policy : Policy) (name : String) (other : Policy) : Prop where
  forbidden : ∀ n, n ∈ policy.forbidden.names ↔ n = name ∨ n ∈ other.forbidden.names
  allowed : ∀ n, n ∈ other.allowed.names ↔ n = name ∨ n ∈ policy.allowed.names
  not_forbidden : name ∉ other.forbidden.names
  not_allowed : name ∉ policy.allowed.names

theorem eq_of_increasing {names names' : List String} (increasing : names.Pairwise (· < ·))
    (increasing' : names'.Pairwise (· < ·)) (h : ∀ n, n ∈ names ↔ n ∈ names') :
    names = names' := by
  have distinct {names : List String} (h : names.Pairwise (· < ·)) : names.Nodup :=
    h.imp fun lt => by
      rintro rfl
      exact String.lt_irrefl _ lt
  refine List.Perm.eq_of_pairwise (fun a b _ _ lt lt' => ?_) increasing increasing'
    ((List.perm_ext_iff_of_nodup (distinct increasing) (distinct increasing')).2 h)
  exact absurd (String.lt_trans lt lt') (String.lt_irrefl a)

/-- A move goes unseen only for a name like the heading that is behind all allowed names and before
all other forbidden ones. -/
theorem Moves.tableBytes_eq_iff {name : String} (moves : policy.Moves name other) :
    policy.tableBytes = other.tableBytes ↔
      name = heading ∧ (∀ n ∈ policy.allowed.names, n < heading) ∧
        ∀ n ∈ other.forbidden.names, heading < n := by
  rw [tableBytes_eq_iff_listing, listing_eq_iff]
  have gone : name ∈ policy.forbidden.names := (moves.forbidden name).2 (.inl rfl)
  constructor
  · rintro (rfl | ⟨forbidden, allowed⟩ | ⟨forbidden, -⟩)
    · exact absurd gone moves.not_forbidden
    · rw [forbidden] at gone
      have same : name = heading := (List.mem_cons.1 gone).resolve_right moves.not_forbidden
      have behind := allowed ▸ other.allowed.increasing
      have before := forbidden ▸ policy.forbidden.increasing
      refine ⟨same, fun n hn => ?_, fun n hn => List.rel_of_pairwise_cons before hn⟩
      exact (List.pairwise_append.1 behind).2.2 n hn heading (List.mem_singleton_self _)
    · exact absurd (forbidden ▸ List.mem_cons_of_mem heading gone) moves.not_forbidden
  · rintro ⟨rfl, behind, before⟩
    refine .inr (.inl ⟨?_, ?_⟩)
    · refine eq_of_increasing policy.forbidden.increasing
        (List.pairwise_cons.2 ⟨before, other.forbidden.increasing⟩) fun n => ?_
      rw [moves.forbidden, List.mem_cons]
    · refine eq_of_increasing other.allowed.increasing (List.pairwise_append.2
        ⟨policy.allowed.increasing, List.pairwise_singleton _ _, fun n hn m hm => ?_⟩) fun n => ?_
      · rw [List.mem_singleton.1 hm]
        exact behind n hn
      · rw [moves.allowed, List.mem_append, List.mem_singleton, or_comm]

/-- How far the stream of a policy tells it from another. -/
structure ToldApart (policy other : Policy) : Prop where
  stream : policy.tableBytes = other.tableBytes ↔
    policy = other ∨ policy.ShiftsTo other ∨ other.ShiftsTo policy
  /-- Policies that allow no module of the heading's name are identified. -/
  identified : heading ∉ policy.allowed.names → heading ∉ other.allowed.names →
    policy.tableBytes = other.tableBytes → policy = other
  moved : ∀ {name}, policy.Moves name other → (policy.tableBytes = other.tableBytes ↔
    name = heading ∧ (∀ n ∈ policy.allowed.names, n < heading) ∧
      ∀ n ∈ other.forbidden.names, heading < n)

theorem stream_tells_apart (policy other : Policy) : ToldApart policy other where
  stream := tableBytes_eq_iff_listing.trans listing_eq_iff
  identified free free' h := by
    rcases listing_eq_iff.1 (tableBytes_eq_iff_listing.1 h) with same | ⟨-, shifted⟩ | ⟨-, shifted⟩
    · exact same
    · exact absurd (by simp [shifted]) free'
    · exact absurd (by simp [shifted]) free
  moved moves := moves.tableBytes_eq_iff

/-- With `open` forbidden, it makes no difference to the stream whether the name of the heading is
allowed as a module or forbidden as an operation. -/
theorem heading_moves_unseen :
    ∃ policy other, ofLists [] [heading, "open"] = .ok policy ∧
      ofLists [heading] ["open"] = .ok other ∧ policy.Moves heading other ∧
      policy.allowed.names ≠ other.allowed.names ∧
      policy.forbidden.names ≠ other.forbidden.names ∧
      policy.tableBytes = other.tableBytes ∧ policy.fingerprint = other.fingerprint := by
  let policy : Policy := ⟨.empty, namesOf [heading, "open"], by decide⟩
  let other : Policy := ⟨namesOf [heading], namesOf ["open"], by decide⟩
  have moves : policy.Moves heading other := by
    refine ⟨fun n => ?_, fun n => ?_, by decide, by decide⟩
    · change n ∈ [heading, "open"] ↔ n = heading ∨ n ∈ ["open"]
      exact List.mem_cons
    · change n ∈ [heading] ↔ n = heading ∨ n ∈ []
      exact List.mem_cons
  have stream : policy.tableBytes = other.tableBytes :=
    moves.tableBytes_eq_iff.2 ⟨rfl, by decide, by decide⟩
  exact ⟨policy, other, rfl, rfl, moves, by decide, by decide, stream,
    congrArg (fun bytes => Digest.hex (Digest.sha256 bytes)) stream⟩

end Policy

end SourceGate
