import SourceGate.Proofs.Verdict.Places
import SourceGate.Proofs.Namespace.Latest

/-! # What is selected and what is taken

When a module runs, a subscript of a display takes one of its elements. From a list or a tuple a
known index selects just the element that it takes, and any other index selects all. From a dict
display, where the last entry with a key counts, the entry that is taken is among those selected,
whatever the keys that are not known, the splatted mappings and the wanted key turn out to be.
-/

namespace SourceGate.Tree

/-! ## Tables -/

section Table

variable {κ α : Type} {same : κ → κ → Bool} {key wanted : κ} {a : α} {table : List (κ × α)}

/-- A value put under a key: in the place of what is there under the same key, or as the last. -/
def put (same : κ → κ → Bool) (key : κ) (a : α) : List (κ × α) → List (κ × α)
  | [] => [(key, a)]
  | entry :: rest =>
    if same entry.1 key then (entry.1, a) :: rest else entry :: put same key a rest

/-- What is in a table under a key. -/
def lookUp (same : κ → κ → Bool) (wanted : κ) (table : List (κ × α)) : Option α :=
  (table.find? fun entry => same entry.1 wanted).map (·.2)

theorem lookUp_put (symm : ∀ a b, same a b = true → same b a = true)
    (trans : ∀ a b c, same a b = true → same b c = true → same a c = true) :
    lookUp same wanted (put same key a table) =
      if same key wanted then some a else lookUp same wanted table := by
  induction table with
  | nil =>
    by_cases found : same key wanted <;> simp [put, lookUp, found]
  | cons entry rest ih =>
    simp only [lookUp] at ih
    by_cases there : same entry.1 key
    · -- The entry that is replaced and the new one are the same as the same keys.
      have agree : same entry.1 wanted = same key wanted :=
        Bool.eq_iff_iff.2 ⟨trans _ _ _ (symm _ _ there), trans _ _ _ there⟩
      by_cases found : same key wanted <;> simp [put, lookUp, there, agree, found]
    · have apart (first : same entry.1 wanted = true) : ¬ same key wanted = true :=
        fun found => there (trans _ _ _ first (symm _ _ found))
      by_cases first : same entry.1 wanted
      · simp [put, lookUp, there, first, apart first]
      · simp [put, lookUp, there, first, ih]

/-- Of what is put into a table, the last under a key is there. -/
theorem lookUp_foldl_put_iff (symm : ∀ a b, same a b = true → same b a = true)
    (trans : ∀ a b c, same a b = true → same b c = true → same a c = true)
    (entries : List (κ × α)) :
    lookUp same wanted (entries.foldl (fun table e => put same e.1 e.2 table) table) = some a ↔
      (∃ key, IsLast (fun e => same e.1 wanted = true) (key, a) entries) ∨
        lookUp same wanted table = some a ∧ ∀ e ∈ entries, ¬ same e.1 wanted = true := by
  induction entries generalizing table with
  | nil => simp [not_isLast_nil]
  | cons entry entries ih =>
    rw [List.foldl_cons, ih, lookUp_put symm trans]
    simp only [isLast_cons_iff, List.forall_mem_cons, exists_or]
    by_cases found : same entry.1 wanted
    · simp [found, Prod.ext_iff, @eq_comm _ a]
    · simp [found]

end Table

/-! ## Mappings -/

/-- A key when the module runs. -/
inductive RuntimeKey (Ω : Type) where
  | text (value : String)
  | int (value : Int)
  | object (it : Ω)

section Keys

variable {Ω : Type} {e : Expr}

/-- Whether two keys are the same one. Texts and integers are told apart by their values, and any
other object may be like what it likes. -/
def RuntimeKey.same (alike : RuntimeKey Ω → RuntimeKey Ω → Bool) :
    RuntimeKey Ω → RuntimeKey Ω → Bool
  | .text a, .text b => a == b
  | .int a, .int b => a == b
  | .text _, .int _ | .int _, .text _ => false
  | a, b => alike a b

/-- The key that a known one is when the module runs. -/
def StaticKey.atRuntime : StaticKey → RuntimeKey Ω
  | .text value => .text value
  | .int value => .int value

theorem same_atRuntime (alike : RuntimeKey Ω → RuntimeKey Ω → Bool) (k wanted : StaticKey) :
    k.atRuntime.same alike wanted.atRuntime = decide (k = wanted) := by
  cases k <;> cases wanted <;> simp [StaticKey.atRuntime, RuntimeKey.same, beq_eq_decide]

/-- The key that an expression has written out: an integer, a text, or texts joined by `+`. -/
inductive Denotes : Expr → RuntimeKey Ω → Prop where
  | int {mark value} : Denotes (.int mark value) (.int value)
  | text {mark value} : Denotes (.str mark value) (.text value)
  | joined {mark left right a b} (hl : Denotes left (.text a)) (hr : Denotes right (.text b)) :
      Denotes (.concat mark left right) (.text (a ++ b))

theorem staticKey?_eq_text_iff {text : String} :
    staticKey? e = some (.text text) ↔ staticText? e = some text := by
  cases e <;> simp [staticKey?, staticText?]

theorem denotes_of_staticText? {text : String} (h : staticText? e = some text) :
    @Denotes Ω e (.text text) := by
  fun_induction staticText? e generalizing text with
  | case1 mark value =>
    cases h
    exact .text
  | case2 mark left right a b hl hr ihl ihr =>
    cases h
    exact .joined (ihl hr) (ihr hl)
  | case3 | case4 => cases h

theorem staticText?_of_denotes {key : RuntimeKey Ω} (h : Denotes e key) {text : String}
    (same : key = .text text) : staticText? e = some text := by
  induction h generalizing text with
  | int => cases same
  | text =>
    cases same
    rfl
  | joined hl hr ihl ihr =>
    cases same
    rw [staticText?, ihl rfl, ihr rfl]

/-- The keys that are known are those that are written out. -/
theorem denotes_iff {key : RuntimeKey Ω} :
    Denotes e key ↔ ∃ k, staticKey? e = some k ∧ key = k.atRuntime := by
  constructor
  · intro h
    cases h with
    | int => exact ⟨_, rfl, rfl⟩
    | text => exact ⟨_, rfl, rfl⟩
    | joined hl hr =>
      exact ⟨_, staticKey?_eq_text_iff.2 (staticText?_of_denotes (.joined hl hr) rfl), rfl⟩
  · rintro ⟨k, known, rfl⟩
    cases k with
    | text text => exact denotes_of_staticText? (staticKey?_eq_text_iff.1 known)
    | int value =>
      cases e with
      | int mark value =>
        cases known
        exact .int
      | _ => simp [staticKey?] at known

/-- A key that an expression may give: the one that it denotes, or any if it denotes none. -/
def MayGive (e : Expr) (key : RuntimeKey Ω) : Prop :=
  ∀ written, Denotes e written → key = written

theorem mayGive_of_unknown (h : staticKey? e = none) (key : RuntimeKey Ω) : MayGive e key := by
  intro written denotes
  obtain ⟨k, known, -⟩ := denotes_iff.1 denotes
  rw [h] at known
  cases known

theorem MayGive.eq_of_known {key : RuntimeKey Ω} (may : MayGive e key) {k : StaticKey}
    (known : staticKey? e = some k) : key = k.atRuntime :=
  may _ (denotes_iff.2 ⟨k, known, rfl⟩)

end Keys

/-- An entry of a dict display when the module runs: a value under the key that its expression
gives, or a splatted mapping with the keys that it brings. -/
inductive RunEntry (Ω : Type) where
  | written (key value : Expr) (given : RuntimeKey Ω)
  | splat (mapping : Expr) (keys : List (RuntimeKey Ω))

namespace RunEntry

variable {Ω : Type}

/-- The entry as it is written. -/
def entry : RunEntry Ω → Option Expr × Expr
  | written key value _ => (some key, value)
  | splat mapping _ => (none, mapping)

/-- The keys that are stored, one after another, each with the expression of its value if the
display has one. -/
def stored : RunEntry Ω → List (RuntimeKey Ω × Option Expr)
  | written _ value given => [(given, some value)]
  | splat _ keys => keys.map (·, none)

/-- The key of a written entry is one that its expression may give. -/
def Fits : RunEntry Ω → Prop
  | written key _ given => MayGive key given
  | splat .. => True

theorem eq_written_of_mem_stored {entry : RunEntry Ω} {given : RuntimeKey Ω} {value : Expr}
    (h : (given, some value) ∈ entry.stored) : ∃ key, entry = written key value given := by
  cases entry with
  | written key other found =>
    cases List.mem_singleton.1 h
    exact ⟨key, rfl⟩
  | splat mapping keys => simp [stored] at h

end RunEntry

/-- The entry that a lookup by a key takes: the last one that is stored with that key. -/
def Takes {Ω : Type} (alike : RuntimeKey Ω → RuntimeKey Ω → Bool) (wanted : RuntimeKey Ω)
    (entries : List (RunEntry Ω)) (value : Expr) : Prop :=
  ∃ key, IsLast (fun s => s.1.same alike wanted = true) (key, some value)
    (entries.flatMap RunEntry.stored)

section Entries

variable {Ω : Type} {alike : RuntimeKey Ω → RuntimeKey Ω → Bool} {entries : List (RunEntry Ω)}
  {index value : Expr} {wanted : RuntimeKey Ω}

theorem mem_selectEntries_of_takes (fits : ∀ e ∈ entries, e.Fits) (may : MayGive index wanted)
    (taken : Takes alike wanted entries value) :
    value ∈ selectEntries (entries.map RunEntry.entry) index := by
  obtain ⟨given, last⟩ := taken
  obtain ⟨e, he, hs⟩ := List.mem_flatMap.1 last.mem
  obtain ⟨key, rfl⟩ := RunEntry.eq_written_of_mem_stored hs
  have same : ∀ k ∈ staticKey? key, ∀ i ∈ staticKey? index, k = i := by
    intro k hk i hi
    have given_eq : given = k.atRuntime := (fits _ he).eq_of_known hk
    have holds := last.holds
    rw [given_eq, may.eq_of_known hi, same_atRuntime] at holds
    exact of_decide_eq_true holds
  have picked : Picks (.dict index.mark (entries.map RunEntry.entry)) index value :=
    .entry (List.mem_map_of_mem he) same
  exact picked.mem_selected

/-- The table that a dict display makes. -/
def tableOf (alike : RuntimeKey Ω → RuntimeKey Ω → Bool) (entries : List (RunEntry Ω)) :
    List (RuntimeKey Ω × Option Expr) :=
  (entries.flatMap RunEntry.stored).foldl (fun table e => put (·.same alike ·) e.1 e.2 table) []

/-- Unless objects are like each other in one direction only or by way of others, the entry that
counts is the one that is found in the table. -/
theorem lookUp_tableOf_iff
    (symm : ∀ a b : RuntimeKey Ω, a.same alike b = true → b.same alike a = true)
    (trans : ∀ a b c : RuntimeKey Ω, a.same alike b = true → b.same alike c = true →
      a.same alike c = true) :
    lookUp (·.same alike ·) wanted (tableOf alike entries) = some (some value) ↔
      Takes alike wanted entries value := by
  rw [tableOf, lookUp_foldl_put_iff symm trans, Takes]
  simp [lookUp]

/-! ## Where all keys are known -/

theorem isLast_iff_getLast?_filter {α : Type} {p : α → Bool} {a : α} {as : List α} :
    IsLast (p · = true) a as ↔ (as.filter p).getLast? = some a := by
  induction as with
  | nil => simp [not_isLast_nil]
  | cons b as ih =>
    rw [isLast_cons_iff, ih, List.filter_cons]
    by_cases holds : p b = true
    · rw [if_pos holds, List.getLast?_cons, ← List.filter_eq_nil_iff]
      cases as.filter p with
      | nil => simp [holds, eq_comm]
      | cons c later => simp [List.getLast?_cons]
    · simp [holds]

theorem exists_matching {known : StaticKey} {entries : List (Option Expr × Expr)}
    (h : ∀ e ∈ entries, ∃ key ∈ e.1, (staticKey? key).isSome) :
    ∃ found, matching known entries = some found := by
  induction entries with
  | nil => exact ⟨[], rfl⟩
  | cons e entries ih =>
    obtain ⟨⟨key, hkey, some⟩, rest⟩ := List.forall_mem_cons.1 h
    obtain ⟨found, hf⟩ := ih rest
    obtain ⟨k, hk⟩ := Option.isSome_iff_exists.1 some
    obtain ⟨_, value⟩ := e
    cases hkey
    simp [matching, hk, hf]

/-- The values that match a key are those that are stored with it. -/
theorem map_some_matching (fits : ∀ e ∈ entries, e.Fits) {known : StaticKey} {found : List Expr}
    (h : matching known (entries.map RunEntry.entry) = some found) :
    found.map some = ((entries.flatMap RunEntry.stored).filter
      (·.1.same alike known.atRuntime)).map (·.2) := by
  induction entries generalizing found with
  | nil =>
    cases h
    rfl
  | cons e entries ih =>
    obtain ⟨he, hes⟩ := List.forall_mem_cons.1 fits
    cases e with
    | splat mapping keys => cases h
    | written key value given =>
      simp only [List.map_cons, RunEntry.entry, matching] at h
      split at h
      · cases h
      · next k hk =>
        obtain ⟨more, hm, rfl⟩ := Option.map_eq_some_iff.1 h
        rw [List.flatMap_cons, RunEntry.stored, List.singleton_append, List.filter_cons,
          he.eq_of_known hk, same_atRuntime]
        by_cases same : k = known <;> simp [same, ih hes hm]

/-- Where all keys are known, the last value that is selected is the one that is taken. -/
theorem getLast?_selectEntries_iff (fits : ∀ e ∈ entries, e.Fits) (may : MayGive index wanted)
    (known : ∀ e ∈ entries, ∃ key ∈ e.entry.1, (staticKey? key).isSome)
    (hindex : (staticKey? index).isSome) :
    (selectEntries (entries.map RunEntry.entry) index).getLast? = some value ↔
      Takes alike wanted entries value := by
  obtain ⟨k, hk⟩ := Option.isSome_iff_exists.1 hindex
  obtain ⟨found, hf⟩ : ∃ found, matching k (entries.map RunEntry.entry) = some found :=
    exists_matching (List.forall_mem_map.2 known)
  rw [selectEntries, hk]
  simp only [hf, Option.getD_some, Takes, isLast_iff_getLast?_filter, may.eq_of_known hk]
  have last := congrArg List.getLast? (@map_some_matching _ alike _ fits _ _ hf)
  rw [List.getLast?_map, List.getLast?_map] at last
  have wrapped : found.getLast? = some value ↔ found.getLast?.map some = some (some value) := by
    simp
  rw [wrapped, last, Option.map_eq_some_iff]
  simp [Prod.exists]

end Entries

/-! ## Displays -/

/-- What a key selects of the entries of a dict display. -/
structure SelectsEntries (entries : List (Option Expr × Expr)) : Prop where
  /-- Whatever the keys are when the module runs, the entry that a lookup takes is selected. -/
  taken {Ω : Type} {alike : RuntimeKey Ω → RuntimeKey Ω → Bool} {run : List (RunEntry Ω)}
    (written : run.map RunEntry.entry = entries) (fits : ∀ e ∈ run, e.Fits) {index wanted value}
    (may : MayGive index wanted) (h : Takes alike wanted run value) :
    value ∈ selectEntries entries index
  /-- So is the one that is found in the table which the display makes. -/
  found {Ω : Type} {alike : RuntimeKey Ω → RuntimeKey Ω → Bool} {run : List (RunEntry Ω)}
    (written : run.map RunEntry.entry = entries) (fits : ∀ e ∈ run, e.Fits)
    (symm : ∀ a b : RuntimeKey Ω, a.same alike b = true → b.same alike a = true)
    (trans : ∀ a b c : RuntimeKey Ω, a.same alike b = true → b.same alike c = true →
      a.same alike c = true) {index wanted value} (may : MayGive index wanted)
    (h : lookUp (·.same alike ·) wanted (tableOf alike run) = some (some value)) :
    value ∈ selectEntries entries index
  /-- Where all keys are known, it is the last one that is selected. -/
  last {Ω : Type} {alike : RuntimeKey Ω → RuntimeKey Ω → Bool} {run : List (RunEntry Ω)}
    (written : run.map RunEntry.entry = entries) (fits : ∀ e ∈ run, e.Fits)
    (known : ∀ e ∈ entries, ∃ key ∈ e.1, (staticKey? key).isSome) {index wanted value}
    (may : MayGive index wanted) (hindex : (staticKey? index).isSome) :
    (selectEntries entries index).getLast? = some value ↔ Takes alike wanted run value

theorem selectsEntries (entries : List (Option Expr × Expr)) : SelectsEntries entries where
  taken {Ω alike run} written fits index wanted value may h := by
    subst written
    exact mem_selectEntries_of_takes fits may h
  found {Ω alike run} written fits symm trans index wanted value may h := by
    subst written
    exact mem_selectEntries_of_takes fits may ((lookUp_tableOf_iff symm trans).1 h)
  last {Ω alike run} written fits known index wanted value may hindex := by
    subst written
    exact getLast?_selectEntries_iff fits may (fun e he => known _ (List.mem_map_of_mem he)) hindex

/-- Selection leaves out nothing that a program may take. -/
theorem selection_covers (items : List Expr) (entries : List (Option Expr × Expr)) :
    SelectsItems items ∧ SelectsEntries entries :=
  ⟨selectsItems items, selectsEntries entries⟩

/-- `{"a": print, **extra, key: eval}` where `extra` has the key `"a"` and `key` is `"a"` too. -/
def overwritten : List (RunEntry Empty) :=
  [.written (.str ⟨0, ⟨1, 2⟩⟩ "a") (.name ⟨1, ⟨1, 7⟩⟩ "print") (.text "a"),
    .splat (.name ⟨2, ⟨1, 16⟩⟩ "extra") [.text "a"],
    .written (.name ⟨3, ⟨1, 23⟩⟩ "key") (.name ⟨4, ⟨1, 28⟩⟩ "eval") (.text "a")]

theorem overwritten_selected :
    Takes (fun _ _ => false) (.text "a") overwritten (.name ⟨4, ⟨1, 28⟩⟩ "eval") ∧
      .name ⟨4, ⟨1, 28⟩⟩ "eval" ∈
        selectEntries (overwritten.map RunEntry.entry) (.str ⟨5, ⟨1, 34⟩⟩ "a") := by
  have written (mark : Mark) : @MayGive Empty (.str mark "a") (.text "a") := by
    rintro _ ⟨⟩
    rfl
  have fits : ∀ e ∈ overwritten, e.Fits := by
    simp only [overwritten, List.forall_mem_cons, RunEntry.Fits]
    exact ⟨written _, trivial, mayGive_of_unknown rfl _, by simp⟩
  have taken : Takes (fun _ _ => false) (.text "a") overwritten (.name ⟨4, ⟨1, 28⟩⟩ "eval") :=
    ⟨.text "a", [_, _], [], rfl, rfl, by simp⟩
  exact ⟨taken, (selection_covers [] _).2.taken rfl fits (written _) taken⟩

end SourceGate.Tree
