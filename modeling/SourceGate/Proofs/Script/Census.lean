import SourceGate.Proofs.Script.Children
import SourceGate.Proofs.Tree.Mention

/-! # What Python's syntax mentions

Every lookup of a module's syntax in the order in which a tree keeps it, with the part of the syntax
it belongs to. The lookups that a `case` pattern makes on its subject are listed as well: they have
no expression of their own.
-/

namespace SourceGate.Script

/-- The part of the syntax that a mention belongs to. -/
inductive Origin where
  /-- An expression of a statement that a tree models. -/
  | code
  /-- The bound of a type parameter of a function or a class. -/
  | bound
  /-- A `type` statement. -/
  | typeAlias
  /-- A key or a keyword of a `case` pattern. -/
  | pattern
  deriving DecidableEq, Repr

/-- A mention with its origin. -/
structure Entry where
  origin : Origin
  mention : Mention
  deriving DecidableEq, Repr

namespace Expr

/-- What the expression itself looks up. -/
def mention? (index : LineIndex) : Expr → Option Mention
  | .name start text => some ⟨.name text, index.locate start⟩
  | .attribute start _ attr => some ⟨.attribute attr, index.locate start⟩
  | .subscript start _ _ => some ⟨.item, index.locate start⟩
  | .call start _ _ _ => some ⟨.call, index.locate start⟩
  | _ => none

/-- What an expression and all its parts look up. -/
def mentions (index : LineIndex) (e : Expr) : List Mention :=
  (e.mention? index).toList ++ e.children.attach.flatMap fun ⟨c, h⟩ =>
    have := sizeOf_lt_of_mem_children h
    c.mentions index
termination_by sizeOf e

theorem mentions_eq (index : LineIndex) (e : Expr) :
    e.mentions index = (e.mention? index).toList ++ e.children.flatMap (mentions index) := by
  rw [mentions, List.flatMap_subtype (g := mentions index) fun _ _ => rfl, List.unattach_attach]

end Expr

/-- The mentions of expressions, all of one origin. -/
def entries (index : LineIndex) (origin : Origin) (es : List Expr) : List Entry :=
  (es.flatMap (Expr.mentions index)).map fun m => ⟨origin, m⟩

/-- The bounds of type parameters. -/
def TypeParameter.bounds : TypeParameter → List Expr
  | .plain _ bound => bound.toList
  | .rest _ | .extra _ => []

/-- A key that a pattern looks up. -/
def keyCensus (index : LineIndex) (key : Expr) : List Entry :=
  ⟨.pattern, .item, index.locate key.start⟩ :: entries index .code [key]

/-- A keyword that a pattern looks up on an instance of the class at `place`. -/
def keywordCensus (place : Location) (attr : String) : List Entry :=
  [⟨.pattern, .attribute attr, place⟩]

mutual

/-- The expressions of a pattern and the lookups it makes. -/
def Pattern.census (index : LineIndex) : Pattern → List Entry
  | .value value => entries index .code [value]
  | .singleton _ | .star _ => []
  | .sequence items | .either items => patternsCensus index items
  | .mapping keys items _ => keys.flatMap (keyCensus index) ++ patternsCensus index items
  | .instanceOf cls items attrs attrItems =>
    entries index .code [cls] ++ attrs.flatMap (keywordCensus (index.locate cls.start)) ++
      patternsCensus index items ++ patternsCensus index attrItems
  | .capture none _ => []
  | .capture (some inner) _ => inner.census index

def patternsCensus (index : LineIndex) : List Pattern → List Entry
  | [] => []
  | p :: rest => p.census index ++ patternsCensus index rest

end

/-- The pattern and the guard of a `case` clause. -/
def MatchCase.census (index : LineIndex) (c : MatchCase Stmt) : List Entry :=
  c.pattern.census index ++ entries index .code c.guard.toList

namespace Stmt

/-- What a statement looks up outside the statements in it. -/
def own (index : LineIndex) : Stmt → List Entry
  | .function _ _ _ typeParams params _ decorators returns =>
    entries index .code (decorators ++ params.exprs ++ returns.toList) ++
      entries index .bound (typeParams.flatMap TypeParameter.bounds)
  | .classDef _ _ typeParams bases keywords _ decorators =>
    entries index .code (decorators ++ bases ++ keywords.map (·.value)) ++
      entries index .bound (typeParams.flatMap TypeParameter.bounds)
  | .return _ value => entries index .code value.toList
  | .delete _ targets => entries index .code targets
  | .assign _ targets value => entries index .code (targets ++ [value])
  | .augAssign _ target _ value => entries index .code [target, value]
  | .annAssign _ target annotation value =>
    entries index .code (target :: annotation :: value.toList)
  | .for _ _ target iter _ _ => entries index .code [target, iter]
  | .while _ test _ _ | .if _ test _ _ => entries index .code [test]
  | .with _ _ items _ => entries index .code (items.flatMap fun i => i.context :: i.target.toList)
  | .match _ subject cases =>
    entries index .code [subject] ++ cases.flatMap (MatchCase.census index)
  | .raise _ exception cause => entries index .code (exception.toList ++ cause.toList)
  | .try _ _ _ handlers _ _ => entries index .code (handlers.flatMap (·.cause.toList))
  | .assert _ test message => entries index .code (test :: message.toList)
  | .typeAlias _ _ typeParams value =>
    entries index .typeAlias (typeParams.flatMap TypeParameter.bounds ++ [value])
  | .expr _ value => entries index .code [value]
  | .importModules _ _ | .importNames _ _ _ _ | .global _ _ | .nonlocal _ _ | .pass _ | .break _
  | .continue _ => []

/-- What a statement and all statements in it look up. -/
def census (index : LineIndex) (s : Stmt) : List Entry :=
  s.own index ++ s.inner.attach.flatMap fun ⟨c, h⟩ =>
    have := sizeOf_lt_of_mem_inner h
    c.census index
termination_by sizeOf s

theorem census_eq (index : LineIndex) (s : Stmt) :
    s.census index = s.own index ++ s.inner.flatMap (census index) := by
  rw [census, List.flatMap_subtype (g := census index) fun _ _ => rfl, List.unattach_attach]

end Stmt

/-- What a module looks up. -/
def census (index : LineIndex) (body : List Stmt) : List Entry :=
  body.flatMap (Stmt.census index)

/-- Whether a tree keeps what is mentioned: bounds of type parameters and `type` statements are left
out. -/
def Origin.isKept : Origin → Bool
  | code | pattern => true
  | bound | typeAlias => false

/-- The mentions that a tree keeps. -/
def kept (found : List Entry) : List Mention :=
  (found.filter (·.origin.isKept)).map (·.mention)

@[simp] theorem kept_nil : kept [] = [] := rfl

@[simp] theorem kept_cons (entry : Entry) (found : List Entry) :
    kept (entry :: found) =
      if entry.origin.isKept then entry.mention :: kept found else kept found := by
  cases h : entry.origin.isKept <;> simp [kept, h]

@[simp] theorem kept_append (first second : List Entry) :
    kept (first ++ second) = kept first ++ kept second := by
  rw [kept, List.filter_append, List.map_append, kept, kept]

theorem kept_flatMap {α : Type} (f : α → List Entry) (as : List α) :
    kept (as.flatMap f) = as.flatMap fun a => kept (f a) := by
  rw [kept, List.filter_flatMap, List.map_flatMap]
  rfl

@[simp] theorem kept_entries (index : LineIndex) (origin : Origin) (es : List Expr) :
    kept (entries index origin es) =
      if origin.isKept then es.flatMap (Expr.mentions index) else [] := by
  have constant : (fun entry : Entry => entry.origin.isKept) ∘ Entry.mk origin =
      fun _ => origin.isKept := rfl
  rw [kept, entries, List.filter_map, constant]
  cases origin.isKept with
  | false => simp
  | true => simp [Function.comp_def]

theorem mem_kept {found : List Entry} {entry : Entry} (h : entry ∈ found)
    (hk : entry.origin.isKept = true) : entry.mention ∈ kept found :=
  List.mem_map.2 ⟨entry, List.mem_filter.2 ⟨h, hk⟩, rfl⟩

/-- All that `type` statements leave is kept just when nothing is the bound of a type parameter. -/
theorem kept_eq_iff {found : List Entry} :
    (found.filter (·.origin ≠ .typeAlias)).map (·.mention) = kept found ↔
      ∀ entry ∈ found, entry.origin ≠ .bound := by
  have nested : found.filter (·.origin.isKept) =
      (found.filter (·.origin ≠ .typeAlias)).filter (·.origin.isKept) := by
    rw [List.filter_filter]
    refine List.filter_congr fun entry _ => ?_
    cases entry.origin <;> rfl
  rw [kept, nested]
  constructor
  · intro h entry hm hb
    have same := congrArg List.length h
    rw [List.length_map, List.length_map] at same
    have all := List.length_filter_eq_length_iff.1 same.symm entry
      (List.mem_filter.2 ⟨hm, by simp [hb]⟩)
    simp [hb, Origin.isKept] at all
  · intro h
    congr 1
    refine (List.filter_eq_self.2 fun entry hm => ?_).symm
    obtain ⟨hm, ha⟩ := List.mem_filter.1 hm
    cases ho : entry.origin with
    | code | pattern => rfl
    | bound => exact absurd ho (h entry hm)
    | typeAlias => simp [ho] at ha

/-! ## Where an entry comes from -/

theorem origin_of_mem_entries {index : LineIndex} {origin : Origin} {es : List Expr}
    {entry : Entry} (h : entry ∈ entries index origin es) : entry.origin = origin := by
  obtain ⟨m, _, rfl⟩ := List.mem_map.1 h
  rfl

theorem isKept_of_mem_code {index : LineIndex} {es : List Expr} {entry : Entry}
    (h : entry ∈ entries index .code es) : entry.origin.isKept = true := by
  rw [origin_of_mem_entries h]
  rfl

theorem isKept_of_mem_keyCensus {index : LineIndex} {key : Expr} {entry : Entry}
    (h : entry ∈ keyCensus index key) : entry.origin.isKept = true := by
  rcases List.mem_cons.1 h with rfl | h
  · rfl
  · exact isKept_of_mem_code h

mutual

theorem isKept_of_mem_pattern {index : LineIndex} {p : Pattern} {entry : Entry}
    (h : entry ∈ p.census index) : entry.origin.isKept = true := by
  match p, h with
  | .value value, h => exact isKept_of_mem_code h
  | .singleton _, h | .star _, h | .capture none _, h => simp [Pattern.census] at h
  | .sequence items, h | .either items, h =>
    exact isKept_of_mem_patterns (show entry ∈ patternsCensus index items from h)
  | .mapping keys items _, h =>
    rcases List.mem_append.1 h with h | h
    · obtain ⟨key, _, h⟩ := List.mem_flatMap.1 h
      exact isKept_of_mem_keyCensus h
    · exact isKept_of_mem_patterns h
  | .instanceOf cls items attrs attrItems, h =>
    simp only [Pattern.census, List.mem_append] at h
    rcases h with ((h | h) | h) | h
    · exact isKept_of_mem_code h
    · obtain ⟨attr, _, h⟩ := List.mem_flatMap.1 h
      obtain rfl := List.mem_singleton.1 h
      rfl
    · exact isKept_of_mem_patterns h
    · exact isKept_of_mem_patterns h
  | .capture (some inner) _, h =>
    exact isKept_of_mem_pattern (show entry ∈ inner.census index from h)

theorem isKept_of_mem_patterns {index : LineIndex} {ps : List Pattern} {entry : Entry}
    (h : entry ∈ patternsCensus index ps) : entry.origin.isKept = true := by
  match ps, h with
  | [], h => simp [patternsCensus] at h
  | p :: rest, h =>
    rcases List.mem_append.1 h with h | h
    · exact isKept_of_mem_pattern h
    · exact isKept_of_mem_patterns h

end

theorem isKept_of_mem_case {index : LineIndex} {c : MatchCase Stmt} {entry : Entry}
    (h : entry ∈ c.census index) : entry.origin.isKept = true := by
  rcases List.mem_append.1 h with h | h
  · exact isKept_of_mem_pattern h
  · exact isKept_of_mem_code h

/-- Only a `type` statement itself gives entries of its kind. -/
theorem Stmt.isTypeAlias_of_mem_own {index : LineIndex} {s : Stmt} {entry : Entry}
    (h : entry ∈ s.own index) (ho : entry.origin = .typeAlias) :
    ∃ start name typeParams value, s = .typeAlias start name typeParams value := by
  have stuck {found : List Entry} (hm : entry ∈ found)
      (hf : ∀ entry ∈ found, entry.origin.isKept = true) : False := by
    have := hf entry hm
    rw [ho] at this
    cases this
  have code {es : List Expr} (hm : entry ∈ entries index .code es) : False :=
    stuck hm fun _ => isKept_of_mem_code
  match s, h with
  | .typeAlias start name typeParams value, _ => exact ⟨start, name, typeParams, value, rfl⟩
  | .function .., h | .classDef .., h =>
    rcases List.mem_append.1 h with h | h
    · exact (code h).elim
    · rw [origin_of_mem_entries h] at ho
      cases ho
  | .match _ subject cases, h =>
    rcases List.mem_append.1 h with h | h
    · exact (code h).elim
    · refine (stuck h fun e he => ?_).elim
      obtain ⟨c, _, he⟩ := List.mem_flatMap.1 he
      exact isKept_of_mem_case he
  | .return .., h | .delete .., h | .assign .., h | .augAssign .., h | .annAssign .., h
  | .for .., h | .while .., h | .if .., h | .with .., h | .raise .., h | .try .., h
  | .assert .., h | .expr .., h => exact (code h).elim
  | .importModules .., h | .importNames .., h | .global .., h | .nonlocal .., h | .pass .., h
  | .break .., h | .continue .., h => simp [own] at h

/-- An entry of a module comes from one of its statements, at any depth. -/
theorem Stmt.exists_own_of_mem_census {index : LineIndex} {body : List Stmt} {s : Stmt}
    {entry : Entry} (hs : Inside body s) (h : entry ∈ s.census index) :
    ∃ c, Inside body c ∧ entry ∈ c.own index := by
  induction s using Stmt.byInner with
  | step s ih =>
    rw [census_eq] at h
    rcases List.mem_append.1 h with h | h
    · exact ⟨s, hs, h⟩
    · obtain ⟨c, hc, h⟩ := List.mem_flatMap.1 h
      exact ih c hc (hs.inner hc) h

theorem exists_own_of_mem {index : LineIndex} {body : List Stmt} {entry : Entry}
    (h : entry ∈ census index body) : ∃ s, Inside body s ∧ entry ∈ s.own index := by
  obtain ⟨s, hs, h⟩ := List.mem_flatMap.1 h
  exact Stmt.exists_own_of_mem_census (.top hs) h

end SourceGate.Script
