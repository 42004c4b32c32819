import SourceGate.Script.Syntax

/-! # The parts of Python's syntax

The expressions directly inside an expression, the statements directly inside a statement, and
induction along them. The bounds of type parameters belong to the statement and not to its body.
-/

namespace SourceGate.Script

variable {ε : Type}

/-- The parts of one clause. -/
def Clause.exprs (c : Clause ε) : List ε := c.target :: c.iter :: c.conditions

/-- The annotation and the default. -/
def Parameter.exprs (p : Parameter ε) : List ε := p.annotation.toList ++ p.value.toList

/-- A starred parameter has no default. -/
def StarParameter.exprs (p : StarParameter ε) : List ε := p.annotation.toList

/-- The annotations and defaults of a parameter list, starred parameters last. -/
def Parameters.exprs (params : Parameters ε) : List ε :=
  (params.positional ++ params.plain ++ params.keywordOnly).flatMap Parameter.exprs ++
    (params.rest.toList ++ params.extra.toList).flatMap StarParameter.exprs

namespace Expr

/-- The expressions directly inside an expression, in the order of the text. -/
def children : Expr → List Expr
  | .name _ _ | .constant _ _ => []
  | .attribute _ value _ => [value]
  | .subscript _ value index => [value, index]
  | .call _ func args keywords => func :: (args ++ keywords.map (·.value))
  | .list _ items | .tuple _ items | .set _ items => items
  | .dict _ entries => entries.flatMap fun (key, value) => key.toList ++ [value]
  | .unary _ _ operand => [operand]
  | .binary _ left _ right => [left, right]
  | .boolean _ _ values => values
  | .conditional _ test body orelse => [test, body, orelse]
  | .named _ target value => [target, value]
  | .listComp _ element clauses | .setComp _ element clauses | .generator _ element clauses =>
    element :: clauses.flatMap Clause.exprs
  | .dictComp _ key value clauses => key :: value :: clauses.flatMap Clause.exprs
  | .lambda _ params body => params.exprs ++ [body]
  | .compare _ left _ rights => left :: rights
  | .await _ value | .yieldFrom _ value | .starred _ value => [value]
  | .yield _ value => value.toList
  | .formatted _ value _ spec => value :: spec.toList
  | .joined _ values => values
  | .slice _ lower upper step => lower.toList ++ upper.toList ++ step.toList

theorem sizeOf_lt_of_mem_toList {e : Option Expr} {c : Expr} (h : c ∈ e.toList) :
    sizeOf c < sizeOf e := by
  obtain rfl := Option.mem_toList.1 h
  simp only [Option.some.sizeOf_spec]
  omega

theorem sizeOf_lt_of_mem_entry {entries : List (Option Expr × Expr)} {c : Expr}
    (h : c ∈ entries.flatMap fun (key, value) => key.toList ++ [value]) :
    sizeOf c < sizeOf entries := by
  obtain ⟨⟨key, value⟩, he, h⟩ := List.mem_flatMap.1 h
  have hs := List.sizeOf_lt_of_mem he
  simp only [Prod.mk.sizeOf_spec] at hs
  rcases List.mem_append.1 h with h | h
  · have := sizeOf_lt_of_mem_toList h
    omega
  · obtain rfl := List.mem_singleton.1 h
    omega

theorem sizeOf_lt_of_mem_keyword {keywords : List (KeywordArgument Expr)} {c : Expr}
    (h : c ∈ keywords.map (·.value)) : sizeOf c < sizeOf keywords := by
  obtain ⟨⟨name, value⟩, hk, rfl⟩ := List.mem_map.1 h
  have hs := List.sizeOf_lt_of_mem hk
  simp only [KeywordArgument.mk.sizeOf_spec] at hs
  dsimp only
  omega

theorem sizeOf_lt_of_mem_clauses {clauses : List (Clause Expr)} {c : Expr}
    (h : c ∈ clauses.flatMap Clause.exprs) : sizeOf c < sizeOf clauses := by
  obtain ⟨⟨isAsync, target, iter, conditions⟩, hc, h⟩ := List.mem_flatMap.1 h
  have hs := List.sizeOf_lt_of_mem hc
  simp only [Clause.mk.sizeOf_spec] at hs
  rcases List.mem_cons.1 h with rfl | h
  · omega
  · rcases List.mem_cons.1 h with rfl | h
    · omega
    · have := List.sizeOf_lt_of_mem (show c ∈ conditions from h)
      omega

theorem sizeOf_lt_of_mem_parameterList {params : List (Parameter Expr)} {c : Expr}
    (h : c ∈ params.flatMap Parameter.exprs) : sizeOf c < sizeOf params := by
  obtain ⟨⟨start, name, annotation, value⟩, hp, h⟩ := List.mem_flatMap.1 h
  have hs := List.sizeOf_lt_of_mem hp
  simp only [Parameter.mk.sizeOf_spec] at hs
  rcases List.mem_append.1 h with h | h
  · have := sizeOf_lt_of_mem_toList (show c ∈ annotation.toList from h)
    omega
  · have := sizeOf_lt_of_mem_toList (show c ∈ value.toList from h)
    omega

theorem sizeOf_lt_of_mem_starParameter {param : Option (StarParameter Expr)} {c : Expr}
    (h : c ∈ param.toList.flatMap StarParameter.exprs) : sizeOf c < sizeOf param := by
  cases param with
  | none => simp at h
  | some param =>
    obtain ⟨start, name, annotation⟩ := param
    rw [Option.toList_some, List.flatMap_singleton] at h
    have := sizeOf_lt_of_mem_toList (show c ∈ annotation.toList from h)
    simp only [Option.some.sizeOf_spec, StarParameter.mk.sizeOf_spec]
    omega

theorem sizeOf_lt_of_mem_parameters {params : Parameters Expr} {c : Expr}
    (h : c ∈ params.exprs) : sizeOf c < sizeOf params := by
  obtain ⟨positional, plain, rest, keywordOnly, extra⟩ := params
  simp only [Parameters.exprs, List.flatMap_append, List.mem_append] at h
  simp only [Parameters.mk.sizeOf_spec]
  rcases h with ((h | h) | h) | h | h
  · have := sizeOf_lt_of_mem_parameterList h
    omega
  · have := sizeOf_lt_of_mem_parameterList h
    omega
  · have := sizeOf_lt_of_mem_parameterList h
    omega
  · have := sizeOf_lt_of_mem_starParameter h
    omega
  · have := sizeOf_lt_of_mem_starParameter h
    omega

theorem sizeOf_lt_of_mem_children {e c : Expr} (h : c ∈ e.children) : sizeOf c < sizeOf e := by
  match e, h with
  | .name _ _, h | .constant _ _, h => simp [children] at h
  | .attribute _ value _, h | .unary _ _ value, h | .await _ value, h | .yieldFrom _ value, h
  | .starred _ value, h =>
    obtain rfl := List.mem_singleton.1 h
    simp only [attribute.sizeOf_spec, unary.sizeOf_spec, await.sizeOf_spec, yieldFrom.sizeOf_spec,
      starred.sizeOf_spec]
    omega
  | .subscript _ first second, h | .binary _ first _ second, h | .named _ first second, h =>
    simp only [children, List.mem_cons, List.not_mem_nil, or_false] at h
    simp only [subscript.sizeOf_spec, binary.sizeOf_spec, named.sizeOf_spec]
    rcases h with rfl | rfl <;> omega
  | .conditional _ test body orelse, h =>
    simp only [children, List.mem_cons, List.not_mem_nil, or_false] at h
    simp only [conditional.sizeOf_spec]
    rcases h with rfl | rfl | rfl <;> omega
  | .list _ items, h | .tuple _ items, h | .set _ items, h | .boolean _ _ items, h
  | .joined _ items, h =>
    have := List.sizeOf_lt_of_mem (show c ∈ items from h)
    simp only [list.sizeOf_spec, tuple.sizeOf_spec, set.sizeOf_spec, boolean.sizeOf_spec,
      joined.sizeOf_spec]
    omega
  | .compare _ left _ rights, h =>
    simp only [compare.sizeOf_spec]
    rcases List.mem_cons.1 h with rfl | h
    · omega
    · have := List.sizeOf_lt_of_mem h
      omega
  | .call _ func args keywords, h =>
    simp only [children, List.mem_cons, List.mem_append] at h
    simp only [call.sizeOf_spec]
    rcases h with rfl | h | h
    · omega
    · have := List.sizeOf_lt_of_mem h
      omega
    · have := sizeOf_lt_of_mem_keyword h
      omega
  | .dict _ entries, h =>
    have := sizeOf_lt_of_mem_entry h
    simp only [dict.sizeOf_spec]
    omega
  | .listComp _ element clauses, h | .setComp _ element clauses, h
  | .generator _ element clauses, h =>
    simp only [listComp.sizeOf_spec, setComp.sizeOf_spec, generator.sizeOf_spec]
    rcases List.mem_cons.1 h with rfl | h
    · omega
    · have := sizeOf_lt_of_mem_clauses h
      omega
  | .dictComp _ key value clauses, h =>
    simp only [children, List.mem_cons] at h
    simp only [dictComp.sizeOf_spec]
    rcases h with rfl | rfl | h
    · omega
    · omega
    · have := sizeOf_lt_of_mem_clauses h
      omega
  | .lambda _ params body, h =>
    simp only [lambda.sizeOf_spec]
    rcases List.mem_append.1 h with h | h
    · have := sizeOf_lt_of_mem_parameters h
      omega
    · obtain rfl := List.mem_singleton.1 h
      omega
  | .yield _ value, h =>
    have := sizeOf_lt_of_mem_toList (show c ∈ value.toList from h)
    simp only [yield.sizeOf_spec]
    omega
  | .formatted _ value _ spec, h =>
    simp only [formatted.sizeOf_spec]
    rcases List.mem_cons.1 h with rfl | h
    · omega
    · have := sizeOf_lt_of_mem_toList h
      omega
  | .slice _ lower upper step, h =>
    simp only [children, List.mem_append] at h
    simp only [slice.sizeOf_spec]
    rcases h with (h | h) | h
    · have := sizeOf_lt_of_mem_toList h
      omega
    · have := sizeOf_lt_of_mem_toList h
      omega
    · have := sizeOf_lt_of_mem_toList h
      omega

/-- What passes from the children to an expression holds of every expression. -/
@[elab_as_elim]
theorem byChildren {motive : Expr → Prop}
    (step : ∀ e, (∀ c ∈ e.children, motive c) → motive e) (e : Expr) : motive e :=
  step e fun c _ => byChildren step c
termination_by sizeOf e
decreasing_by exact sizeOf_lt_of_mem_children ‹_›

end Expr

namespace Stmt

/-- The statements directly inside a statement, in the order of the text. -/
def inner : Stmt → List Stmt
  | .function _ _ _ _ _ body _ _ | .classDef _ _ _ _ _ body _ | .with _ _ _ body => body
  | .for _ _ _ _ body orelse | .while _ _ body orelse | .if _ _ body orelse => body ++ orelse
  | .match _ _ cases => cases.flatMap (·.body)
  | .try _ _ body handlers orelse final =>
    body ++ (handlers.flatMap (·.body) ++ (orelse ++ final))
  | .importModules _ _ | .importNames _ _ _ _ | .return _ _ | .delete _ _ | .assign _ _ _
  | .augAssign _ _ _ _ | .annAssign _ _ _ _ | .raise _ _ _ | .assert _ _ _ | .typeAlias _ _ _ _
  | .global _ _ | .nonlocal _ _ | .expr _ _ | .pass _ | .break _ | .continue _ => []

theorem sizeOf_lt_of_mem_cases {cases : List (MatchCase Stmt)} {c : Stmt}
    (h : c ∈ cases.flatMap (·.body)) : sizeOf c < sizeOf cases := by
  obtain ⟨⟨pattern, guard, body⟩, hc, h⟩ := List.mem_flatMap.1 h
  have hs := List.sizeOf_lt_of_mem hc
  have := List.sizeOf_lt_of_mem (show c ∈ body from h)
  simp only [MatchCase.mk.sizeOf_spec] at hs
  omega

theorem sizeOf_lt_of_mem_handlers {handlers : List (Handler Stmt)} {c : Stmt}
    (h : c ∈ handlers.flatMap (·.body)) : sizeOf c < sizeOf handlers := by
  obtain ⟨⟨cause, name, body⟩, hc, h⟩ := List.mem_flatMap.1 h
  have hs := List.sizeOf_lt_of_mem hc
  have := List.sizeOf_lt_of_mem (show c ∈ body from h)
  simp only [Handler.mk.sizeOf_spec] at hs
  omega

theorem sizeOf_lt_of_mem_inner {s c : Stmt} (h : c ∈ s.inner) : sizeOf c < sizeOf s := by
  match s, h with
  | .function _ _ _ _ _ body _ _, h | .classDef _ _ _ _ _ body _, h | .with _ _ _ body, h =>
    have := List.sizeOf_lt_of_mem (show c ∈ body from h)
    simp only [function.sizeOf_spec, classDef.sizeOf_spec, with.sizeOf_spec]
    omega
  | .for _ _ _ _ body orelse, h | .while _ _ body orelse, h | .if _ _ body orelse, h =>
    simp only [for.sizeOf_spec, while.sizeOf_spec, if.sizeOf_spec]
    rcases List.mem_append.1 h with h | h
    · have := List.sizeOf_lt_of_mem h
      omega
    · have := List.sizeOf_lt_of_mem h
      omega
  | .match _ _ cases, h =>
    have := sizeOf_lt_of_mem_cases h
    simp only [match.sizeOf_spec]
    omega
  | .try _ _ body handlers orelse final, h =>
    simp only [inner, List.mem_append] at h
    simp only [try.sizeOf_spec]
    rcases h with h | h | h | h
    · have := List.sizeOf_lt_of_mem h
      omega
    · have := sizeOf_lt_of_mem_handlers h
      omega
    · have := List.sizeOf_lt_of_mem h
      omega
    · have := List.sizeOf_lt_of_mem h
      omega
  | .importModules _ _, h | .importNames _ _ _ _, h | .return _ _, h | .delete _ _, h
  | .assign _ _ _, h | .augAssign _ _ _ _, h | .annAssign _ _ _ _, h | .raise _ _ _, h
  | .assert _ _ _, h | .typeAlias _ _ _ _, h | .global _ _, h | .nonlocal _ _, h | .expr _ _, h
  | .pass _, h | .break _, h | .continue _, h => simp [inner] at h

/-- What passes from the statements inside to a statement holds of every statement. -/
@[elab_as_elim]
theorem byInner {motive : Stmt → Prop}
    (step : ∀ s, (∀ c ∈ s.inner, motive c) → motive s) (s : Stmt) : motive s :=
  step s fun c _ => byInner step c
termination_by sizeOf s
decreasing_by exact sizeOf_lt_of_mem_inner ‹_›

end Stmt

/-- A statement of a module, at any depth. -/
inductive Inside (body : List Stmt) : Stmt → Prop where
  | top {s} (h : s ∈ body) : Inside body s
  | inner {s c} (hs : Inside body s) (h : c ∈ s.inner) : Inside body c

end SourceGate.Script
