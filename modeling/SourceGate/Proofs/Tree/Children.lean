import SourceGate.Tree.Basic

/-! # The parts of a tree

The expressions directly inside an expression, the expressions and statements directly inside a
statement, and induction along them. Every field of every constructor that holds an expression or a
statement is listed.
-/

namespace SourceGate.Tree

namespace Expr

/-- The expressions directly inside an expression, in the order of the fields. -/
def children : Expr → List Expr
  | .name _ _ | .str _ _ | .int _ _ | .constant _ => []
  | .attribute _ value _ => [value]
  | .subscript _ value index => [value, index]
  | .call _ func args keywords => func :: (args ++ keywords.map (·.value))
  | .list _ items | .tuple _ items | .set _ items => items
  | .dict _ entries => entries.flatMap fun (key, value) => key.toList ++ [value]
  | .comprehension _ elements clauses =>
    elements ++ clauses.flatMap fun c => c.target :: c.iter :: c.conditions
  | .lambda _ _ header body => header ++ [body]
  | .branch _ tests values => tests ++ values
  | .concat _ left right => [left, right]
  | .other _ children => children

theorem sizeOf_lt_of_mem_entry {key : Option Expr} {value c : Expr}
    {entries : List (Option Expr × Expr)} (he : (key, value) ∈ entries)
    (h : c ∈ key.toList ++ [value]) : sizeOf c < sizeOf entries := by
  have hs := List.sizeOf_lt_of_mem he
  simp only [Prod.mk.sizeOf_spec] at hs
  rcases List.mem_append.1 h with h | h
  · obtain rfl := Option.mem_toList.1 h
    simp only [Option.some.sizeOf_spec] at hs
    omega
  · obtain rfl := List.mem_singleton.1 h
    omega

theorem sizeOf_lt_of_mem_clause {clause : Clause Expr} {c : Expr} {clauses : List (Clause Expr)}
    (hc : clause ∈ clauses) (h : c ∈ clause.target :: clause.iter :: clause.conditions) :
    sizeOf c < sizeOf clauses := by
  have hs := List.sizeOf_lt_of_mem hc
  obtain ⟨target, iter, conditions⟩ := clause
  simp only [Clause.mk.sizeOf_spec] at hs
  rcases List.mem_cons.1 h with rfl | h
  · omega
  · rcases List.mem_cons.1 h with rfl | h
    · omega
    · have := List.sizeOf_lt_of_mem h
      dsimp only at this
      omega

theorem sizeOf_value_lt_of_mem {keyword : Keyword Expr} {keywords : List (Keyword Expr)}
    (h : keyword ∈ keywords) : sizeOf keyword.value < sizeOf keywords := by
  have hs := List.sizeOf_lt_of_mem h
  obtain ⟨name, value⟩ := keyword
  simp only [Keyword.mk.sizeOf_spec] at hs
  simp only
  omega

theorem sizeOf_lt_of_mem_children {e c : Expr} (h : c ∈ e.children) : sizeOf c < sizeOf e := by
  match e, h with
  | .name _ _, h | .str _ _, h | .int _ _, h | .constant _, h => simp [children] at h
  | .attribute mark value attr, h =>
    obtain rfl := List.mem_singleton.1 h
    simp only [attribute.sizeOf_spec]
    omega
  | .subscript mark value index, h =>
    simp only [children, List.mem_cons, List.not_mem_nil, or_false] at h
    simp only [subscript.sizeOf_spec]
    rcases h with rfl | rfl <;> omega
  | .concat mark left right, h =>
    simp only [children, List.mem_cons, List.not_mem_nil, or_false] at h
    simp only [concat.sizeOf_spec]
    rcases h with rfl | rfl <;> omega
  | .call mark func args keywords, h =>
    simp only [children, List.mem_cons, List.mem_append, List.mem_map] at h
    simp only [call.sizeOf_spec]
    rcases h with rfl | h | ⟨k, hk, rfl⟩
    · omega
    · have := List.sizeOf_lt_of_mem h
      omega
    · have := sizeOf_value_lt_of_mem hk
      omega
  | .list mark items, h | .tuple mark items, h | .set mark items, h | .other mark items, h =>
    have := List.sizeOf_lt_of_mem (show c ∈ items from h)
    simp only [list.sizeOf_spec, tuple.sizeOf_spec, set.sizeOf_spec, other.sizeOf_spec]
    omega
  | .dict mark entries, h =>
    obtain ⟨⟨key, value⟩, he, hc⟩ := List.mem_flatMap.1 h
    have := sizeOf_lt_of_mem_entry he hc
    simp only [dict.sizeOf_spec]
    omega
  | .comprehension mark elements clauses, h =>
    simp only [comprehension.sizeOf_spec]
    rcases List.mem_append.1 h with h | h
    · have := List.sizeOf_lt_of_mem h
      omega
    · obtain ⟨clause, hc, hm⟩ := List.mem_flatMap.1 h
      have := sizeOf_lt_of_mem_clause hc hm
      omega
  | .lambda mark params header body, h =>
    simp only [lambda.sizeOf_spec]
    rcases List.mem_append.1 h with h | h
    · have := List.sizeOf_lt_of_mem h
      omega
    · obtain rfl := List.mem_singleton.1 h
      omega
  | .branch mark tests values, h =>
    simp only [branch.sizeOf_spec]
    rcases List.mem_append.1 h with h | h
    · have := List.sizeOf_lt_of_mem h
      omega
    · have := List.sizeOf_lt_of_mem h
      omega

/-- What passes from the children to an expression holds of every expression. -/
@[elab_as_elim]
theorem byChildren {motive : Expr → Prop}
    (step : ∀ e, (∀ c ∈ e.children, motive c) → motive e) (e : Expr) : motive e :=
  step e fun c _ => byChildren step c
termination_by sizeOf e
decreasing_by exact sizeOf_lt_of_mem_children ‹_›

end Expr

namespace Stmt

/-- The expressions directly inside a statement. -/
def exprs : Stmt → List Expr
  | .function _ _ _ header _ | .classDef _ _ header _ => header
  | .assign _ targets value => targets ++ [value]
  | .loop _ target iter _ _ => [target, iter]
  | .block _ exprs _ => exprs
  | .imports _ _ | .importsFrom _ _ _ _ | .declare _ _ | .unsupported _ => []

/-- The statements directly inside a statement. -/
def inner : Stmt → List Stmt
  | .function _ _ _ _ body | .classDef _ _ _ body => body
  | .loop _ _ _ body orelse => body ++ orelse
  | .block _ _ bodies => bodies.flatten
  | .assign _ _ _ | .imports _ _ | .importsFrom _ _ _ _ | .declare _ _ | .unsupported _ => []

theorem sizeOf_lt_of_mem_inner {s c : Stmt} (h : c ∈ s.inner) : sizeOf c < sizeOf s := by
  cases s with
  | function place name params header body =>
    have := List.sizeOf_lt_of_mem (show c ∈ body from h)
    simp only [function.sizeOf_spec]
    omega
  | classDef place name header body =>
    have := List.sizeOf_lt_of_mem (show c ∈ body from h)
    simp only [classDef.sizeOf_spec]
    omega
  | loop place target iter body orelse =>
    simp only [loop.sizeOf_spec]
    rcases List.mem_append.1 h with h | h
    · have := List.sizeOf_lt_of_mem h
      omega
    · have := List.sizeOf_lt_of_mem h
      omega
  | block place exprs bodies =>
    obtain ⟨body, hb, hc⟩ := List.mem_flatten.1 h
    have := List.sizeOf_lt_of_mem hb
    have := List.sizeOf_lt_of_mem hc
    simp only [block.sizeOf_spec]
    omega
  | assign | imports | importsFrom | declare | unsupported => simp [inner] at h

/-- What passes from the statements inside to a statement holds of every statement. -/
@[elab_as_elim]
theorem byInner {motive : Stmt → Prop}
    (step : ∀ s, (∀ c ∈ s.inner, motive c) → motive s) (s : Stmt) : motive s :=
  step s fun c _ => byInner step c
termination_by sizeOf s
decreasing_by exact sizeOf_lt_of_mem_inner ‹_›

end Stmt

end SourceGate.Tree
