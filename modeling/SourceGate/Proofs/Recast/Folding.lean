import SourceGate.Proofs.Recast.Walk
import SourceGate.Verdict.Basic

/-! # Trees with their strings folded

Folding writes all strings that are joined as the string that they fold to, in the place of the
join. It is a recasting that leaves the identities, so the verdict on a folded tree is the verdict
on the tree.
-/

namespace SourceGate.Tree

/-- The expression with all joined strings in it written as one. -/
def Expr.folded : Expr → Expr
  | .name mark text => .name mark text
  | .attribute mark value attr => .attribute mark value.folded attr
  | .subscript mark value index => .subscript mark value.folded index.folded
  | .call mark func args keywords =>
    .call mark func.folded (args.map folded) (keywords.map fun k => ⟨k.name, k.value.folded⟩)
  | .list mark items => .list mark (items.map folded)
  | .tuple mark items => .tuple mark (items.map folded)
  | .set mark items => .set mark (items.map folded)
  | .dict mark entries =>
    .dict mark (entries.map fun entry =>
      (match _ : entry.1 with
        | some key => some key.folded
        | none => none, entry.2.folded))
  | .str mark text => .str mark text
  | .int mark value => .int mark value
  | .constant mark => .constant mark
  | .comprehension mark elements clauses =>
    .comprehension mark (elements.map folded)
      (clauses.map fun c => ⟨c.target.folded, c.iter.folded, c.conditions.map folded⟩)
  | .lambda mark params header body => .lambda mark params (header.map folded) body.folded
  | .branch mark tests values => .branch mark (tests.map folded) (values.map folded)
  | .concat mark left right =>
    match staticText? (.concat mark left right) with
    | some text => .str mark text
    | none => .concat mark left.folded right.folded
  | .other mark children => .other mark (children.map folded)
termination_by e => sizeOf e
decreasing_by
  all_goals
    refine sizeOf_lt_of_mem_children ?_
    simp only [Expr.children, List.mem_cons, List.mem_append, List.mem_map, List.mem_flatMap]
    grind

/-- The statement with all joined strings in it written as one. -/
def Stmt.folded : Stmt → Stmt
  | .imports place modules => .imports place modules
  | .importsFrom place source level names => .importsFrom place source level names
  | .function place name params header body =>
    .function place name params (header.map Expr.folded) (body.map folded)
  | .classDef place name header body =>
    .classDef place name (header.map Expr.folded) (body.map folded)
  | .assign place targets value => .assign place (targets.map Expr.folded) value.folded
  | .loop place target iter body orelse =>
    .loop place target.folded iter.folded (body.map folded) (orelse.map folded)
  | .block place exprs bodies =>
    .block place (exprs.map Expr.folded) (bodies.map fun body => body.map folded)
  | .declare place names => .declare place names
  | .unsupported place => .unsupported place
termination_by s => sizeOf s
decreasing_by
  all_goals
    refine sizeOf_lt_of_mem_inner ?_
    simp only [Stmt.inner, List.mem_append, List.mem_flatten]
    grind

theorem Expr.folded_dict (mark : Mark) (entries : List (Option Expr × Expr)) :
    (Expr.dict mark entries).folded =
      .dict mark (entries.map (Prod.map (Option.map Expr.folded) Expr.folded)) := by
  rw [Expr.folded]
  refine congrArg (Expr.dict mark) (List.map_congr_left fun entry _ => ?_)
  obtain ⟨_ | key, value⟩ := entry <;> rfl

namespace Recasting

/-- Folding leaves all identities. -/
def folding : Recasting id where
  expr := Expr.folded
  stmt := Stmt.folded
  parts {e} plain := by
    cases e with
    | concat => cases plain
    | dict mark entries => exact Expr.folded_dict mark entries
    | _ => rw [Expr.folded]; rfl
  joined mark left right := by
    rw [Expr.folded]
    cases staticText? (.concat mark left right) with
    | none => exact .inl rfl
    | some text => exact .inr ⟨text, rfl, rfl⟩
  inner s := by cases s <;> rw [Stmt.folded] <;> rfl

end Recasting

theorem Expr.folded_of_staticText? {e : Expr} {text : String} (h : staticText? e = some text) :
    e.folded = .str e.mark text := by
  cases e with
  | str mark whole =>
    obtain rfl := Option.some.inj h
    rw [Expr.folded, Expr.mark]
  | concat mark left right => rw [Expr.folded, h, Expr.mark]
  | _ => cases h

/-- The verdict on a folded module is the verdict on the module. -/
theorem violations_folded (policy : Policy) (root : List Stmt) :
    violations policy (root.map Stmt.folded) = violations policy root := by
  have same : stmtsFindings policy [] (root.map Stmt.folded) = stmtsFindings policy [] root := by
    refine (Recasting.folding.stmtsFindings_map [] root).trans ?_
    refine (List.map_congr_left fun g _ => ?_).trans (List.map_id _)
    simp [Finding.rename]
  rw [violations, same, violations]

end SourceGate.Tree
