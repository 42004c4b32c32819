import SourceGate.Proofs.Recast.Folding

/-! # Strings that are split

A string may be written as joined strings, in any number of pieces and joined in any shape. Wherever
in a module this is done, folding undoes it, so the verdict on the module stays.
-/

namespace SourceGate.Tree

variable {policy : Policy} {old new : Expr} {root root' : List Stmt}

/-! ## Pieces -/

/-- Strings that are joined in some shape, from left to right. -/
inductive Pieces : Expr → List String → Prop where
  | str {mark text} : Pieces (.str mark text) [text]
  | concat {mark left right ps qs} (hl : Pieces left ps) (hr : Pieces right qs) :
      Pieces (.concat mark left right) (ps ++ qs)

theorem Pieces.staticText?_eq {e : Expr} {ps : List String} (h : Pieces e ps) :
    staticText? e = some (String.join ps) := by
  induction h with
  | str => simp [staticText?]
  | concat hl hr ihl ihr => simp [staticText?, ihl, ihr]

/-! ## Replacing -/

/-- Two expressions that differ in one place only, where the one has `old` and the other `new`. -/
inductive Expr.Replaces (old new : Expr) : Expr → Expr → Prop where
  | here : Replaces old new old new
  | owner {mark e e' attr} (h : Replaces old new e e') :
      Replaces old new (.attribute mark e attr) (.attribute mark e' attr)
  | base {mark e e' index} (h : Replaces old new e e') :
      Replaces old new (.subscript mark e index) (.subscript mark e' index)
  | index {mark base e e'} (h : Replaces old new e e') :
      Replaces old new (.subscript mark base e) (.subscript mark base e')
  | func {mark e e' args keywords} (h : Replaces old new e e') :
      Replaces old new (.call mark e args keywords) (.call mark e' args keywords)
  | arg {mark func pre e e' post keywords} (h : Replaces old new e e') :
      Replaces old new (.call mark func (pre ++ e :: post) keywords)
        (.call mark func (pre ++ e' :: post) keywords)
  | keyword {mark func args pre name e e' post} (h : Replaces old new e e') :
      Replaces old new (.call mark func args (pre ++ ⟨name, e⟩ :: post))
        (.call mark func args (pre ++ ⟨name, e'⟩ :: post))
  | listItem {mark pre e e' post} (h : Replaces old new e e') :
      Replaces old new (.list mark (pre ++ e :: post)) (.list mark (pre ++ e' :: post))
  | tupleItem {mark pre e e' post} (h : Replaces old new e e') :
      Replaces old new (.tuple mark (pre ++ e :: post)) (.tuple mark (pre ++ e' :: post))
  | setItem {mark pre e e' post} (h : Replaces old new e e') :
      Replaces old new (.set mark (pre ++ e :: post)) (.set mark (pre ++ e' :: post))
  | key {mark pre e e' value post} (h : Replaces old new e e') :
      Replaces old new (.dict mark (pre ++ (some e, value) :: post))
        (.dict mark (pre ++ (some e', value) :: post))
  | value {mark pre key e e' post} (h : Replaces old new e e') :
      Replaces old new (.dict mark (pre ++ (key, e) :: post))
        (.dict mark (pre ++ (key, e') :: post))
  | element {mark pre e e' post clauses} (h : Replaces old new e e') :
      Replaces old new (.comprehension mark (pre ++ e :: post) clauses)
        (.comprehension mark (pre ++ e' :: post) clauses)
  | clauseTarget {mark elements pre e e' iter conditions post} (h : Replaces old new e e') :
      Replaces old new (.comprehension mark elements (pre ++ ⟨e, iter, conditions⟩ :: post))
        (.comprehension mark elements (pre ++ ⟨e', iter, conditions⟩ :: post))
  | clauseIter {mark elements pre target e e' conditions post} (h : Replaces old new e e') :
      Replaces old new (.comprehension mark elements (pre ++ ⟨target, e, conditions⟩ :: post))
        (.comprehension mark elements (pre ++ ⟨target, e', conditions⟩ :: post))
  | condition {mark elements pre target iter before e e' after post}
      (h : Replaces old new e e') :
      Replaces old new
        (.comprehension mark elements (pre ++ ⟨target, iter, before ++ e :: after⟩ :: post))
        (.comprehension mark elements (pre ++ ⟨target, iter, before ++ e' :: after⟩ :: post))
  | header {mark params pre e e' post body} (h : Replaces old new e e') :
      Replaces old new (.lambda mark params (pre ++ e :: post) body)
        (.lambda mark params (pre ++ e' :: post) body)
  | body {mark params header e e'} (h : Replaces old new e e') :
      Replaces old new (.lambda mark params header e) (.lambda mark params header e')
  | test {mark pre e e' post values} (h : Replaces old new e e') :
      Replaces old new (.branch mark (pre ++ e :: post) values)
        (.branch mark (pre ++ e' :: post) values)
  | branchValue {mark tests pre e e' post} (h : Replaces old new e e') :
      Replaces old new (.branch mark tests (pre ++ e :: post))
        (.branch mark tests (pre ++ e' :: post))
  | left {mark e e' right} (h : Replaces old new e e') :
      Replaces old new (.concat mark e right) (.concat mark e' right)
  | right {mark left e e'} (h : Replaces old new e e') :
      Replaces old new (.concat mark left e) (.concat mark left e')
  | child {mark pre e e' post} (h : Replaces old new e e') :
      Replaces old new (.other mark (pre ++ e :: post)) (.other mark (pre ++ e' :: post))

/-- Two statements that differ in one expression only. -/
inductive Stmt.Replaces (old new : Expr) : Stmt → Stmt → Prop where
  | functionHeader {place name params pre e e' post body} (h : Expr.Replaces old new e e') :
      Replaces old new (.function place name params (pre ++ e :: post) body)
        (.function place name params (pre ++ e' :: post) body)
  | functionBody {place name params header pre s s' post} (h : Replaces old new s s') :
      Replaces old new (.function place name params header (pre ++ s :: post))
        (.function place name params header (pre ++ s' :: post))
  | classHeader {place name pre e e' post body} (h : Expr.Replaces old new e e') :
      Replaces old new (.classDef place name (pre ++ e :: post) body)
        (.classDef place name (pre ++ e' :: post) body)
  | classBody {place name header pre s s' post} (h : Replaces old new s s') :
      Replaces old new (.classDef place name header (pre ++ s :: post))
        (.classDef place name header (pre ++ s' :: post))
  | target {place pre e e' post value} (h : Expr.Replaces old new e e') :
      Replaces old new (.assign place (pre ++ e :: post) value)
        (.assign place (pre ++ e' :: post) value)
  | assigned {place targets e e'} (h : Expr.Replaces old new e e') :
      Replaces old new (.assign place targets e) (.assign place targets e')
  | loopTarget {place e e' iter body orelse} (h : Expr.Replaces old new e e') :
      Replaces old new (.loop place e iter body orelse) (.loop place e' iter body orelse)
  | loopIter {place target e e' body orelse} (h : Expr.Replaces old new e e') :
      Replaces old new (.loop place target e body orelse) (.loop place target e' body orelse)
  | loopBody {place target iter pre s s' post orelse} (h : Replaces old new s s') :
      Replaces old new (.loop place target iter (pre ++ s :: post) orelse)
        (.loop place target iter (pre ++ s' :: post) orelse)
  | loopElse {place target iter body pre s s' post} (h : Replaces old new s s') :
      Replaces old new (.loop place target iter body (pre ++ s :: post))
        (.loop place target iter body (pre ++ s' :: post))
  | expr {place pre e e' post bodies} (h : Expr.Replaces old new e e') :
      Replaces old new (.block place (pre ++ e :: post) bodies)
        (.block place (pre ++ e' :: post) bodies)
  | nested {place exprs before pre s s' post after} (h : Replaces old new s s') :
      Replaces old new (.block place exprs (before ++ (pre ++ s :: post) :: after))
        (.block place exprs (before ++ (pre ++ s' :: post) :: after))

/-- Two modules that differ in one expression only. -/
inductive Replaced (old new : Expr) : List Stmt → List Stmt → Prop where
  | stmt {pre s s' post} (h : Stmt.Replaces old new s s') :
      Replaced old new (pre ++ s :: post) (pre ++ s' :: post)

/-! ## No place is left out -/

theorem Expr.exists_replaces_of_mem_children {e c c' : Expr} (hc : c ∈ e.children)
    (h : Expr.Replaces old new c c') : ∃ e', Expr.Replaces old new e e' := by
  cases e with
  | name | str | int | constant => cases hc
  | «attribute» mark value attr =>
    obtain rfl := List.mem_singleton.1 hc
    exact ⟨_, .owner h⟩
  | subscript mark value index =>
    simp only [children, List.mem_cons, List.not_mem_nil, or_false] at hc
    rcases hc with rfl | rfl
    · exact ⟨_, .base h⟩
    · exact ⟨_, .index h⟩
  | call mark func args keywords =>
    simp only [children, List.mem_cons, List.mem_append, List.mem_map] at hc
    rcases hc with rfl | hc | ⟨⟨name, c⟩, hc, rfl⟩
    · exact ⟨_, .func h⟩
    · obtain ⟨pre, post, rfl⟩ := List.append_of_mem hc
      exact ⟨_, .arg h⟩
    · obtain ⟨pre, post, rfl⟩ := List.append_of_mem hc
      exact ⟨_, .keyword h⟩
  | list mark items =>
    obtain ⟨pre, post, rfl⟩ := List.append_of_mem hc
    exact ⟨_, .listItem h⟩
  | tuple mark items =>
    obtain ⟨pre, post, rfl⟩ := List.append_of_mem hc
    exact ⟨_, .tupleItem h⟩
  | set mark items =>
    obtain ⟨pre, post, rfl⟩ := List.append_of_mem hc
    exact ⟨_, .setItem h⟩
  | dict mark entries =>
    obtain ⟨⟨key, value⟩, he, found⟩ := List.mem_flatMap.1 hc
    obtain ⟨pre, post, rfl⟩ := List.append_of_mem he
    rcases List.mem_append.1 found with found | found
    · obtain rfl := Option.mem_toList.1 found
      exact ⟨_, .key h⟩
    · obtain rfl := List.mem_singleton.1 found
      exact ⟨_, .value h⟩
  | comprehension mark elements clauses =>
    rcases List.mem_append.1 hc with hc | hc
    · obtain ⟨pre, post, rfl⟩ := List.append_of_mem hc
      exact ⟨_, .element h⟩
    · obtain ⟨⟨target, iter, conditions⟩, hl, found⟩ := List.mem_flatMap.1 hc
      obtain ⟨pre, post, rfl⟩ := List.append_of_mem hl
      simp only [List.mem_cons] at found
      rcases found with rfl | rfl | found
      · exact ⟨_, .clauseTarget h⟩
      · exact ⟨_, .clauseIter h⟩
      · obtain ⟨before, after, rfl⟩ := List.append_of_mem found
        exact ⟨_, .condition h⟩
  | lambda mark params header body =>
    rcases List.mem_append.1 hc with hc | hc
    · obtain ⟨pre, post, rfl⟩ := List.append_of_mem hc
      exact ⟨_, .header h⟩
    · obtain rfl := List.mem_singleton.1 hc
      exact ⟨_, .body h⟩
  | branch mark tests values =>
    rcases List.mem_append.1 hc with hc | hc
    · obtain ⟨pre, post, rfl⟩ := List.append_of_mem hc
      exact ⟨_, .test h⟩
    · obtain ⟨pre, post, rfl⟩ := List.append_of_mem hc
      exact ⟨_, .branchValue h⟩
  | concat mark left right =>
    simp only [children, List.mem_cons, List.not_mem_nil, or_false] at hc
    rcases hc with rfl | rfl
    · exact ⟨_, .left h⟩
    · exact ⟨_, .right h⟩
  | other mark items =>
    obtain ⟨pre, post, rfl⟩ := List.append_of_mem hc
    exact ⟨_, .child h⟩

theorem Expr.exists_replaces_of_mem_subterms {e : Expr} (h : old ∈ e.subterms) :
    ∃ e', Expr.Replaces old new e e' := by
  induction e using byChildren with
  | step e ih =>
    rcases mem_subterms_iff.1 h with rfl | ⟨c, hc, h⟩
    · exact ⟨new, .here⟩
    · obtain ⟨c', hr⟩ := ih c hc h
      exact exists_replaces_of_mem_children hc hr

theorem Stmt.exists_replaces_of_mem_exprs {s : Stmt} {e e' : Expr} (he : e ∈ s.exprs)
    (h : Expr.Replaces old new e e') : ∃ s', Stmt.Replaces old new s s' := by
  cases s with
  | imports | importsFrom | declare | unsupported => cases he
  | function place name params header body =>
    obtain ⟨pre, post, rfl⟩ := List.append_of_mem he
    exact ⟨_, .functionHeader h⟩
  | classDef place name header body =>
    obtain ⟨pre, post, rfl⟩ := List.append_of_mem he
    exact ⟨_, .classHeader h⟩
  | assign place targets value =>
    rcases List.mem_append.1 he with he | he
    · obtain ⟨pre, post, rfl⟩ := List.append_of_mem he
      exact ⟨_, .target h⟩
    · obtain rfl := List.mem_singleton.1 he
      exact ⟨_, .assigned h⟩
  | loop place target iter body orelse =>
    simp only [exprs, List.mem_cons, List.not_mem_nil, or_false] at he
    rcases he with rfl | rfl
    · exact ⟨_, .loopTarget h⟩
    · exact ⟨_, .loopIter h⟩
  | block place exprs bodies =>
    obtain ⟨pre, post, rfl⟩ := List.append_of_mem he
    exact ⟨_, .expr h⟩

theorem Stmt.exists_replaces_of_mem_inner {s c c' : Stmt} (hc : c ∈ s.inner)
    (h : Stmt.Replaces old new c c') : ∃ s', Stmt.Replaces old new s s' := by
  cases s with
  | imports | importsFrom | assign | declare | unsupported => cases hc
  | function place name params header body =>
    obtain ⟨pre, post, rfl⟩ := List.append_of_mem hc
    exact ⟨_, .functionBody h⟩
  | classDef place name header body =>
    obtain ⟨pre, post, rfl⟩ := List.append_of_mem hc
    exact ⟨_, .classBody h⟩
  | loop place target iter body orelse =>
    rcases List.mem_append.1 hc with hc | hc
    · obtain ⟨pre, post, rfl⟩ := List.append_of_mem hc
      exact ⟨_, .loopBody h⟩
    · obtain ⟨pre, post, rfl⟩ := List.append_of_mem hc
      exact ⟨_, .loopElse h⟩
  | block place exprs bodies =>
    obtain ⟨body, hb, found⟩ := List.mem_flatten.1 hc
    obtain ⟨before, after, rfl⟩ := List.append_of_mem hb
    obtain ⟨pre, post, rfl⟩ := List.append_of_mem found
    exact ⟨_, .nested h⟩

theorem Stmt.exists_replaces_of_mem_nested {s n : Stmt} {e e' : Expr} (hn : n ∈ s.nested)
    (he : e ∈ n.exprs) (h : Expr.Replaces old new e e') : ∃ s', Stmt.Replaces old new s s' := by
  induction s using byInner with
  | step s ih =>
    rcases mem_nested_iff.1 hn with rfl | ⟨c, hc, hn⟩
    · exact exists_replaces_of_mem_exprs he h
    · obtain ⟨c', hr⟩ := ih c hc hn
      exact exists_replaces_of_mem_inner hc hr

/-- Any expression of a module can be replaced by any other. -/
theorem exists_replaced_of_mem_allExprs (h : old ∈ allExprs root) :
    ∃ root', Replaced old new root root' := by
  obtain ⟨n, hn, found⟩ := List.mem_flatMap.1 h
  obtain ⟨e, he, found⟩ := List.mem_flatMap.1 found
  obtain ⟨top, ht, hn⟩ := List.mem_flatMap.1 hn
  obtain ⟨e', hr⟩ : ∃ e', Expr.Replaces old new e e' :=
    Expr.exists_replaces_of_mem_subterms found
  obtain ⟨top', hr⟩ := Stmt.exists_replaces_of_mem_nested hn he hr
  obtain ⟨pre, post, rfl⟩ := List.append_of_mem ht
  exact ⟨_, .stmt hr⟩

/-! ## Folding undoes it -/

theorem Expr.Replaces.folded_eq {e e' : Expr} (h : Expr.Replaces old new e e')
    (same : old.folded = new.folded) : e.folded = e'.folded := by
  have texts {l l' : Expr} (h : l.folded = l'.folded) : staticText? l = staticText? l' := by
    rw [← Recasting.folding.staticText?_expr l, ← Recasting.folding.staticText?_expr l']
    exact congrArg staticText? h
  induction h with
  | here => exact same
  | left h ih | right h ih => simp only [folded, staticText?, ih, texts ih]
  | key h ih | value h ih =>
    simp only [folded_dict, List.map_append, List.map_cons, Prod.map, Option.map, ih]
  | _ => simp only [folded, List.map_append, List.map_cons, ‹_ = _›]

theorem Stmt.Replaces.folded_eq {s s' : Stmt} (h : Stmt.Replaces old new s s')
    (same : old.folded = new.folded) : s.folded = s'.folded := by
  induction h with
  | functionBody h ih | classBody h ih | loopBody h ih | loopElse h ih | nested h ih =>
    simp only [folded, List.map_append, List.map_cons, ih]
  | functionHeader h | classHeader h | target h | assigned h | loopTarget h | loopIter h | expr h =>
    simp only [folded, List.map_append, List.map_cons, h.folded_eq same]

theorem Replaced.folded_eq (h : Replaced old new root root') (same : old.folded = new.folded) :
    root.map Stmt.folded = root'.map Stmt.folded := by
  cases h with
  | stmt h => simp only [List.map_append, List.map_cons, h.folded_eq same]

/-! ## The verdict -/

/-- A split string is written as the string: in its place and with its identity, its pieces joined
to its text. -/
structure Splits (mark : Mark) (text : String) (whole : Expr) (ps : List String) : Prop where
  pieces : Pieces whole ps
  mark_eq : whole.mark = mark
  join_eq : String.join ps = text

theorem Splits.folded_eq {mark : Mark} {text : String} {whole : Expr} {ps : List String}
    (h : Splits mark text whole ps) : (Expr.str mark text).folded = whole.folded := by
  rw [Expr.folded_of_staticText? h.pieces.staticText?_eq, h.mark_eq, h.join_eq, Expr.folded]

/-- Any string of a module can be split, and wherever it is, the verdict is the same. -/
theorem violations_split (policy : Policy) (root : List Stmt) {mark : Mark} {text : String}
    {whole : Expr} {ps : List String} (h : Splits mark text whole ps) :
    (.str mark text ∈ allExprs root → ∃ root', Replaced (.str mark text) whole root root') ∧
      ∀ root', Replaced (.str mark text) whole root root' →
        violations policy root' = violations policy root := by
  refine ⟨exists_replaced_of_mem_allExprs, fun root' replaced => ?_⟩
  rw [← violations_folded policy root, ← violations_folded policy root',
    replaced.folded_eq h.folded_eq]

/-- `"ev" + ("" + "al")`. -/
def splitText : Expr :=
  .concat ⟨2, ⟨1, 7⟩⟩ (.str ⟨3, ⟨1, 7⟩⟩ "ev")
    (.concat ⟨4, ⟨1, 15⟩⟩ (.str ⟨5, ⟨1, 15⟩⟩ "") (.str ⟨6, ⟨1, 20⟩⟩ "al"))

theorem splitText_splits : Splits ⟨2, ⟨1, 7⟩⟩ "eval" splitText ["ev", "", "al"] :=
  ⟨.concat .str (.concat .str .str), rfl, by decide⟩

/-- `table[…]`. -/
def lookedUp (key : Expr) : List Stmt :=
  [.block ⟨1, 1⟩ [.subscript ⟨0, ⟨1, 1⟩⟩ (.name ⟨1, ⟨1, 1⟩⟩ "table") key] []]

theorem replaced_lookedUp : Replaced old new (lookedUp old) (lookedUp new) :=
  @Replaced.stmt old new [] _ _ [] (@Stmt.Replaces.expr old new _ [] _ _ [] _ (.index .here))

theorem lookedUp_violations :
    violations .standard (lookedUp splitText) =
        violations .standard (lookedUp (.str ⟨2, ⟨1, 7⟩⟩ "eval")) ∧
      (violations .standard (lookedUp splitText)).map (·.target) = ["eval"] :=
  ⟨(violations_split .standard _ splitText_splits).2 _ replaced_lookedUp, by decide +kernel⟩

end SourceGate.Tree
