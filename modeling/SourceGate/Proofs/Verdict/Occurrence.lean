import SourceGate.Proofs.Tree.Children
import SourceGate.Verdict.Finding

/-! # Where an expression stands

An occurrence of an expression in a module comes with the constructs around it and with its
position, load or store. The rules say what every construct puts around its parts; they do not
mention what a walk reports. Each part of an expression or of a statement is reached by some rule.
-/

namespace SourceGate.Tree

/-- A construct in which names may have a meaning of their own. -/
inductive Frame where
  | function (params : List String) (body : List Stmt)
  | lambda (params : List String)
  | comprehension (clauses : List (Clause Expr))
  | classBody (body : List Stmt)
  deriving Repr, Inhabited

namespace Frame

/-- The names that a walk remembers inside a construct. A class body adds none. -/
def recorded : Frame → List String
  | function params body => functionNames params body
  | lambda params => params.map bareParam
  | comprehension clauses => comprehensionNames clauses
  | classBody _ => []

end Frame

/-- The names that a walk remembers inside constructs, innermost first. -/
def recordedNames (frames : List Frame) : Bound := frames.flatMap Frame.recorded

/-- An expression directly inside another: the construct that is entered on the way, if any, and the
position of either. Only lists and tuples hand on a store; the first iterable of a comprehension is
evaluated outside of it. -/
inductive Expr.Holds : Expr → Position → List Frame → Position → Expr → Prop where
  | attribute {p mark value attr} : Holds (.attribute mark value attr) p [] .load value
  | base {p mark value index} : Holds (.subscript mark value index) p [] .load value
  | index {p mark value index} : Holds (.subscript mark value index) p [] .load index
  | func {p mark func args keywords} : Holds (.call mark func args keywords) p [] .load func
  | arg {p mark func args keywords e} (h : e ∈ args) :
      Holds (.call mark func args keywords) p [] .load e
  | keyword {p mark func args keywords k} (h : k ∈ keywords) :
      Holds (.call mark func args keywords) p [] .load k.value
  | listItem {p mark items e} (h : e ∈ items) : Holds (.list mark items) p [] p e
  | tupleItem {p mark items e} (h : e ∈ items) : Holds (.tuple mark items) p [] p e
  | setItem {p mark items e} (h : e ∈ items) : Holds (.set mark items) p [] .load e
  | key {p mark entries key value} (h : (some key, value) ∈ entries) :
      Holds (.dict mark entries) p [] .load key
  | value {p mark entries key value} (h : (key, value) ∈ entries) :
      Holds (.dict mark entries) p [] .load value
  | element {p mark elements clauses e} (h : e ∈ elements) :
      Holds (.comprehension mark elements clauses) p [.comprehension clauses] .load e
  | clauseTarget {p mark elements clauses c} (h : c ∈ clauses) :
      Holds (.comprehension mark elements clauses) p [.comprehension clauses] .store c.target
  | outermostIter {p mark elements c rest} :
      Holds (.comprehension mark elements (c :: rest)) p [] .load c.iter
  | innerIter {p mark elements first rest c} (h : c ∈ rest) :
      Holds (.comprehension mark elements (first :: rest)) p [.comprehension (first :: rest)]
        .load c.iter
  | condition {p mark elements clauses c e} (hc : c ∈ clauses) (h : e ∈ c.conditions) :
      Holds (.comprehension mark elements clauses) p [.comprehension clauses] .load e
  | header {p mark params header body e} (h : e ∈ header) :
      Holds (.lambda mark params header body) p [] .load e
  | body {p mark params header body} :
      Holds (.lambda mark params header body) p [.lambda params] .load body
  | test {p mark tests values e} (h : e ∈ tests) : Holds (.branch mark tests values) p [] .load e
  | branchValue {p mark tests values e} (h : e ∈ values) :
      Holds (.branch mark tests values) p [] .load e
  | left {p mark left right} : Holds (.concat mark left right) p [] .load left
  | right {p mark left right} : Holds (.concat mark left right) p [] .load right
  | child {p mark children e} (h : e ∈ children) : Holds (.other mark children) p [] .load e

/-- An expression directly inside a statement. -/
inductive Stmt.Holds : Stmt → Position → Expr → Prop where
  | functionHeader {place name params header body e} (h : e ∈ header) :
      Holds (.function place name params header body) .load e
  | classHeader {place name header body e} (h : e ∈ header) :
      Holds (.classDef place name header body) .load e
  | target {place targets value e} (h : e ∈ targets) : Holds (.assign place targets value) .store e
  | assigned {place targets value} : Holds (.assign place targets value) .load value
  | loopTarget {place target iter body orelse} :
      Holds (.loop place target iter body orelse) .store target
  | loopIter {place target iter body orelse} :
      Holds (.loop place target iter body orelse) .load iter
  | expr {place exprs bodies e} (h : e ∈ exprs) : Holds (.block place exprs bodies) .load e

/-- A statement of a module, at any depth, and the constructs around it. -/
inductive StmtAt (root : List Stmt) : List Frame → Stmt → Prop where
  | top {s} (h : s ∈ root) : StmtAt root [] s
  | inFunction {frames place name params header body s}
      (hs : StmtAt root frames (.function place name params header body)) (h : s ∈ body) :
      StmtAt root (.function params body :: frames) s
  | inClass {frames place name header body s}
      (hs : StmtAt root frames (.classDef place name header body)) (h : s ∈ body) :
      StmtAt root (.classBody body :: frames) s
  | inLoop {frames place target iter body orelse s}
      (hs : StmtAt root frames (.loop place target iter body orelse)) (h : s ∈ body ++ orelse) :
      StmtAt root frames s
  | inBlock {frames place exprs bodies body s}
      (hs : StmtAt root frames (.block place exprs bodies)) (hb : body ∈ bodies)
      (h : s ∈ body) : StmtAt root frames s

/-- An expression of a module, at any depth: the constructs around it and its position. -/
inductive ExprAt (root : List Stmt) : List Frame → Position → Expr → Prop where
  | held {frames s p e} (hs : StmtAt root frames s) (h : s.Holds p e) : ExprAt root frames p e
  | part {frames p e entered q c} (hs : ExprAt root frames p e) (h : e.Holds p entered q c) :
      ExprAt root (entered ++ frames) q c

/-! ## Nothing is left out -/

theorem Expr.Holds.mem_children {p q : Position} {e c : Expr} {entered : List Frame}
    (h : e.Holds p entered q c) : c ∈ e.children := by
  cases h with
  | key h => exact List.mem_flatMap.2 ⟨_, h, by simp⟩
  | value h => exact List.mem_flatMap.2 ⟨_, h, by simp⟩
  | clauseTarget h => exact List.mem_append_right _ (List.mem_flatMap.2 ⟨_, h, by simp⟩)
  | innerIter h =>
    exact List.mem_append_right _ (List.mem_flatMap.2 ⟨_, List.mem_cons_of_mem _ h, by simp⟩)
  | condition hc h => exact List.mem_append_right _ (List.mem_flatMap.2 ⟨_, hc, by simp [h]⟩)
  | keyword h => simp only [Expr.children, List.mem_cons, List.mem_append, List.mem_map]; grind
  | _ => simp_all [Expr.children]

theorem Expr.exists_holds_of_mem_clause {clauses : List (Clause Expr)} {clause : Clause Expr}
    {c : Expr} (p : Position) (mark : Mark) (elements : List Expr) (hc : clause ∈ clauses)
    (h : c ∈ clause.target :: clause.iter :: clause.conditions) :
    ∃ entered q, (Expr.comprehension mark elements clauses).Holds p entered q c := by
  rcases List.mem_cons.1 h with rfl | h
  · exact ⟨_, _, .clauseTarget hc⟩
  · rcases List.mem_cons.1 h with rfl | h
    · cases hc with
      | head => exact ⟨_, _, .outermostIter⟩
      | tail _ hc => exact ⟨_, _, .innerIter hc⟩
    · exact ⟨_, _, .condition hc h⟩

/-- The rules reach every child, and nothing else. -/
theorem Expr.exists_holds_iff_mem_children {p : Position} {e c : Expr} :
    (∃ entered q, e.Holds p entered q c) ↔ c ∈ e.children := by
  constructor
  · rintro ⟨_, _, h⟩
    exact h.mem_children
  intro h
  match e, h with
  | .name _ _, h | .str _ _, h | .int _ _, h | .constant _, h => simp [Expr.children] at h
  | .attribute _ value _, h =>
    obtain rfl := List.mem_singleton.1 h
    exact ⟨_, _, .attribute⟩
  | .subscript _ value index, h =>
    simp only [Expr.children, List.mem_cons, List.not_mem_nil, or_false] at h
    rcases h with rfl | rfl
    · exact ⟨_, _, .base⟩
    · exact ⟨_, _, .index⟩
  | .call _ func args keywords, h =>
    simp only [Expr.children, List.mem_cons, List.mem_append, List.mem_map] at h
    rcases h with rfl | h | ⟨k, hk, rfl⟩
    · exact ⟨_, _, .func⟩
    · exact ⟨_, _, .arg h⟩
    · exact ⟨_, _, .keyword hk⟩
  | .list _ items, h => exact ⟨_, _, .listItem h⟩
  | .tuple _ items, h => exact ⟨_, _, .tupleItem h⟩
  | .set _ items, h => exact ⟨_, _, .setItem h⟩
  | .dict _ entries, h =>
    obtain ⟨⟨key, value⟩, he, hc⟩ := List.mem_flatMap.1 h
    rcases List.mem_append.1 hc with hc | hc
    · obtain rfl := Option.mem_toList.1 hc
      exact ⟨_, _, .key he⟩
    · obtain rfl := List.mem_singleton.1 hc
      exact ⟨_, _, .value he⟩
  | .comprehension mark elements clauses, h =>
    rcases List.mem_append.1 h with h | h
    · exact ⟨_, _, .element h⟩
    · obtain ⟨clause, hc, hm⟩ := List.mem_flatMap.1 h
      exact exists_holds_of_mem_clause p mark elements hc hm
  | .lambda _ params header body, h =>
    rcases List.mem_append.1 h with h | h
    · exact ⟨_, _, .header h⟩
    · obtain rfl := List.mem_singleton.1 h
      exact ⟨_, _, .body⟩
  | .branch _ tests values, h =>
    rcases List.mem_append.1 h with h | h
    · exact ⟨_, _, .test h⟩
    · exact ⟨_, _, .branchValue h⟩
  | .concat _ left right, h =>
    simp only [Expr.children, List.mem_cons, List.not_mem_nil, or_false] at h
    rcases h with rfl | rfl
    · exact ⟨_, _, .left⟩
    · exact ⟨_, _, .right⟩
  | .other _ children, h => exact ⟨_, _, .child h⟩

theorem Stmt.exists_holds_iff_mem_exprs {s : Stmt} {e : Expr} :
    (∃ p, s.Holds p e) ↔ e ∈ s.exprs := by
  constructor
  · rintro ⟨_, h⟩
    cases h <;> simp_all [Stmt.exprs]
  intro h
  match s, h with
  | .function _ _ _ header _, h => exact ⟨_, .functionHeader h⟩
  | .classDef _ _ header _, h => exact ⟨_, .classHeader h⟩
  | .assign _ targets value, h =>
    rcases List.mem_append.1 h with h | h
    · exact ⟨_, .target h⟩
    · obtain rfl := List.mem_singleton.1 h
      exact ⟨_, .assigned⟩
  | .loop _ target iter _ _, h =>
    simp only [Stmt.exprs, List.mem_cons, List.not_mem_nil, or_false] at h
    rcases h with rfl | rfl
    · exact ⟨_, .loopTarget⟩
    · exact ⟨_, .loopIter⟩
  | .block _ exprs _, h => exact ⟨_, .expr h⟩
  | .imports _ _, h | .importsFrom _ _ _ _, h | .declare _ _, h | .unsupported _, h =>
    simp [Stmt.exprs] at h

/-- The construct that is entered on the way from a statement to those inside. -/
def Stmt.entered : Stmt → List Frame
  | .function _ _ params _ body => [.function params body]
  | .classDef _ _ _ body => [.classBody body]
  | _ => []

/-- A statement inside one of a module is one of the module. -/
theorem StmtAt.inner {root : List Stmt} {frames : List Frame} {s c : Stmt}
    (hs : StmtAt root frames s) (h : c ∈ s.inner) : StmtAt root (s.entered ++ frames) c := by
  match s, hs, h with
  | .function _ _ params _ body, hs, h => exact hs.inFunction h
  | .classDef _ _ _ body, hs, h => exact hs.inClass h
  | .loop _ _ _ body orelse, hs, h => exact hs.inLoop h
  | .block _ _ bodies, hs, h =>
    obtain ⟨body, hb, hc⟩ := List.mem_flatten.1 h
    exact hs.inBlock hb hc
  | .assign _ _ _, _, h | .imports _ _, _, h | .importsFrom _ _ _ _, _, h | .declare _ _, _, h
  | .unsupported _, _, h => simp [Stmt.inner] at h

/-- What holds of the statements of a module and passes on to those inside holds everywhere. -/
@[elab_as_elim]
theorem StmtAt.byInner {root : List Stmt}
    {motive : (frames : List Frame) → (s : Stmt) → StmtAt root frames s → Prop}
    (top : ∀ {s} (h : s ∈ root), motive [] s (.top h))
    (inner : ∀ {frames s c} (hs : StmtAt root frames s) (h : c ∈ s.inner), motive frames s hs →
      motive (s.entered ++ frames) c (hs.inner h))
    {frames : List Frame} {s : Stmt} (h : StmtAt root frames s) : motive frames s h := by
  induction h with
  | top h => exact top h
  | inFunction hs h ih => exact inner hs h ih
  | inClass hs h ih => exact inner hs h ih
  | inLoop hs h ih => exact inner hs h ih
  | inBlock hs hb h ih => exact inner hs (List.mem_flatten.2 ⟨_, hb, h⟩) ih

end SourceGate.Tree
