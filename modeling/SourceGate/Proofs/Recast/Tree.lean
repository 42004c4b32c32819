import SourceGate.Proofs.Tree.Subterm

/-! # Trees that are recast

A recasting maps the expressions and the statements of a tree and keeps the shape and the places of
the tree. It may map identities, also distinct ones to one, and it may write strings that are joined
as the one string that they fold to.
-/

namespace SourceGate.Tree

/-- The place stays. -/
def Mark.rename (f : Nat → Nat) (mark : Mark) : Mark := { mark with id := f mark.id }

def Keyword.map {α β : Type} (g : α → β) (k : Keyword α) : Keyword β := ⟨k.name, g k.value⟩

def Clause.map {α β : Type} (g : α → β) (c : Clause α) : Clause β :=
  ⟨g c.target, g c.iter, c.conditions.map g⟩

namespace Expr

/-- The expression with its identity and the expressions directly inside of it mapped. -/
def mapParts (f : Nat → Nat) (g : Expr → Expr) : Expr → Expr
  | .name mark text => .name (mark.rename f) text
  | .attribute mark value attr => .attribute (mark.rename f) (g value) attr
  | .subscript mark value index => .subscript (mark.rename f) (g value) (g index)
  | .call mark func args keywords =>
    .call (mark.rename f) (g func) (args.map g) (keywords.map (Keyword.map g))
  | .list mark items => .list (mark.rename f) (items.map g)
  | .tuple mark items => .tuple (mark.rename f) (items.map g)
  | .set mark items => .set (mark.rename f) (items.map g)
  | .dict mark entries => .dict (mark.rename f) (entries.map (Prod.map (Option.map g) g))
  | .str mark text => .str (mark.rename f) text
  | .int mark value => .int (mark.rename f) value
  | .constant mark => .constant (mark.rename f)
  | .comprehension mark elements clauses =>
    .comprehension (mark.rename f) (elements.map g) (clauses.map (Clause.map g))
  | .lambda mark params header body => .lambda (mark.rename f) params (header.map g) (g body)
  | .branch mark tests values => .branch (mark.rename f) (tests.map g) (values.map g)
  | .concat mark left right => .concat (mark.rename f) (g left) (g right)
  | .other mark children => .other (mark.rename f) (children.map g)

def isConcat : Expr → Bool
  | .concat _ _ _ => true
  | _ => false

end Expr

/-- The statement with the expressions and the statements directly inside of it mapped. -/
def Stmt.mapParts (g : Expr → Expr) (k : Stmt → Stmt) : Stmt → Stmt
  | .imports place modules => .imports place modules
  | .importsFrom place source level names => .importsFrom place source level names
  | .function place name params header body =>
    .function place name params (header.map g) (body.map k)
  | .classDef place name header body => .classDef place name (header.map g) (body.map k)
  | .assign place targets value => .assign place (targets.map g) (g value)
  | .loop place target iter body orelse =>
    .loop place (g target) (g iter) (body.map k) (orelse.map k)
  | .block place exprs bodies => .block place (exprs.map g) (bodies.map (List.map k))
  | .declare place names => .declare place names
  | .unsupported place => .unsupported place

/-- A map on trees that goes through all parts, maps identities, and writes joined strings either as
joined or as one. -/
structure Recasting (f : Nat → Nat) where
  expr : Expr → Expr
  stmt : Stmt → Stmt
  parts : ∀ {e : Expr}, e.isConcat = false → expr e = e.mapParts f expr
  joined : ∀ mark left right, expr (.concat mark left right) =
      .concat (mark.rename f) (expr left) (expr right) ∨
    ∃ text, staticText? (.concat mark left right) = some text ∧
      expr (.concat mark left right) = .str (mark.rename f) text
  inner : ∀ s : Stmt, stmt s = s.mapParts expr stmt

namespace Recasting

variable {f : Nat → Nat} (r : Recasting f)

/-! ## By constructors -/

section Constructors

variable (mark : Mark)

@[simp] theorem expr_name (text : String) :
    r.expr (.name mark text) = .name (mark.rename f) text := r.parts rfl

@[simp] theorem expr_attribute (value : Expr) (attr : String) :
    r.expr (.attribute mark value attr) = .attribute (mark.rename f) (r.expr value) attr :=
  r.parts rfl

@[simp] theorem expr_subscript (value index : Expr) :
    r.expr (.subscript mark value index) =
      .subscript (mark.rename f) (r.expr value) (r.expr index) := r.parts rfl

@[simp] theorem expr_call (func : Expr) (args : List Expr) (keywords : List (Keyword Expr)) :
    r.expr (.call mark func args keywords) =
      .call (mark.rename f) (r.expr func) (args.map r.expr) (keywords.map (Keyword.map r.expr)) :=
  r.parts rfl

@[simp] theorem expr_list (items : List Expr) :
    r.expr (.list mark items) = .list (mark.rename f) (items.map r.expr) := r.parts rfl

@[simp] theorem expr_tuple (items : List Expr) :
    r.expr (.tuple mark items) = .tuple (mark.rename f) (items.map r.expr) := r.parts rfl

@[simp] theorem expr_set (items : List Expr) :
    r.expr (.set mark items) = .set (mark.rename f) (items.map r.expr) := r.parts rfl

@[simp] theorem expr_dict (entries : List (Option Expr × Expr)) :
    r.expr (.dict mark entries) =
      .dict (mark.rename f) (entries.map (Prod.map (Option.map r.expr) r.expr)) := r.parts rfl

@[simp] theorem expr_str (text : String) :
    r.expr (.str mark text) = .str (mark.rename f) text := r.parts rfl

@[simp] theorem expr_int (value : Int) :
    r.expr (.int mark value) = .int (mark.rename f) value := r.parts rfl

@[simp] theorem expr_constant : r.expr (.constant mark) = .constant (mark.rename f) := r.parts rfl

@[simp] theorem expr_comprehension (elements : List Expr) (clauses : List (Clause Expr)) :
    r.expr (.comprehension mark elements clauses) =
      .comprehension (mark.rename f) (elements.map r.expr) (clauses.map (Clause.map r.expr)) :=
  r.parts rfl

@[simp] theorem expr_lambda (params : List String) (header : List Expr) (body : Expr) :
    r.expr (.lambda mark params header body) =
      .lambda (mark.rename f) params (header.map r.expr) (r.expr body) := r.parts rfl

@[simp] theorem expr_branch (tests values : List Expr) :
    r.expr (.branch mark tests values) =
      .branch (mark.rename f) (tests.map r.expr) (values.map r.expr) := r.parts rfl

@[simp] theorem expr_other (children : List Expr) :
    r.expr (.other mark children) = .other (mark.rename f) (children.map r.expr) := r.parts rfl

end Constructors

/-- An expression keeps its constructor, or was joined strings and is one string. -/
theorem shape (e : Expr) : r.expr e = e.mapParts f r.expr ∨
    ∃ mark left right text, e = .concat mark left right ∧ staticText? e = some text ∧
      r.expr e = .str (mark.rename f) text := by
  cases e with
  | concat mark left right =>
    rcases r.joined mark left right with same | ⟨text, folds, same⟩
    · exact .inl same
    · exact .inr ⟨mark, left, right, text, rfl, folds, same⟩
  | _ => exact .inl (r.parts rfl)

/-- What is read off a constructor and does not tell joined strings from a string is kept. -/
theorem keeps {β : Type} (read : Expr → β) (parts : ∀ e, read (e.mapParts f r.expr) = read e)
    (string : ∀ mark left right mark' text,
      read (.str mark' text) = read (.concat mark left right)) (e : Expr) :
    read (r.expr e) = read e := by
  rcases r.shape e with same | ⟨mark, left, right, text, rfl, -, same⟩
  · rw [same]
    exact parts e
  · rw [same]
    exact string mark left right _ text

/-! ## What stays -/

@[simp] theorem mark_expr (e : Expr) : (r.expr e).mark = e.mark.rename f := by
  rcases r.shape e with same | ⟨mark, left, right, text, rfl, -, same⟩
  · rw [same]
    cases e <;> rfl
  · rw [same]
    rfl

@[simp] theorem id_expr (e : Expr) : (r.expr e).id = f e.id := by
  rw [Expr.id, mark_expr]
  rfl

@[simp] theorem place_expr (e : Expr) : (r.expr e).place = e.place := by
  rw [Expr.place, mark_expr]
  rfl

@[simp] theorem isDisplay_expr (e : Expr) : (r.expr e).isDisplay = e.isDisplay :=
  r.keeps Expr.isDisplay (fun e => by cases e <;> rfl) (fun _ _ _ _ _ => rfl) e

@[simp] theorem isComprehension_expr (e : Expr) : (r.expr e).isComprehension = e.isComprehension :=
  r.keeps Expr.isComprehension (fun e => by cases e <;> rfl) (fun _ _ _ _ _ => rfl) e

@[simp] theorem isSome_sequenceItems?_expr (e : Expr) :
    (r.expr e).sequenceItems?.isSome = e.sequenceItems?.isSome :=
  r.keeps (·.sequenceItems?.isSome) (fun e => by cases e <;> rfl) (fun _ _ _ _ _ => rfl) e

@[simp] theorem staticText?_expr (e : Expr) : staticText? (r.expr e) = staticText? e := by
  induction e using Expr.byChildren with
  | step e ih =>
    rcases r.shape e with same | ⟨mark, left, right, text, rfl, folds, same⟩
    · rw [same]
      cases e with
      | concat mark left right =>
        rw [Expr.mapParts, staticText?, staticText?, ih left (by simp [Expr.children]),
          ih right (by simp [Expr.children])]
      | _ => rfl
    · rw [same, folds]
      rfl

end Recasting

end SourceGate.Tree
