import SourceGate.Proofs.Verdict.Occurrence

/-! # What a tree mentions

The names, attributes, items and calls of a tree, each with its place, in the order of the fields.
Every one of them stands at some occurrence, so a walk meets it.
-/

namespace SourceGate

/-- What an expression looks up. -/
inductive Shape where
  | name (text : String)
  | attribute (attr : String)
  | item
  | call
  deriving DecidableEq, Repr, Inhabited

/-- A lookup and where it stands. -/
structure Mention where
  shape : Shape
  place : Location
  deriving DecidableEq, Repr, Inhabited

namespace Tree

namespace Expr

/-- What the expression itself looks up. -/
def mention? : Expr → Option Mention
  | .name mark text => some ⟨.name text, mark.place⟩
  | .attribute mark _ attr => some ⟨.attribute attr, mark.place⟩
  | .subscript mark _ _ => some ⟨.item, mark.place⟩
  | .call mark _ _ _ => some ⟨.call, mark.place⟩
  | _ => none

/-- What an expression and all its parts look up. -/
def mentions (e : Expr) : List Mention :=
  e.mention?.toList ++ e.children.attach.flatMap fun ⟨c, h⟩ =>
    have := sizeOf_lt_of_mem_children h
    c.mentions
termination_by sizeOf e

theorem mentions_eq (e : Expr) :
    e.mentions = e.mention?.toList ++ e.children.flatMap mentions := by
  rw [mentions, List.flatMap_subtype (g := mentions) fun _ _ => rfl, List.unattach_attach]

end Expr

namespace Stmt

/-- What the expressions of a statement and of all statements in it look up. -/
def mentions (s : Stmt) : List Mention :=
  s.exprs.flatMap Expr.mentions ++ s.inner.attach.flatMap fun ⟨c, h⟩ =>
    have := sizeOf_lt_of_mem_inner h
    c.mentions
termination_by sizeOf s

theorem mentions_eq (s : Stmt) :
    s.mentions = s.exprs.flatMap Expr.mentions ++ s.inner.flatMap mentions := by
  rw [mentions, List.flatMap_subtype (g := mentions) fun _ _ => rfl, List.unattach_attach]

end Stmt

/-- What a module looks up. -/
def mentions (root : List Stmt) : List Mention := root.flatMap Stmt.mentions

/-! ## Every mention stands somewhere -/

/-- A mention stands at some occurrence of the module. -/
def MentionedAt (root : List Stmt) (m : Mention) : Prop :=
  ∃ frames p e, ExprAt root frames p e ∧ e.mention? = some m

theorem ExprAt.mentionedAt {root : List Stmt} {frames : List Frame} {p : Position} {e : Expr}
    {m : Mention} (he : ExprAt root frames p e) (hm : m ∈ e.mentions) : MentionedAt root m := by
  induction e using Expr.byChildren generalizing frames p with
  | step e ih =>
    rw [Expr.mentions_eq] at hm
    rcases List.mem_append.1 hm with hm | hm
    · exact ⟨frames, p, e, he, Option.mem_toList.1 hm⟩
    · obtain ⟨c, hc, hm⟩ := List.mem_flatMap.1 hm
      obtain ⟨entered, q, hq⟩ := Expr.exists_holds_iff_mem_children.2 hc
      exact ih c hc (he.part hq) hm

theorem StmtAt.mentionedAt {root : List Stmt} {frames : List Frame} {s : Stmt} {m : Mention}
    (hs : StmtAt root frames s) (hm : m ∈ s.mentions) : MentionedAt root m := by
  induction s using Stmt.byInner generalizing frames with
  | step s ih =>
    rw [Stmt.mentions_eq] at hm
    rcases List.mem_append.1 hm with hm | hm
    · obtain ⟨e, he, hm⟩ := List.mem_flatMap.1 hm
      obtain ⟨p, hp⟩ := Stmt.exists_holds_iff_mem_exprs.2 he
      exact (ExprAt.held hs hp).mentionedAt hm
    · obtain ⟨c, hc, hm⟩ := List.mem_flatMap.1 hm
      exact ih c hc (hs.inner hc) hm

theorem mentionedAt_of_mem_mentions {root : List Stmt} {m : Mention} (hm : m ∈ mentions root) :
    MentionedAt root m := by
  obtain ⟨s, hs, hm⟩ := List.mem_flatMap.1 hm
  exact (StmtAt.top hs).mentionedAt hm

end Tree

end SourceGate
