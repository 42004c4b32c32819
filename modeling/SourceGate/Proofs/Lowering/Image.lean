import Mathlib.Data.List.Forall2
import SourceGate.Proofs.Script.Census
import SourceGate.Proofs.Script.Target
import SourceGate.Proofs.Verdict.Store
import SourceGate.Tree.Lowering

/-! # What an expression is lowered to

Whatever identity is handed out next, the image of an expression stands where the expression starts
and mentions the same lookups in the same order; what a store into it binds are the names that the
expression shows as itself or through lists and tuples.
-/

namespace SourceGate

theorem eq_ok_of_mem_toOption {ε α : Type} {x : Except ε α} {a : α} (h : a ∈ x.toOption) :
    x = .ok a := by
  cases x with
  | ok other =>
    cases h
    rfl
  | error e => cases h

namespace Tree

variable {α β : Type}

theorem flatMap_eq_of_forall₂ {γ : Type} {r : α → β → Prop} {f : α → List γ} {g : β → List γ}
    {as : List α} {bs : List β} (h : List.Forall₂ r as bs)
    (hr : ∀ a ∈ as, ∀ b, r a b → g b = f a) : bs.flatMap g = as.flatMap f := by
  induction h with
  | nil => rfl
  | @cons a b _ _ hab _ ih =>
    obtain ⟨ha, hr⟩ := List.forall_mem_cons.1 hr
    rw [List.flatMap_cons, List.flatMap_cons, ha b hab, ih hr]

theorem exists_of_forall₂ {r : α → β → Prop} {as : List α} {bs : List β}
    (h : List.Forall₂ r as bs) {a : α} (ha : a ∈ as) : ∃ b ∈ bs, r a b := by
  induction h with
  | nil => cases ha
  | cons hab _ ih =>
    cases ha with
    | head => exact ⟨_, List.mem_cons_self, hab⟩
    | tail _ ha =>
      obtain ⟨b, hb, hr⟩ := ih ha
      exact ⟨b, List.mem_cons_of_mem _ hb, hr⟩

/-! ## Outcomes -/

/-- A property of the outcome, whatever identity is handed out next. -/
structure Gives (x : Lower α) (P : α → Prop) : Prop where
  outcome (next : Nat) : P (x next).1

theorem gives_pure {P : α → Prop} {a : α} (h : P a) : Gives (pure a) P := ⟨fun _ => h⟩

theorem Gives.bind {x : Lower α} {f : α → Lower β} {P : α → Prop} {Q : β → Prop} (hx : Gives x P)
    (hf : ∀ a, P a → Gives (f a) Q) : Gives (x >>= f) Q :=
  ⟨fun next => (hf _ (hx.outcome next)).outcome _⟩

theorem gives_mapM {f : α → Lower β} {r : α → β → Prop} (h : ∀ a, Gives (f a) (r a))
    (as : List α) : Gives (as.mapM f) (List.Forall₂ r as) := by
  induction as with
  | nil => exact gives_pure .nil
  | cons a rest ih =>
    rw [List.mapM_cons]
    apply (h a).bind
    intro b hb
    apply ih.bind
    intro bs hbs
    exact gives_pure (.cons hb hbs)

theorem gives_freshAt (place : Location) : Gives (freshAt place) fun mark => mark.place = place :=
  ⟨fun _ => rfl⟩

theorem gives_fresh (index : LineIndex) (start : Nat) :
    Gives (fresh index start) fun mark => mark.place = index.locate start := ⟨fun _ => rfl⟩

/-! ## Images -/

/-- How an expression of a tree answers to one of the syntax. -/
structure Image (index : LineIndex) (e : Script.Expr) (e' : Expr) : Prop where
  place : e'.place = index.locate e.start
  mentions : e'.mentions = e.mentions index
  stored : e'.stored.flatMap Expr.mentions = e.plain index

/-- Images of several expressions. -/
abbrev Images (index : LineIndex) (es : List Script.Expr) (es' : List Expr) : Prop :=
  List.Forall₂ (Image index) es es'

variable {index : LineIndex}

theorem Images.mentions {es : List Script.Expr} {es' : List Expr} (h : Images index es es') :
    es'.flatMap Expr.mentions = es.flatMap (Script.Expr.mentions index) :=
  flatMap_eq_of_forall₂ h fun _ _ _ image => image.mentions

theorem Images.stored {es : List Script.Expr} {es' : List Expr} (h : Images index es es') :
    (es'.flatMap Expr.stored).flatMap Expr.mentions = es.flatMap (Script.Expr.plain index) := by
  rw [List.flatMap_assoc]
  exact flatMap_eq_of_forall₂ h fun _ _ _ image => image.stored

theorem Image.single {e : Script.Expr} {e' : Expr} (h : Image index e e') :
    Images index [e] [e'] := .cons h .nil

theorem Images.append {es fs : List Script.Expr} {es' fs' : List Expr} (he : Images index es es')
    (hf : Images index fs fs') : Images index (es ++ fs) (es' ++ fs') := List.rel_append he hf

/-- An image is made of the images of the children. -/
theorem Image.ofChildren {e : Script.Expr} {e' : Expr} (hp : e'.place = index.locate e.start)
    (hm : e'.mention? = e.mention? index) (hc : Images index e.children e'.children)
    (hs : e'.stored.flatMap Expr.mentions = e.plain index) : Image index e e' where
  place := hp
  mentions := by rw [Expr.mentions_eq, Script.Expr.mentions_eq, hm, hc.mentions]
  stored := hs

end Tree

end SourceGate
