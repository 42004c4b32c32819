import SourceGate.Proofs.Verdict.Scope
import SourceGate.Proofs.Verdict.Surface

/-! # The variable that a name stands for

Python decides by the constructs around a name whether it is a variable of an enclosing function,
lambda or comprehension, a name of a class body, or one of the module and its builtins. In an
accepted module every forbidden name that is read is bound by some construct around it. It stands
for a variable of such a construct unless a `global` declaration comes first or the class body in
which it is read binds it; in these two cases, which the walk does not tell apart, it may be the
builtin.
-/

namespace SourceGate.Tree

/-! ## Python's rule -/

/-- What a declaration in the text is. -/
inductive Declaration where
  | global | nonlocal
  deriving DecidableEq, Repr

/-- What a tree leaves open about its text: which of the two each declaration is, and what a
construct binds by imports, `with`, `except`, captures and `:=`. -/
structure Reading where
  declaration : Location → Declaration
  hidden : Frame → List String

/-- The names that a statement declares in one of the two ways. -/
def Stmt.declaredAs (r : Reading) (d : Declaration) : Stmt → List String
  | .declare place names => if r.declaration place = d then names else []
  | _ => []

/-- What a name is in a construct: declared, a variable of it, or neither. -/
inductive Role where
  | global | nonlocal | local | free
  deriving DecidableEq, Repr

namespace Frame

def isClass : Frame → Bool
  | classBody _ => true
  | _ => false

/-- The names that a construct declares in one of the two ways. -/
def declaredAs (r : Reading) (d : Declaration) : Frame → List String
  | function _ body | classBody body => (ownStmtsAll body).flatMap (Stmt.declaredAs r d)
  | lambda _ | comprehension _ => []

/-- The names that are parameters of a construct or assigned in it. -/
def visible : Frame → List String
  | function params body => params.map bareParam ++ (ownStmtsAll body).flatMap Stmt.assigned
  | classBody body => (ownStmtsAll body).flatMap Stmt.assigned
  | lambda params => params.map bareParam
  | comprehension clauses => clauses.flatMap fun c => targetNames c.target

/-- A declaration goes before a binding. -/
def role (r : Reading) (name : String) (f : Frame) : Role :=
  if name ∈ f.declaredAs r .global then .global
  else if name ∈ f.declaredAs r .nonlocal then .nonlocal
  else if name ∈ f.visible ++ r.hidden f then .local
  else .free

end Frame

/-- What a name stands for. -/
inductive Owner where
  | variable (frame : Frame)
  /-- Looked up among the names of the class body, then in the module and the builtins. -/
  | classBody
  /-- A name of the module or a builtin. -/
  | module
  /-- A `nonlocal` name that no function binds, which Python refuses. -/
  | missing
  deriving Repr

/-- The search among enclosing functions, lambdas and comprehensions. Class bodies are passed over.
-/
def ownerFrom (r : Reading) (name : String) (otherwise : Owner) : List Frame → Owner
  | [] => otherwise
  | f :: outer =>
    if f.isClass then ownerFrom r name otherwise outer
    else match f.role r name with
      | .global => otherwise
      | .nonlocal => ownerFrom r name .missing outer
      | .local => .variable f
      | .free => ownerFrom r name otherwise outer

/-- What a name that is read inside constructs, innermost first, stands for. The names of a class
body count only where it is the innermost construct. -/
def owner (r : Reading) (name : String) (frames : List Frame) : Owner :=
  match frames.head? with
  | some (.classBody body) =>
    match (Frame.classBody body).role r name with
    | .global => .module
    | .nonlocal => ownerFrom r name .missing frames
    | .local => .classBody
    | .free => ownerFrom r name .module frames
  | _ => ownerFrom r name .module frames

/-! ## Where the search leaves the functions -/

/-- A function declares the name `global` and no construct inside of it, class bodies apart, has it
as a variable. -/
def GlobalFirst (r : Reading) (name : String) (frames : List Frame) : Prop :=
  ∃ inner f outer, frames = inner ++ f :: outer ∧ f.isClass = false ∧ f.role r name = .global ∧
    ∀ g ∈ inner, g.isClass = false → g.role r name ≠ .local

/-- The class body in which a name is read binds it or declares it `global`. -/
def ClassFirst (r : Reading) (name : String) (frames : List Frame) : Prop :=
  ∃ f ∈ frames.head?, f.isClass = true ∧ (f.role r name = .local ∨ f.role r name = .global)

theorem not_globalFirst_nil {r : Reading} {name : String} : ¬GlobalFirst r name [] := by
  rintro ⟨inner, f, outer, heq, _⟩
  cases inner <;> cases heq

theorem globalFirst_cons {r : Reading} {name : String} {f : Frame} {rest : List Frame} :
    GlobalFirst r name (f :: rest) ↔ (f.isClass = false ∧ f.role r name = .global) ∨
      ((f.isClass = false → f.role r name ≠ .local) ∧ GlobalFirst r name rest) := by
  constructor
  · rintro ⟨inner, g, outer, heq, hc, hg, hi⟩
    cases inner with
    | nil =>
      obtain ⟨rfl, rfl⟩ := List.cons.inj heq
      exact .inl ⟨hc, hg⟩
    | cons head inner =>
      obtain ⟨rfl, rfl⟩ := List.cons.inj heq
      exact .inr ⟨hi f List.mem_cons_self,
        inner, g, outer, rfl, hc, hg, fun k hk => hi k (List.mem_cons_of_mem _ hk)⟩
  · rintro (⟨hc, hg⟩ | ⟨hf, inner, g, outer, rfl, hc, hg, hi⟩)
    · exact ⟨[], f, rest, rfl, hc, hg, by simp⟩
    · exact ⟨f :: inner, g, outer, rfl, hc, hg, List.forall_mem_cons.2 ⟨hf, hi⟩⟩

/-- If some construct has the name as a variable, only a `global` declaration ends the search
elsewhere. -/
theorem ownerFrom_variable_iff {r : Reading} {name : String} {otherwise : Owner}
    {frames : List Frame} (ho : ∀ f, otherwise ≠ .variable f)
    (hl : ∃ f ∈ frames, f.isClass = false ∧ f.role r name = .local) :
    (∃ f, ownerFrom r name otherwise frames = .variable f) ↔ ¬GlobalFirst r name frames := by
  induction frames generalizing otherwise with
  | nil => simp at hl
  | cons f rest ih =>
    rw [globalFirst_cons, ownerFrom]
    -- a construct that is passed over leaves the variable further out
    have hr (hf : f.isClass = false → f.role r name ≠ .local) :
        ∃ g ∈ rest, g.isClass = false ∧ g.role r name = .local := by
      obtain ⟨g, hg, hc, hg'⟩ := hl
      rcases List.mem_cons.1 hg with rfl | hg
      · exact absurd hg' (hf hc)
      · exact ⟨g, hg, hc, hg'⟩
    cases hc : f.isClass with
    | true => simpa [hc] using ih ho (hr (by simp [hc]))
    | false =>
      cases hf : f.role r name with
      | global => simpa [hc, hf] using ho
      | nonlocal => simpa [hc, hf] using ih (by simp) (hr (by simp [hf]))
      | «local» => simp
      | free => simpa [hc, hf] using ih ho (hr (by simp [hf]))

theorem mem_of_ownerFrom_eq {r : Reading} {name : String} {otherwise : Owner}
    {frames : List Frame} {f : Frame} (ho : ∀ f, otherwise ≠ .variable f)
    (h : ownerFrom r name otherwise frames = .variable f) : f ∈ frames := by
  induction frames generalizing otherwise with
  | nil => exact absurd h (ho f)
  | cons g rest ih =>
    rw [ownerFrom] at h
    split at h
    · exact List.mem_cons_of_mem _ (ih ho h)
    · split at h
      · exact absurd h (ho f)
      · exact List.mem_cons_of_mem _ (ih (by simp) h)
      · exact Owner.variable.inj h ▸ List.mem_cons_self
      · exact List.mem_cons_of_mem _ (ih ho h)

theorem owner_variable_iff {r : Reading} {name : String} {frames : List Frame}
    (hl : ∃ f ∈ frames, f.isClass = false ∧ f.role r name = .local) :
    (∃ f ∈ frames, owner r name frames = .variable f) ↔
      ¬(GlobalFirst r name frames ∨ ClassFirst r name frames) := by
  have search (otherwise : Owner) (ho : ∀ f, otherwise ≠ .variable f) :
      (∃ f ∈ frames, ownerFrom r name otherwise frames = .variable f) ↔
        ¬GlobalFirst r name frames := by
    rw [← ownerFrom_variable_iff ho hl]
    exact ⟨fun ⟨f, _, h⟩ => ⟨f, h⟩, fun ⟨f, h⟩ => ⟨f, mem_of_ownerFrom_eq ho h, h⟩⟩
  rw [owner, ClassFirst]
  split
  · next body heq =>
    rw [heq]
    cases hf : (Frame.classBody body).role r name with
    | global => simp [Frame.isClass, hf]
    | nonlocal => simpa [Frame.isClass, hf] using search .missing (by simp)
    | «local» => simp [Frame.isClass, hf]
    | free => simpa [Frame.isClass, hf] using search .module (by simp)
  · next hne =>
    rw [search .module (by simp)]
    have : ¬∃ f ∈ frames.head?, f.isClass = true ∧
        (f.role r name = .local ∨ f.role r name = .global) := by
      rintro ⟨f, hf, hc, _⟩
      cases f with
      | classBody body => exact hne body hf
      | _ => simp [Frame.isClass] at hc
    rw [or_iff_left this]

/-! ## What the walk remembers -/

theorem declared_of_declaredAs {r : Reading} {d : Declaration} {name : String} {body : List Stmt}
    (h : name ∈ (ownStmtsAll body).flatMap (Stmt.declaredAs r d)) :
    name ∈ declaredNamesAll body := by
  rw [declaredNamesAll_eq]
  obtain ⟨s, hs, hn⟩ := List.mem_flatMap.1 h
  refine List.mem_flatMap.2 ⟨s, hs, ?_⟩
  cases s with
  | declare place names =>
    rw [Stmt.declaredAs] at hn
    split at hn
    · exact hn
    · simp at hn
  | _ => simp [Stmt.declaredAs] at hn

/-- A remembered name is a variable of its construct, however the text is read. -/
theorem role_of_mem_recorded (r : Reading) {name : String} {f : Frame} (h : name ∈ f.recorded) :
    f.isClass = false ∧ f.role r name = .local := by
  cases f with
  | classBody body => simp [Frame.recorded] at h
  | lambda params =>
    have : name ∈ (Frame.lambda params).visible := h
    simp [Frame.isClass, Frame.role, Frame.declaredAs, this]
  | comprehension clauses =>
    have : name ∈ (Frame.comprehension clauses).visible := h
    simp [Frame.isClass, Frame.role, Frame.declaredAs, this]
  | function params body =>
    obtain ⟨hb, hd⟩ := List.mem_filter.1 h
    have undeclared (d : Declaration) : name ∉ (Frame.function params body).declaredAs r d := by
      intro hn
      simp [declared_of_declaredAs hn] at hd
    have : name ∈ (Frame.function params body).visible := by
      rwa [Frame.visible, ← assignedNamesAll_eq]
    simp [Frame.isClass, Frame.role, undeclared, this]

/-! ## Forbidden names that are read -/

/-- In an accepted module a forbidden name that is read is a variable of some enclosing function,
lambda or comprehension; the name stands for such a variable, and not for a name of the module or a
builtin, exactly where no `global` declaration and no class body comes first. -/
theorem accepted_name_owner {policy : Policy} {root : List Stmt} (h : accepts policy root = true)
    {frames : List Frame} {mark : Mark} {text : String}
    (he : ExprAt root frames .load (.name mark text)) (hf : policy.forbids text = true)
    (r : Reading) :
    (∃ f ∈ frames, f.isClass = false ∧ f.role r text = .local) ∧
      ((∃ f ∈ frames, owner r text frames = .variable f) ↔
        ¬(GlobalFirst r text frames ∨ ClassFirst r text frames)) := by
  obtain ⟨f, hm, hr⟩ := List.mem_flatMap.1 (mem_bound_of_silent (he.exprFindings_eq_nil h) hf)
  have hl : ∃ f ∈ frames, f.isClass = false ∧ f.role r text = .local :=
    ⟨f, hm, role_of_mem_recorded r hr⟩
  exact ⟨hl, owner_variable_iff hl⟩

/-- A function with the parameter `eval`; a function inside of it declares `eval` and returns it. -/
def redeclaring : List Stmt :=
  [.function ⟨1, 1⟩ "f" ["eval"] []
    [.function ⟨2, 5⟩ "g" [] []
        [.declare ⟨3, 9⟩ ["eval"], .block ⟨4, 9⟩ [.name ⟨0, ⟨4, 16⟩⟩ "eval"] []],
      .block ⟨5, 5⟩ [.name ⟨1, ⟨5, 12⟩⟩ "g"] []]]

/-- The constructs around the name that is returned. -/
def redeclaringFrames : List Frame :=
  [.function [] [.declare ⟨3, 9⟩ ["eval"], .block ⟨4, 9⟩ [.name ⟨0, ⟨4, 16⟩⟩ "eval"] []],
    .function ["eval"]
      [.function ⟨2, 5⟩ "g" [] []
          [.declare ⟨3, 9⟩ ["eval"], .block ⟨4, 9⟩ [.name ⟨0, ⟨4, 16⟩⟩ "eval"] []],
        .block ⟨5, 5⟩ [.name ⟨1, ⟨5, 12⟩⟩ "g"] []]]

theorem redeclaring_name : ExprAt redeclaring redeclaringFrames .load (.name ⟨0, ⟨4, 16⟩⟩ "eval") :=
  .held (.inFunction (.inFunction (.top List.mem_cons_self) List.mem_cons_self)
    (List.mem_cons_of_mem _ List.mem_cons_self)) (.expr List.mem_cons_self)

/-- Read as `nonlocal`, the declaration leads to the parameter. -/
theorem redeclaring_nonlocal_owner :
    accepts .standard redeclaring = true ∧ Policy.standard.forbids "eval" = true ∧
      ∃ f ∈ redeclaringFrames,
        owner ⟨fun _ => .nonlocal, fun _ => []⟩ "eval" redeclaringFrames = .variable f := by
  have ha : accepts .standard redeclaring = true := by decide +kernel
  have hf : Policy.standard.forbids "eval" = true := by decide +kernel
  refine ⟨ha, hf, (accepted_name_owner ha redeclaring_name hf _).2.2 ?_⟩
  rintro (hg | ⟨f, hc, hk, _⟩)
  · rw [redeclaringFrames, globalFirst_cons, globalFirst_cons] at hg
    rcases hg with ⟨_, hg⟩ | ⟨_, ⟨_, hg⟩ | ⟨_, hg⟩⟩
    · cases hg
    · cases hg
    · exact not_globalFirst_nil hg
  · cases hc
    cases hk

/-- Read as `global`, it leads to the module: an accepted module may return the builtin. -/
theorem redeclaring_global_owner :
    accepts .standard redeclaring = true ∧
      ExprAt redeclaring redeclaringFrames .load (.name ⟨0, ⟨4, 16⟩⟩ "eval") ∧
      owner ⟨fun _ => .global, fun _ => []⟩ "eval" redeclaringFrames = .module :=
  ⟨by decide +kernel, redeclaring_name, rfl⟩

end SourceGate.Tree
