import SourceGate.Proofs.Verdict.Silence

/-! # The closed surface of an accepted module

Whatever its nesting and whichever identities its expressions carry, an accepted module imports
allowed roots only, holds no statement that is not modelled, and spells no forbidden operation as an
attribute, as the key of an item, as a callee or as a name that no recorded scope binds.
-/

namespace SourceGate

/-- A relative path has no root. -/
theorem Policy.moduleRoot_importPath_succ (source : Option String) (level : Nat) :
    Policy.moduleRoot (importPath source (level + 1)) = "" := by
  simp [Policy.moduleRoot, importPath, List.replicate_succ, Text.trim, Text.trimLeft]

theorem Policy.mem_allowed_of_allows {policy : Policy} {path : String}
    (h : policy.allows path = true) :
    Policy.moduleRoot path ≠ "" ∧ Policy.moduleRoot path ∈ policy.allowed.names := by
  simpa [Policy.allows, NameSet.contains] using h

namespace Tree

/-- What holds at every place of an accepted module: in bodies, headers, targets, iterables,
conditions, lambdas, keyword values, entries and branches. -/
structure ClosedSurface (policy : Policy) (root : List Stmt) : Prop where
  imports : ∀ {frames place modules}, StmtAt root frames (.imports place modules) →
    ∀ path ∈ modules, Policy.moduleRoot path ∈ policy.allowed.names
  importsFrom : ∀ {frames place source level names},
    StmtAt root frames (.importsFrom place source level names) →
      level = 0 ∧ ∃ path, source = some path ∧ Policy.moduleRoot path ∈ policy.allowed.names
  supported : ∀ {frames place}, ¬StmtAt root frames (.unsupported place)
  attributes : ∀ {frames p mark value attr}, ExprAt root frames p (.attribute mark value attr) →
    policy.forbids attr = false
  keys : ∀ {frames p mark base index}, ExprAt root frames p (.subscript mark base index) →
    base.isDisplay = false → ∀ key ∈ staticText? index, policy.forbids key = false
  callees : ∀ {frames p mark inner text args keywords},
    ExprAt root frames p (.call mark (.name inner text) args keywords) →
      policy.forbids text = false
  names : ∀ {frames mark text}, ExprAt root frames .load (.name mark text) →
    policy.forbids text = true → ∃ frame ∈ frames, text ∈ frame.recorded

variable {policy : Policy} {bound : Bound}

/-! ## What silence at one place means -/

theorem importFindings_eq_nil_iff {place : Location} {path : String} :
    importFindings policy place path = [] ↔ policy.allows path = true := by
  simp [importFindings]

theorem importsFrom_of_silent {place : Location} {source : Option String} {level : Nat}
    {names : List String}
    (h : stmtFindings policy bound (.importsFrom place source level names) = []) :
    level = 0 ∧ ∃ path, source = some path ∧ Policy.moduleRoot path ∈ policy.allowed.names := by
  obtain ⟨nonempty, allowed⟩ := Policy.mem_allowed_of_allows (importFindings_eq_nil_iff.1 h)
  cases level with
  | succ level => exact absurd (Policy.moduleRoot_importPath_succ source level) nonempty
  | zero =>
    cases source with
    | none =>
      have empty : Policy.moduleRoot (importPath none 0) = "" := by
        simp [Policy.moduleRoot, importPath, Text.trim, Text.trimLeft]
      exact absurd empty nonempty
    | some path => exact ⟨rfl, path, rfl, by simpa [importPath] using allowed⟩

theorem forbids_attr_of_silent {p : Position} {mark : Mark} {value : Expr} {attr : String}
    (h : exprFindings policy bound p (.attribute mark value attr) = []) :
    policy.forbids attr = false := by
  cases hf : policy.forbids attr with
  | false => rfl
  | true => simp [exprFindings, hf] at h

theorem forbids_key_of_silent {p : Position} {mark : Mark} {base index : Expr} {key : String}
    (h : exprFindings policy bound p (.subscript mark base index) = [])
    (hb : base.isDisplay = false) (hk : key ∈ staticText? index) : policy.forbids key = false := by
  cases hf : policy.forbids key with
  | false => rfl
  | true => simp [exprFindings, hb, keyHit, Option.mem_def.1 hk, hf, Finding.ofHits] at h

/-- A forbidden name as callee is what the call reaches, whether or not a scope binds it. -/
theorem forbids_callee_of_silent {p : Position} {mark inner : Mark} {text : String}
    {args : List Expr} {keywords : List (Keyword Expr)}
    (h : exprFindings policy bound p (.call mark (.name inner text) args keywords) = []) :
    policy.forbids text = false := by
  cases hf : policy.forbids text with
  | false => rfl
  | true => simp [exprFindings, callFindings, Finding.ofHits, reference, hf] at h

theorem mem_bound_of_silent {mark : Mark} {text : String}
    (h : exprFindings policy bound .load (.name mark text) = [])
    (hf : policy.forbids text = true) : text ∈ bound := by
  by_cases hb : text ∈ bound
  · exact hb
  · simp [exprFindings, hf, hb] at h

/-! ## The module as a whole -/

theorem accepted_surface_closed {root : List Stmt} (h : accepts policy root = true) :
    ClosedSurface policy root where
  imports hs path hp := by
    have silent := hs.stmtFindings_eq_nil h
    rw [stmtFindings, List.flatMap_eq_nil_iff] at silent
    exact (Policy.mem_allowed_of_allows (importFindings_eq_nil_iff.1 (silent path hp))).2
  importsFrom hs := importsFrom_of_silent (hs.stmtFindings_eq_nil h)
  supported hs := by
    have silent := hs.stmtFindings_eq_nil h
    simp [stmtFindings] at silent
  attributes he := forbids_attr_of_silent (he.exprFindings_eq_nil h)
  keys he hb _ hk := forbids_key_of_silent (he.exprFindings_eq_nil h) hb hk
  callees he := forbids_callee_of_silent (he.exprFindings_eq_nil h)
  names he hf := List.mem_flatMap.1 (mem_bound_of_silent (he.exprFindings_eq_nil h) hf)

/-- `import math`, and a function that lists its parameter `open` over what a call gives. -/
def shadowing : List Stmt :=
  [.imports ⟨1, 1⟩ ["math"],
    .function ⟨2, 1⟩ "f" ["open"] []
      [.block ⟨3, 5⟩
        [.comprehension ⟨0, ⟨3, 12⟩⟩ [.name ⟨1, ⟨3, 13⟩⟩ "open"]
          [⟨.name ⟨2, ⟨3, 22⟩⟩ "x",
            .call ⟨3, ⟨3, 27⟩⟩ (.attribute ⟨4, ⟨3, 27⟩⟩ (.name ⟨5, ⟨3, 27⟩⟩ "math") "sqrt")
              [.name ⟨6, ⟨3, 37⟩⟩ "open"] [], []⟩]] []]]

theorem shadowing_surface_closed :
    accepts .standard shadowing = true ∧ ClosedSurface .standard shadowing := by
  have h : accepts .standard shadowing = true := by decide +kernel
  exact ⟨h, accepted_surface_closed h⟩

end Tree

end SourceGate
