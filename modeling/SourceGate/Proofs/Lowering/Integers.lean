import Mathlib.Algebra.Group.Nat.Defs
import Mathlib.Algebra.Ring.Int.Defs
import SourceGate.Proofs.Lowering.Parts
import SourceGate.Proofs.Lowering.Pattern
import SourceGate.Proofs.Verdict.Indirection
import SourceGate.Tree.OfText

/-! # Integers are exact

An integer literal behind any number of minus signs is lowered to the integer that it is, as long as
that lies between the greatest integer of a word and its negative. No other expression is lowered to
an integer, so the least integer of a word, which has no negative there, never meets a minus. A
literal that is too large is not known, neither as an index nor as a key.
-/

namespace SourceGate

namespace Script.Expr

/-- An expression behind minus signs that start at the given places, the outermost first. -/
def negated : List Nat → Expr → Expr
  | [], e => e
  | start :: starts, e => .unary start .minus (negated starts e)

/-- The integer that a literal behind minus signs is. -/
def integer? : Expr → Option Int
  | .constant _ (.integer value) => some value
  | .unary _ .minus operand => operand.integer?.map (- ·)
  | _ => none

theorem integer?_negated (starts : List Nat) (start value : Nat) :
    (negated starts (.constant start (.integer value))).integer? =
      some ((-1 : Int) ^ starts.length * value) := by
  induction starts with
  | nil => simp [negated, integer?]
  | cons first starts ih =>
    rw [negated, integer?, ih, Option.map_some, List.length_cons, Int.pow_succ, Int.mul_neg_one,
      Int.neg_mul]

theorem integer?_eq_some_iff {e : Expr} {v : Int} :
    e.integer? = some v ↔ ∃ starts start value,
      e = negated starts (.constant start (.integer value)) ∧
        v = (-1 : Int) ^ starts.length * value := by
  constructor
  · intro h
    fun_induction integer? e generalizing v with
    | case1 start value =>
      cases h
      exact ⟨[], start, value, rfl, by simp⟩
    | case2 first operand ih =>
      obtain ⟨w, hw, rfl⟩ := Option.map_eq_some_iff.1 h
      obtain ⟨starts, start, value, rfl, rfl⟩ := ih hw
      refine ⟨first :: starts, start, value, rfl, ?_⟩
      rw [List.length_cons, Int.pow_succ, Int.mul_neg_one, Int.neg_mul]
    | case3 => cases h
  · rintro ⟨starts, start, value, rfl, rfl⟩
    exact integer?_negated starts start value

theorem text?_of_integer? {e : Expr} {v : Int} (h : e.integer? = some v) : e.text? = none := by
  obtain ⟨starts, start, value, rfl, -⟩ := integer?_eq_some_iff.1 h
  cases starts <;> rfl

end Script.Expr

namespace Tree

variable {index : LineIndex}

/-! ## What becomes an integer -/

/-- The integer that an expression is. -/
def Expr.int? : Expr → Option Int
  | .int _ value => some value
  | _ => none

theorem Expr.int?_eq_some_iff {e : Expr} {v : Int} :
    e.int? = some v ↔ ∃ mark, e = .int mark v := by
  constructor
  · intro h
    cases e with
    | int mark value =>
      cases h
      exact ⟨mark, rfl⟩
    | _ => cases h
  · rintro ⟨mark, rfl⟩
    rfl

/-- Integers of which the negative is one too. -/
def IsKept (v : Int) : Prop := v.natAbs ≤ greatestInt

theorem isKept_iff {v : Int} : IsKept v ↔ -(2 ^ 63 - 1) ≤ v ∧ v ≤ 2 ^ 63 - 1 := by
  have greatest : greatestInt = 2 ^ 63 - 1 := rfl
  rw [IsKept, greatest]
  omega

theorem isKept_neg_iff {v : Int} : IsKept (-v) ↔ IsKept v := by
  rw [IsKept, Int.natAbs_neg, IsKept]

theorem int?_literal_eq_some_iff {mark : Mark} {start : Nat} {value : Script.Constant} {v : Int} :
    (literal mark value).int? = some v ↔
      (Script.Expr.constant start value).integer? = some v ∧ IsKept v := by
  cases value with
  | integer value =>
    rw [literal, Script.Expr.integer?, Option.some_inj]
    by_cases small : value ≤ greatestInt
    · rw [if_pos small, Expr.int?, Option.some_inj]
      exact ⟨by rintro rfl; exact ⟨rfl, small⟩, And.left⟩
    · rw [if_neg small]
      exact ⟨by rintro ⟨⟩, by rintro ⟨rfl, kept⟩; exact absurd kept small⟩
  | _ => simp [literal, Expr.int?, Script.Expr.integer?]

theorem int?_signed_minus (mark : Mark) (operand : Expr) :
    (signed mark .minus operand).int? = operand.int?.map (- ·) := by
  cases operand <;> rfl

/-- An expression becomes an integer just when it is one that is kept, and then that one. -/
theorem gives_int (index : LineIndex) (e : Script.Expr) :
    Gives (lowerExpr index e) fun e' => ∀ v, e'.int? = some v ↔ e.integer? = some v ∧ IsKept v := by
  induction e using Script.Expr.byChildren with
  | step e ih =>
    cases e with
    | constant start value =>
      rw [lowerExpr]
      apply (gives_fresh index start).bind
      intro mark _
      exact gives_pure fun v => int?_literal_eq_some_iff
    | unary start op operand =>
      rw [lowerExpr]
      apply (gives_fresh index start).bind
      intro mark _
      apply (List.forall_mem_singleton.1 ih).bind
      intro operand' known
      apply gives_pure
      intro v
      cases op with
      | minus =>
        simp only [int?_signed_minus, Script.Expr.integer?, Option.map_eq_some_iff, known]
        constructor
        · rintro ⟨w, ⟨hw, kept⟩, rfl⟩
          exact ⟨⟨w, hw, rfl⟩, isKept_neg_iff.2 kept⟩
        · rintro ⟨⟨w, hw, rfl⟩, kept⟩
          exact ⟨w, ⟨hw, isKept_neg_iff.1 kept⟩, rfl⟩
      | _ => simp [signed, Expr.int?, Script.Expr.integer?]
    | binary start left op right =>
      rw [lowerExpr]
      apply (gives_fresh index start).bind
      intro mark _
      apply (gives_lowerExpr index left).bind
      intro left' _
      apply (gives_lowerExpr index right).bind
      intro right' _
      apply gives_pure
      intro v
      split <;> simp [Expr.int?, Script.Expr.integer?]
    | _ => exact ⟨fun _ _ => ⟨nofun, nofun⟩⟩

/-- What holds of lowered expressions holds at any depth of a tree. -/
theorem isKept_of_mem_allExprs {source : String} {root : List Stmt} (h : ofText source = .ok root)
    {e : Expr} (he : e ∈ allExprs root) {v : Int} (is : e.int? = some v) : IsKept v := by
  have pervades (index : LineIndex) : Pervades index fun e => ∀ v, e.int? = some v → IsKept v := by
    refine ⟨fun e => ⟨fun next v known => ?_⟩, fun _ => nofun, fun _ _ _ => nofun,
      fun _ _ _ => nofun⟩
    exact (((gives_int index e).outcome next v).1 known).2
  delta ofText at h
  cases read : Script.readModule source.toList with
  | error fault =>
    simp only [read] at h
    cases h
  | ok body =>
    simp only [read] at h
    cases h
    exact (pervades _).allExprs body e he v is

/-! ## Minus in words -/

/-- A sign in front of a lowered operand, where a minus is taken in a word. -/
def signedInWords (mark : Mark) (op : Script.UnaryOp) (operand : Expr) : Expr :=
  match op, operand with
  | .minus, .int _ value => .int mark (-Int64.ofInt value).toInt
  | _, _ => .other mark [operand]

section Words

variable {v : Int}

theorem toInt_ofInt_of_isKept (kept : IsKept v) : (Int64.ofInt v).toInt = v := by
  obtain ⟨least, most⟩ := isKept_iff.1 kept
  exact Int64.toInt_ofInt_of_le (by omega) (by omega)

theorem ofInt_ne_minValue_of_isKept (kept : IsKept v) : Int64.ofInt v ≠ Int64.minValue := by
  intro same
  have value := toInt_ofInt_of_isKept kept
  rw [same, Int64.toInt_minValue] at value
  obtain ⟨least, -⟩ := isKept_iff.1 kept
  omega

theorem toInt_neg_ofInt_of_isKept (kept : IsKept v) : (-Int64.ofInt v).toInt = -v := by
  obtain ⟨least, most⟩ := isKept_iff.1 kept
  rw [Int64.toInt_neg, toInt_ofInt_of_isKept kept]
  apply Int.bmod_eq_of_le <;> omega

theorem signedInWords_eq {operand : Expr} (kept : ∀ v, operand.int? = some v → IsKept v)
    (mark : Mark) (op : Script.UnaryOp) :
    signedInWords mark op operand = signed mark op operand := by
  cases operand with
  | int inner value =>
    cases op with
    | minus => rw [signedInWords, signed, toInt_neg_ofInt_of_isKept (kept value rfl)]
    | _ => rfl
  | _ => cases op <;> rfl

end Words

/-! ## Keys that are not known -/

theorem staticKey?_eq_none {e : Expr} (noInt : e.int? = none) (noText : staticText? e = none) :
    staticKey? e = none := by
  cases e with
  | int => cases noInt
  | _ => simp [staticKey?, noText]

theorem selectEntries_unknown {entries : List (Option Expr × Expr)} {key : Expr}
    (h : staticKey? key = none) : selectEntries entries key = entries.map (·.2) := by
  rw [selectEntries, h]

theorem matching_eq_none {wanted : StaticKey} {entries : List (Option Expr × Expr)}
    {key value : Expr} (h : staticKey? key = none) (he : (some key, value) ∈ entries) :
    matching wanted entries = none := by
  induction entries with
  | nil => cases he
  | cons entry rest ih =>
    rcases List.mem_cons.1 he with rfl | later
    · rw [matching, h]
    · obtain ⟨first, other⟩ := entry
      cases first with
      | none => rfl
      | some first =>
        rw [matching, ih later]
        split <;> rfl

theorem selectEntries_of_unknown_key {entries : List (Option Expr × Expr)} {key value : Expr}
    (h : staticKey? key = none) (he : (some key, value) ∈ entries) (wanted : Expr) :
    selectEntries entries wanted = entries.map (·.2) := by
  rw [selectEntries]
  split
  · rfl
  · rw [matching_eq_none h he, Option.getD_none]

/-! ## Every literal -/

/-- How integers come out of an expression. -/
structure FoldsExactly (index : LineIndex) (e : Script.Expr) (e' : Expr) : Prop where
  /-- An integer comes of a literal behind minus signs that is small enough, and of nothing else. -/
  folds {v : Int} : (∃ mark, e' = .int mark v) ↔
    (∃ starts start value, e = .negated starts (.constant start (.integer value)) ∧
      v = (-1 : Int) ^ starts.length * value) ∧ -(2 ^ 63 - 1) ≤ v ∧ v ≤ 2 ^ 63 - 1
  /-- It has a negative in a word. -/
  noOverflow {mark v} (h : e' = .int mark v) :
    Int64.ofInt v ≠ Int64.minValue ∧ (Int64.ofInt v).toInt = v ∧ (-Int64.ofInt v).toInt = -v
  /-- A minus in words is the one that folds. -/
  inWords (mark : Mark) (op : Script.UnaryOp) : signedInWords mark op e' = signed mark op e'
  /-- A literal that is too large is not known as an index and not as a key. -/
  large {starts start value} (h : e = .negated starts (.constant start (.integer value)))
    (large : 2 ^ 63 ≤ value) : staticKey? e' = none ∧
      (∀ items, selectItems items e' = items) ∧
      (∀ entries, selectEntries entries e' = entries.map (·.2)) ∧
      ∀ entries value wanted, (some e', value) ∈ entries →
        selectEntries entries wanted = entries.map (·.2)

theorem foldsExactly (index : LineIndex) (e : Script.Expr) (next : Nat) :
    FoldsExactly index e (lowerExpr index e next).1 := by
  have known := (gives_int index e).outcome next
  have text := (gives_staticText index e).outcome next
  generalize (lowerExpr index e next).1 = e' at known text
  constructor
  case folds =>
    intro v
    rw [← Expr.int?_eq_some_iff, known, Script.Expr.integer?_eq_some_iff, isKept_iff]
  case noOverflow =>
    rintro mark v rfl
    have kept := ((known v).1 rfl).2
    exact ⟨ofInt_ne_minValue_of_isKept kept, toInt_ofInt_of_isKept kept,
      toInt_neg_ofInt_of_isKept kept⟩
  case inWords => exact signedInWords_eq fun v h => ((known v).1 h).2
  case large =>
    rintro starts start value rfl large
    have is := Script.Expr.integer?_negated starts start value
    have noInt : e'.int? = none := by
      rw [Option.eq_none_iff_forall_ne_some]
      intro v h
      obtain ⟨same, kept⟩ := (known v).1 h
      rw [is, Option.some_inj] at same
      rw [← same, IsKept, Int.natAbs_mul, Int.natAbs_pow, Int.natAbs_neg, Int.natAbs_one,
        Nat.one_pow, Nat.one_mul, Int.natAbs_natCast] at kept
      have small : value ≤ 2 ^ 63 - 1 := kept
      omega
    have noText : staticText? e' = none := text.trans (Script.Expr.text?_of_integer? is)
    have unknown : staticKey? e' = none := staticKey?_eq_none noInt noText
    exact ⟨unknown, fun items => selectItems_unknown unknown,
      fun entries => selectEntries_unknown unknown,
      fun entries value wanted he => selectEntries_of_unknown_key unknown he wanted⟩

/-- Integers come out exact, and none that comes out of a source is without a negative in a word. -/
theorem integers_exact :
    (∀ index e next, FoldsExactly index e (lowerExpr index e next).1) ∧
      ∀ source root, ofText source = .ok root → ∀ mark v, .int mark v ∈ allExprs root →
        -(2 ^ 63 - 1) ≤ v ∧ v ≤ 2 ^ 63 - 1 := by
  refine ⟨foldsExactly, fun source root parsed mark v he => ?_⟩
  exact isKept_iff.1 (isKept_of_mem_allExprs parsed he rfl)

/-- The index of `f[--5]` stands in the tree of that text. -/
theorem negated_index : ∃ root mark, ofText "f[--5]\n" = .ok root ∧ .int mark 5 ∈ allExprs root ∧
    -(2 ^ 63 - 1) ≤ (5 : Int) ∧ (5 : Int) ≤ 2 ^ 63 - 1 := by
  have parsed : ∃ root ∈ (ofText "f[--5]\n").toOption,
      ∃ e ∈ root.flatMap fun s => s.exprs.flatMap Expr.children, e.int? = some 5 := by
    decide +kernel
  obtain ⟨root, read, e, he, is⟩ := parsed
  obtain ⟨mark, rfl⟩ := Expr.int?_eq_some_iff.1 is
  have inside : .int mark 5 ∈ allExprs root := by
    obtain ⟨s, hs, he⟩ := List.mem_flatMap.1 he
    obtain ⟨whole, hw, part⟩ := List.mem_flatMap.1 he
    have stands : s ∈ allStmts root :=
      List.mem_flatMap.2 ⟨s, hs, Stmt.mem_nested_iff.2 (.inl rfl)⟩
    exact List.mem_flatMap.2 ⟨s, stands, List.mem_flatMap.2
      ⟨whole, hw, (Expr.isInside_of_mem_children part).mem_subterms⟩⟩
  have read := eq_ok_of_mem_toOption read
  exact ⟨root, mark, read, inside, integers_exact.2 _ _ read _ _ inside⟩

/-- `-9223372036854775808` fits in a word and yet is not known, since the literal does not. -/
example (index : LineIndex) : (lowerExpr index
    (.negated [0] (.constant 1 (.integer 9223372036854775808))) 0).1.int? = none := by rfl

end Tree

end SourceGate
