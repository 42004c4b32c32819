import SourceGate.Proofs.Namespace.Latest
import SourceGate.Proofs.Namespace.Loaded
import SourceGate.Tree.OfText

/-! # Functions and classes of a loaded namespace

A function is registered as it was last entered under its name, and a class as it was last defined.
A class that is defined once more takes the place of the one before it, whose methods stay among the
functions unless the new class has them too. So the functions agree with a class just when no class
of that name had further methods.
-/

namespace SourceGate

namespace Namespace

/-! ## Qualified names -/

/-- A name without a dot, as every identifier is. -/
def IsPlain (name : String) : Prop := '.' ∉ name.toList

theorem toList_qualified (className method : String) :
    (qualified className method).toList = className.toList ++ '.' :: method.toList := by
  simp [qualified, String.toList_append]

theorem not_isPlain_qualified (className method : String) :
    ¬ IsPlain (qualified className method) := by
  simp [IsPlain, toList_qualified]

theorem append_dot_inj {c d m k : List Char} (hc : '.' ∉ c) (hd : '.' ∉ d)
    (h : c ++ '.' :: m = d ++ '.' :: k) : c = d ∧ m = k := by
  induction c generalizing d with
  | nil =>
    cases d with
    | nil => simpa using h
    | cons y d =>
      simp only [List.mem_cons, not_or] at hd
      simp only [List.nil_append, List.cons_append, List.cons.injEq] at h
      exact absurd h.1 hd.1
  | cons x c ih =>
    cases d with
    | nil =>
      simp only [List.mem_cons, not_or] at hc
      simp only [List.nil_append, List.cons_append, List.cons.injEq] at h
      exact absurd h.1.symm hc.1
    | cons y d =>
      simp only [List.mem_cons, not_or] at hc hd
      simp only [List.cons_append, List.cons.injEq] at h
      simp [h.1, ih hc.2 hd.2 h.2]

/-- The first dot ends the name of the class. -/
theorem qualified_inj {c d m k : String} (hc : IsPlain c) (hd : IsPlain d) :
    qualified c m = qualified d k ↔ c = d ∧ m = k := by
  constructor
  · intro same
    have spelled := congrArg String.toList same
    rw [toList_qualified, toList_qualified] at spelled
    obtain ⟨hcd, hmk⟩ := append_dot_inj hc hd spelled
    exact ⟨String.toList_inj.1 hcd, String.toList_inj.1 hmk⟩
  · rintro ⟨rfl, rfl⟩
    rfl

end Namespace

/-! ## Definitions at the top level -/

namespace Tree.Stmt

/-- A function of the name. -/
def IsFunction (name : String) : Stmt → Prop
  | .function _ other _ _ _ => other = name
  | _ => False

/-- A class of the name. -/
def IsClass (name : String) : Stmt → Prop
  | .classDef _ other _ _ => other = name
  | _ => False

/-- A class of the name that has the method. -/
def HasMethod (className method : String) : Stmt → Prop
  | .classDef _ other _ body =>
    other = className ∧ method ∈ (Namespace.methodsOf body).map (·.1)
  | _ => False

end Tree.Stmt

namespace Namespace

/-- The functions and classes at the top level have names without dots. -/
def HasPlainNames (body : List Tree.Stmt) : Prop :=
  ∀ s ∈ body, ∀ name, s.IsFunction name ∨ s.IsClass name → IsPlain name

section Entries

variable {s : Tree.Stmt} {name className method : String} {f : FunctionInfo} {c : ClassInfo}

theorem isLast_classesOf_iff :
    IsLast (·.name = name) c (classesOf s) ↔
      c.name = name ∧ ∃ header inner, s = .classDef c.place name header inner ∧
        c.methods = (methodsOf inner).map (·.1) := by
  cases s with
  | classDef place other header body =>
    rw [classesOf, isLast_singleton_iff]
    constructor
    · rintro ⟨rfl, rfl⟩
      exact ⟨rfl, header, body, rfl, rfl⟩
    · obtain ⟨own, methods, at_⟩ := c
      rintro ⟨rfl, _, _, here, rfl⟩
      cases here
      exact ⟨rfl, rfl⟩
  | _ => simp [classesOf, not_isLast_nil]

theorem exists_mem_classesOf_iff : (∃ c ∈ classesOf s, c.name = name) ↔ s.IsClass name := by
  cases s <;> simp [classesOf, Tree.Stmt.IsClass]

/-- Under a plain name a statement enters a function and no method. -/
theorem isLast_functionsOf_iff_of_isPlain (plain : IsPlain name) :
    IsLast (·.qualifiedName = name) f (functionsOf s) ↔
      f.qualifiedName = name ∧ ∃ header inner, s = .function f.place name f.params header inner := by
  cases s with
  | function place other params header body =>
    rw [functionsOf, isLast_singleton_iff]
    constructor
    · rintro ⟨rfl, rfl⟩
      exact ⟨rfl, header, body, rfl⟩
    · obtain ⟨own, names, at_⟩ := f
      rintro ⟨rfl, _, _, here⟩
      cases here
      exact ⟨rfl, rfl⟩
  | classDef place other header body =>
    simp only [functionsOf, reduceCtorEq, exists_false, and_false, iff_false]
    intro last
    obtain ⟨⟨m, params, at_⟩, -, rfl⟩ := List.mem_map.1 last.mem
    obtain rfl : qualified other m = name := last.holds
    exact not_isPlain_qualified other m plain
  | _ => simp [functionsOf, not_isLast_nil]

theorem exists_mem_functionsOf_iff_of_isPlain (plain : IsPlain name) :
    (∃ f ∈ functionsOf s, f.qualifiedName = name) ↔ s.IsFunction name := by
  rw [← exists_isLast_iff]
  simp only [isLast_functionsOf_iff_of_isPlain plain]
  cases s with
  | function place other params header body =>
    constructor
    · rintro ⟨f, -, header, inner, same⟩
      cases same
      rfl
    · rintro rfl
      exact ⟨⟨other, params, place⟩, rfl, header, body, rfl⟩
  | _ => simp [Tree.Stmt.IsFunction]

/-- Under a qualified name only a class of that name enters its methods, where names are plain. -/
theorem isLast_functionsOf_qualified_iff (plain : IsPlain className)
    (own : ∀ name, s.IsFunction name ∨ s.IsClass name → IsPlain name) :
    IsLast (·.qualifiedName = qualified className method) f (functionsOf s) ↔
      f.qualifiedName = qualified className method ∧ ∃ place header inner,
        s = .classDef place className header inner ∧
          IsLast (·.1 = method) (method, f.params, f.place) (methodsOf inner) := by
  cases s with
  | function place other params header body =>
    simp only [functionsOf, isLast_singleton_iff, reduceCtorEq, false_and, exists_false, and_false,
      iff_false, not_and]
    rintro rfl same
    exact not_isPlain_qualified className method (same ▸ own other (.inl rfl))
  | classDef place other header body =>
    have other_plain : IsPlain other := own other (.inr rfl)
    obtain ⟨full, params, at_⟩ := f
    simp only [functionsOf, isLast_map_iff, qualified_inj other_plain plain]
    by_cases same : other = className
    · subst same
      simp only [true_and]
      constructor
      · rintro ⟨⟨m, params, at_⟩, entered, last⟩
        cases entered
        obtain rfl : m = method := last.holds
        exact ⟨rfl, place, header, body, rfl, last⟩
      · rintro ⟨rfl, _, _, inner, here, last⟩
        cases here
        exact ⟨(method, params, at_), rfl, last⟩
    · constructor
      · rintro ⟨m, -, last⟩
        exact absurd last.holds.1 same
      · rintro ⟨-, _, _, inner, here, last⟩
        cases here
        exact absurd rfl same
  | _ => simp [functionsOf, not_isLast_nil]

theorem exists_mem_functionsOf_qualified_iff (plain : IsPlain className)
    (own : ∀ name, s.IsFunction name ∨ s.IsClass name → IsPlain name) :
    (∃ f ∈ functionsOf s, f.qualifiedName = qualified className method) ↔
      s.HasMethod className method := by
  rw [← exists_isLast_iff]
  simp only [isLast_functionsOf_qualified_iff plain own]
  cases s with
  | classDef place other header body =>
    constructor
    · rintro ⟨f, -, _, _, _, here, last⟩
      cases here
      exact ⟨rfl, List.mem_map.2 ⟨_, last.mem, rfl⟩⟩
    · rintro ⟨rfl, has⟩
      obtain ⟨method, member, rfl⟩ := List.mem_map.1 has
      have defined : ∃ m ∈ methodsOf body, m.1 = method.1 := ⟨method, member, rfl⟩
      obtain ⟨⟨m, params, at_⟩, last⟩ := exists_isLast_iff.2 defined
      obtain rfl : m = method.1 := last.holds
      exact ⟨⟨qualified other method.1, params, at_⟩, rfl, place, header, body, rfl, last⟩
  | _ => simp [Tree.Stmt.HasMethod]

end Entries

/-! ## The symbols -/

/-- How the functions and classes of a namespace stand to the definitions of its module. -/
structure Symbols (body : List Tree.Stmt) (n : Namespace) : Prop where
  /-- A function is registered as it was last entered under its name. -/
  function_iff {name : String} {f : FunctionInfo} :
    n.function? name = some f ↔ IsLast (·.qualifiedName = name) f (body.flatMap functionsOf)
  /-- A class is known as it was last defined. -/
  class_iff {c : ClassInfo} : c ∈ n.classes.map (·.2) ↔
    ∃ header inner, IsLast (·.IsClass c.name) (.classDef c.place c.name header inner) body ∧
      c.methods = (methodsOf inner).map (·.1)
  /-- Under a plain name stands the last function of that name. -/
  plain_iff {name : String} {f : FunctionInfo} (plain : IsPlain name) :
    n.function? name = some f ↔ f.qualifiedName = name ∧
      ∃ header inner, IsLast (·.IsFunction name) (.function f.place name f.params header inner) body
  /-- The functions agree with a class just when nothing that was ever entered under a name of the
  class is missing in it. -/
  agrees_iff {c : ClassInfo} (known : c ∈ n.classes.map (·.2)) :
    (∀ m, (n.function? (qualified c.name m)).isSome = true ↔ m ∈ c.methods) ↔
      ∀ f ∈ body.flatMap functionsOf, ∀ m, f.qualifiedName = qualified c.name m → m ∈ c.methods
  /-- Under a qualified name stands the last definition of the method in the last class of that name
  which has it. -/
  method_iff (plain : HasPlainNames body) {className m : String} (own : IsPlain className)
      {f : FunctionInfo} : n.function? (qualified className m) = some f ↔
    f.qualifiedName = qualified className m ∧ ∃ place header inner,
      IsLast (·.HasMethod className m) (.classDef place className header inner) body ∧
        IsLast (·.1 = m) (m, f.params, f.place) (methodsOf inner)
  /-- A method of a class that is known is registered as it was last defined in that class. -/
  own_method (plain : HasPlainNames body) {c : ClassInfo} {header : List Tree.Expr}
      {inner : List Tree.Stmt}
      (last : IsLast (·.IsClass c.name) (.classDef c.place c.name header inner) body) {m : String}
      (has : m ∈ (methodsOf inner).map (·.1)) :
    ∃ params place, IsLast (·.1 = m) (m, params, place) (methodsOf inner) ∧
      n.function? (qualified c.name m) = some ⟨qualified c.name m, params, place⟩
  /-- The functions agree with a class just when no class of that name has further methods. -/
  replaced_iff (plain : HasPlainNames body) {c : ClassInfo} (known : c ∈ n.classes.map (·.2)) :
    (∀ m, (n.function? (qualified c.name m)).isSome = true ↔ m ∈ c.methods) ↔
      ∀ s ∈ body, ∀ m, s.HasMethod c.name m → m ∈ c.methods

section Load

variable {n : Namespace} {generation : Nat} {body : List Tree.Stmt} {world later : Program.World}
  {name : String} {f : FunctionInfo} {c : ClassInfo}
  (h : (load generation body).run world = (some (.ok n), later))

include h

theorem function?_eq_some_iff :
    n.function? name = some f ↔ IsLast (·.qualifiedName = name) f (body.flatMap functionsOf) := by
  rw [function?, functions_of_load h, enterFunctions, Text.lookup_foldl_enter_iff]
  simp [Text.lookup]

theorem function?_isSome_iff :
    (n.function? name).isSome = true ↔ ∃ f ∈ body.flatMap functionsOf, f.qualifiedName = name := by
  rw [Option.isSome_iff_exists, ← exists_isLast_iff]
  simp only [function?_eq_some_iff h]

theorem mem_classes_iff :
    c ∈ n.classes.map (·.2) ↔ IsLast (·.name = c.name) c (body.flatMap classesOf) := by
  have found {name : String} :
      (name, c) ∈ n.classes ↔ IsLast (·.name = name) c (body.flatMap classesOf) := by
    have none : (([] : List (String × ClassInfo)).map (·.1)).Pairwise (· < ·) := .nil
    have increasing := Text.increasing_foldl_enter (·.name) (body.flatMap classesOf) none
    rw [classes_of_load h, enterClasses, Text.mem_iff_lookup_eq increasing,
      Text.lookup_foldl_enter_iff]
    simp [Text.lookup]
  constructor
  · intro member
    obtain ⟨⟨name, d⟩, entry, same⟩ := List.mem_map.1 member
    obtain rfl : d = c := same
    have last := found.1 entry
    rwa [← last.holds] at last
  · intro last
    exact List.mem_map.2 ⟨(c.name, c), found.2 last, rfl⟩

theorem mem_classes_iff_isLast : c ∈ n.classes.map (·.2) ↔
    ∃ header inner, IsLast (·.IsClass c.name) (.classDef c.place c.name header inner) body ∧
      c.methods = (methodsOf inner).map (·.1) := by
  rw [mem_classes_iff h, isLast_flatMap_iff]
  simp only [exists_mem_classesOf_iff, isLast_classesOf_iff, true_and]
  grind

theorem function?_eq_some_iff_of_isPlain (plain : IsPlain name) :
    n.function? name = some f ↔ f.qualifiedName = name ∧
      ∃ header inner,
        IsLast (·.IsFunction name) (.function f.place name f.params header inner) body := by
  rw [function?_eq_some_iff h, isLast_flatMap_iff]
  simp only [exists_mem_functionsOf_iff_of_isPlain plain, isLast_functionsOf_iff_of_isPlain plain]
  grind

/-- The methods of a class that is known are among the functions, so only others can disagree. -/
theorem agrees_iff_of_mem_classes (known : c ∈ n.classes.map (·.2)) :
    (∀ m, (n.function? (qualified c.name m)).isSome = true ↔ m ∈ c.methods) ↔
      ∀ f ∈ body.flatMap functionsOf, ∀ m, f.qualifiedName = qualified c.name m →
        m ∈ c.methods := by
  have own (m : String) (has : m ∈ c.methods) :
      ∃ f ∈ body.flatMap functionsOf, f.qualifiedName = qualified c.name m := by
    obtain ⟨header, inner, last, methods⟩ := (mem_classes_iff_isLast h).1 known
    rw [methods] at has
    obtain ⟨method, member, rfl⟩ := List.mem_map.1 has
    exact ⟨_, List.mem_flatMap.2 ⟨_, last.mem, List.mem_map_of_mem member⟩, rfl⟩
  simp only [function?_isSome_iff h]
  grind

section Plain

variable {className m : String} (plain : HasPlainNames body)

include plain

theorem function?_qualified_eq_some_iff (own : IsPlain className) :
    n.function? (qualified className m) = some f ↔
      f.qualifiedName = qualified className m ∧ ∃ place header inner,
        IsLast (·.HasMethod className m) (.classDef place className header inner) body ∧
          IsLast (·.1 = m) (m, f.params, f.place) (methodsOf inner) := by
  rw [function?_eq_some_iff h, isLast_flatMap_iff]
  have has_method (s : Tree.Stmt) :
      IsLast (fun s => ∃ f ∈ functionsOf s, f.qualifiedName = qualified className m) s body ↔
        IsLast (·.HasMethod className m) s body :=
    isLast_congr fun s member => exists_mem_functionsOf_qualified_iff own (plain s member)
  simp only [has_method]
  constructor
  · rintro ⟨s, last, entered⟩
    obtain ⟨same, place, header, inner, rfl, defined⟩ :=
      (isLast_functionsOf_qualified_iff own (plain s last.mem)).1 entered
    exact ⟨same, place, header, inner, last, defined⟩
  · rintro ⟨same, place, header, inner, last, defined⟩
    exact ⟨_, last, (isLast_functionsOf_qualified_iff own (plain _ last.mem)).2
      ⟨same, place, header, inner, rfl, defined⟩⟩

theorem function?_own_method {header : List Tree.Expr} {inner : List Tree.Stmt}
    (last : IsLast (·.IsClass c.name) (.classDef c.place c.name header inner) body)
    (has : m ∈ (methodsOf inner).map (·.1)) :
    ∃ params place, IsLast (·.1 = m) (m, params, place) (methodsOf inner) ∧
      n.function? (qualified c.name m) = some ⟨qualified c.name m, params, place⟩ := by
  have own : IsPlain c.name := plain _ last.mem _ (.inr rfl)
  have with_method : IsLast (·.HasMethod c.name m) (.classDef c.place c.name header inner) body := by
    apply last.of_imp
    · intro s has
      cases s with
      | classDef place other header inner => exact has.1
      | _ => exact has
    · exact ⟨rfl, has⟩
  obtain ⟨method, member, named⟩ := List.mem_map.1 has
  have defined : ∃ method ∈ methodsOf inner, method.1 = m := ⟨method, member, named⟩
  obtain ⟨⟨k, params, place⟩, defined⟩ := exists_isLast_iff.2 defined
  obtain rfl : k = m := defined.holds
  exact ⟨params, place, defined, (function?_qualified_eq_some_iff h plain own).2
    ⟨rfl, _, _, _, with_method, defined⟩⟩

theorem agrees_iff_of_plain (known : c ∈ n.classes.map (·.2)) :
    (∀ m, (n.function? (qualified c.name m)).isSome = true ↔ m ∈ c.methods) ↔
      ∀ s ∈ body, ∀ m, s.HasMethod c.name m → m ∈ c.methods := by
  have own : IsPlain c.name := by
    obtain ⟨header, inner, last, -⟩ := (mem_classes_iff_isLast h).1 known
    exact plain _ last.mem _ (.inr rfl)
  have entered (s : Tree.Stmt) (member : s ∈ body) (m : String) :
      (∃ f ∈ functionsOf s, f.qualifiedName = qualified c.name m) ↔ s.HasMethod c.name m :=
    exists_mem_functionsOf_qualified_iff own (plain s member)
  rw [agrees_iff_of_mem_classes h known]
  constructor
  · intro all s member m has
    obtain ⟨f, inside, named⟩ := (entered s member m).2 has
    exact all f (List.mem_flatMap.2 ⟨s, member, inside⟩) m named
  · intro all f inside m named
    obtain ⟨s, member, inside⟩ := List.mem_flatMap.1 inside
    exact all s member m ((entered s member m).1 ⟨f, inside, named⟩)

end Plain

/-- Whatever the order and repetition of the definitions at the top level. -/
theorem symbols_of_load : Symbols body n where
  function_iff := function?_eq_some_iff h
  class_iff := mem_classes_iff_isLast h
  plain_iff := function?_eq_some_iff_of_isPlain h
  agrees_iff := agrees_iff_of_mem_classes h
  method_iff plain _ _ own _ := function?_qualified_eq_some_iff h plain own
  own_method plain _ _ _ last _ has := function?_own_method h plain last has
  replaced_iff plain _ known := agrees_iff_of_plain h plain known

end Load

/-- A function and a class that are each defined twice, the second class with other methods. -/
def redefined : List Tree.Stmt :=
  [.function ⟨1, 1⟩ "f" ["x"] [] [],
    .classDef ⟨3, 1⟩ "C" [] [.function ⟨4, 5⟩ "a" ["self"] [] []],
    .function ⟨6, 1⟩ "f" ["x", "y"] [] [],
    .classDef ⟨8, 1⟩ "C" []
      [.function ⟨9, 5⟩ "b" ["self"] [] [], .function ⟨11, 5⟩ "b" ["self", "x"] [] []]]

theorem redefined_symbols :
    ∃ n, (load 5 redefined).run busyWorld = (some (.ok n), busyWorld) ∧ HasPlainNames redefined ∧
      n.functions.map (·.1) = ["C.a", "C.b", "f"] ∧ Symbols redefined n := by
  have loaded : (load 5 redefined).run busyWorld =
      (some (.ok (redefined.foldl extend (empty 5 4))), busyWorld) := load_run redefined rfl rfl
  refine ⟨_, loaded, ?_, by decide +kernel, symbols_of_load loaded⟩
  simp [HasPlainNames, redefined, Tree.Stmt.IsFunction, Tree.Stmt.IsClass, IsPlain]

/-- A class that is defined twice, with `a` in the first body alone. -/
def replacedText : String := "class C:\n    def a(self):\n        pass\nclass C:\n    pass\n"

/-- What `replacedText` leaves under the fifth guard of a process. -/
def replaced : Namespace :=
  ⟨5, 2, [], [("C.a", ⟨"C.a", ["self"], ⟨2, 5⟩⟩)], [("C", ⟨"C", [], ⟨4, 1⟩⟩)], []⟩

/-- The second class has no methods, and yet `C.a` is registered. -/
theorem replaced_method_stays :
    (∃ body ∈ (Tree.ofText replacedText).toOption,
      (load 5 body).run busyWorld = (some (.ok replaced), busyWorld)) ∧
    ⟨"C", [], ⟨4, 1⟩⟩ ∈ replaced.classes.map (·.2) ∧
    ¬ ((replaced.function? (qualified "C" "a")).isSome = true ↔ "a" ∈ ([] : List String)) := by
  decide +kernel

end Namespace

end SourceGate
