import SourceGate.Proofs.Verdict.Occurrence

/-! # What a walk finds, place by place

A walk finds something at an expression or a statement itself, and what it finds at the parts. What
it finds in a module is therefore what is found at the occurrences of the module, each in its own
position and under the names that the constructs around it record.
-/

namespace SourceGate.Tree

variable {policy : Policy} {bound : Bound} {position : Position}

/-! ## Lists -/

theorem exprsFindings_eq (es : List Expr) :
    exprsFindings policy bound position es = es.flatMap (exprFindings policy bound position) := by
  induction es with
  | nil => rfl
  | cons e rest ih => rw [exprsFindings, List.flatMap_cons, ih]

theorem keywordsFindings_eq (keywords : List (Keyword Expr)) :
    keywordsFindings policy bound keywords =
      (keywords.map (·.value)).flatMap (exprFindings policy bound .load) := by
  induction keywords with
  | nil => rfl
  | cons k rest ih => rw [keywordsFindings, List.map_cons, List.flatMap_cons, ih]

theorem entriesFindings_eq (entries : List (Option Expr × Expr)) :
    entriesFindings policy bound entries =
      entries.flatMap fun entry =>
        (entry.1.toList ++ [entry.2]).flatMap (exprFindings policy bound .load) := by
  induction entries with
  | nil => rfl
  | cons entry rest ih =>
    obtain ⟨_ | key, value⟩ := entry <;> simp [entriesFindings, ih]

theorem clausesFindings_eq (clauses : List (Clause Expr)) :
    clausesFindings policy bound false clauses =
      clauses.flatMap fun c => exprFindings policy bound .store c.target ++
        (exprFindings policy bound .load c.iter ++
          c.conditions.flatMap (exprFindings policy bound .load)) := by
  induction clauses with
  | nil => rfl
  | cons c rest ih => simp [clausesFindings, exprsFindings_eq, ih]

/-- The iterable of the first clause is left out. -/
theorem clausesFindings_cons_eq (c : Clause Expr) (rest : List (Clause Expr)) :
    clausesFindings policy bound true (c :: rest) =
      exprFindings policy bound .store c.target ++
        (c.conditions.flatMap (exprFindings policy bound .load) ++
          clausesFindings policy bound false rest) := by
  simp [clausesFindings, exprsFindings_eq]

theorem stmtsFindings_eq (body : List Stmt) :
    stmtsFindings policy bound body = body.flatMap (stmtFindings policy bound) := by
  induction body with
  | nil => rfl
  | cons s rest ih => rw [stmtsFindings, List.flatMap_cons, ih]

theorem stmtsFindings_append (first second : List Stmt) :
    stmtsFindings policy bound (first ++ second) =
      stmtsFindings policy bound first ++ stmtsFindings policy bound second := by
  simp only [stmtsFindings_eq, List.flatMap_append]

theorem bodiesFindings_eq (bodies : List (List Stmt)) :
    bodiesFindings policy bound bodies = stmtsFindings policy bound bodies.flatten := by
  induction bodies with
  | nil => rfl
  | cons body rest ih => rw [bodiesFindings, List.flatten_cons, stmtsFindings_append, ih]

/-! ## One expression -/

/-- What is found at an expression itself. -/
def Expr.ownFindings (policy : Policy) (bound : Bound) (position : Position) :
    Expr → List Finding
  | .name mark text =>
    if position = .load && policy.forbids text && !bound.contains text then
      [.own text .aliasReference mark]
    else []
  | .attribute mark _ attr => if policy.forbids attr then [.own attr .attributeAccess mark] else []
  | .subscript mark value index =>
    if value.isDisplay then [] else Finding.ofHits mark.place (keyHit policy index).toList
  | .call mark func args _ => callFindings policy mark.place func args
  | .comprehension _ _ clauses => clauses.flatMap fun c => memberFindings policy c.iter
  | _ => []

/-- A part of an expression, with the constructs that are entered on the way to it. -/
structure Placed where
  entered : List Frame
  position : Position
  expr : Expr

/-- The parts of a clause: its target, its iterable if it is evaluated inside, its conditions. -/
def placedClause (frame : Frame) (iters : List Expr) (c : Clause Expr) : List Placed :=
  ⟨[frame], .store, c.target⟩ :: (iters ++ c.conditions).map (⟨[frame], .load, ·⟩)

/-- The parts of all clauses. The first iterable is evaluated outside. -/
def placedClauses (frame : Frame) : List (Clause Expr) → List Placed
  | [] => []
  | first :: rest =>
    ⟨[], .load, first.iter⟩ :: (placedClause frame [] first ++
      rest.flatMap fun c => placedClause frame [c.iter] c)

/-- The parts of an expression in the order in which a walk comes to them. -/
def Expr.placed (position : Position) : Expr → List Placed
  | .name _ _ | .str _ _ | .int _ _ | .constant _ => []
  | .attribute _ value _ => [⟨[], .load, value⟩]
  | .subscript _ value index => [⟨[], .load, value⟩, ⟨[], .load, index⟩]
  | .call _ func args keywords =>
    (func :: (args ++ keywords.map (·.value))).map (⟨[], .load, ·⟩)
  | .list _ items | .tuple _ items => items.map (⟨[], position, ·⟩)
  | .set _ items | .other _ items => items.map (⟨[], .load, ·⟩)
  | .dict _ entries =>
    (entries.flatMap fun entry => entry.1.toList ++ [entry.2]).map (⟨[], .load, ·⟩)
  | .comprehension _ elements clauses =>
    placedClauses (.comprehension clauses) clauses ++
      elements.map (⟨[.comprehension clauses], .load, ·⟩)
  | .lambda _ params header body =>
    header.map (⟨[], .load, ·⟩) ++ [⟨[.lambda params], .load, body⟩]
  | .branch _ tests values => (tests ++ values).map (⟨[], .load, ·⟩)
  | .concat _ left right => [⟨[], .load, left⟩, ⟨[], .load, right⟩]

theorem mem_placedClause {frame : Frame} {iters : List Expr} {c : Clause Expr} {part : Placed} :
    part ∈ placedClause frame iters c ↔ part = ⟨[frame], .store, c.target⟩ ∨
      ∃ e ∈ iters ++ c.conditions, part = ⟨[frame], .load, e⟩ := by
  simp only [placedClause, List.mem_cons, List.mem_map, eq_comm]

theorem Expr.mem_placed_of_holds {p q : Position} {e c : Expr} {entered : List Frame}
    (h : e.Holds p entered q c) : ⟨entered, q, c⟩ ∈ e.placed p := by
  cases h with
  | key h | value h => exact List.mem_map_of_mem (List.mem_flatMap.2 ⟨_, h, by simp⟩)
  | keyword h => exact List.mem_map_of_mem (by simp [List.mem_map_of_mem h])
  | @clauseTarget _ _ _ clauses c h =>
    refine List.mem_append_left _ ?_
    cases clauses with
    | nil => cases h
    | cons first rest =>
      refine List.mem_cons_of_mem _ (List.mem_append.2 ?_)
      rcases List.mem_cons.1 h with rfl | h
      · exact .inl (mem_placedClause.2 (.inl rfl))
      · exact .inr (List.mem_flatMap.2 ⟨_, h, mem_placedClause.2 (.inl rfl)⟩)
  | innerIter h =>
    refine List.mem_append_left _ (List.mem_cons_of_mem _ (List.mem_append_right _ ?_))
    exact List.mem_flatMap.2 ⟨_, h, mem_placedClause.2 (.inr ⟨_, List.mem_cons_self, rfl⟩)⟩
  | @condition _ _ _ clauses c e hc h =>
    refine List.mem_append_left _ ?_
    cases clauses with
    | nil => cases hc
    | cons first rest =>
      refine List.mem_cons_of_mem _ (List.mem_append.2 ?_)
      have h {iters : List Expr} := List.mem_append_right iters h
      rcases List.mem_cons.1 hc with rfl | hc
      · exact .inl (mem_placedClause.2 (.inr ⟨_, h, rfl⟩))
      · exact .inr (List.mem_flatMap.2 ⟨_, hc, mem_placedClause.2 (.inr ⟨_, h, rfl⟩)⟩)
  | _ => simp_all [Expr.placed, placedClauses]

theorem Expr.holds_of_mem_placedClauses {p : Position} {mark : Mark} {elements : List Expr}
    {clauses : List (Clause Expr)} {part : Placed}
    (h : part ∈ placedClauses (.comprehension clauses) clauses) :
    (Expr.comprehension mark elements clauses).Holds p part.entered part.position part.expr := by
  cases clauses with
  | nil => cases h
  | cons first rest =>
    rcases List.mem_cons.1 h with rfl | h
    · exact .outermostIter
    rcases List.mem_append.1 h with h | h
    · rcases mem_placedClause.1 h with rfl | ⟨e, he, rfl⟩
      · exact .clauseTarget List.mem_cons_self
      · exact .condition List.mem_cons_self he
    · obtain ⟨c, hc, h⟩ := List.mem_flatMap.1 h
      rcases mem_placedClause.1 h with rfl | ⟨e, he, rfl⟩
      · exact .clauseTarget (List.mem_cons_of_mem _ hc)
      · rcases List.mem_cons.1 he with rfl | he
        · exact .innerIter hc
        · exact .condition (List.mem_cons_of_mem _ hc) he

/-- The parts are those of the rules. -/
theorem Expr.holds_iff_mem_placed {p : Position} {e : Expr} {part : Placed} :
    e.Holds p part.entered part.position part.expr ↔ part ∈ e.placed p := by
  refine ⟨mem_placed_of_holds, fun h => ?_⟩
  match e, h with
  | .name _ _, h | .str _ _, h | .int _ _, h | .constant _, h => cases h
  | .attribute _ value _, h =>
    obtain rfl := List.mem_singleton.1 h
    exact .attribute
  | .subscript _ value index, h =>
    simp only [Expr.placed, List.mem_cons, List.not_mem_nil, or_false] at h
    rcases h with rfl | rfl
    · exact .base
    · exact .index
  | .concat _ left right, h =>
    simp only [Expr.placed, List.mem_cons, List.not_mem_nil, or_false] at h
    rcases h with rfl | rfl
    · exact .left
    · exact .right
  | .call _ func args keywords, h =>
    simp only [Expr.placed, List.mem_map, List.mem_cons, List.mem_append] at h
    obtain ⟨e, rfl | he | ⟨k, hk, rfl⟩, rfl⟩ := h
    · exact .func
    · exact .arg he
    · exact .keyword hk
  | .list _ items, h =>
    obtain ⟨e, he, rfl⟩ := List.mem_map.1 h
    exact .listItem he
  | .tuple _ items, h =>
    obtain ⟨e, he, rfl⟩ := List.mem_map.1 h
    exact .tupleItem he
  | .set _ items, h =>
    obtain ⟨e, he, rfl⟩ := List.mem_map.1 h
    exact .setItem he
  | .other _ items, h =>
    obtain ⟨e, he, rfl⟩ := List.mem_map.1 h
    exact .child he
  | .dict _ entries, h =>
    obtain ⟨e, he, rfl⟩ := List.mem_map.1 h
    obtain ⟨⟨key, value⟩, hm, he⟩ := List.mem_flatMap.1 he
    rcases List.mem_append.1 he with he | he
    · obtain rfl := Option.mem_toList.1 he
      exact .key hm
    · obtain rfl := List.mem_singleton.1 he
      exact .value hm
  | .comprehension mark elements clauses, h =>
    rcases List.mem_append.1 h with h | h
    · exact holds_of_mem_placedClauses h
    · obtain ⟨e, he, rfl⟩ := List.mem_map.1 h
      exact .element he
  | .lambda _ params header body, h =>
    rcases List.mem_append.1 h with h | h
    · obtain ⟨e, he, rfl⟩ := List.mem_map.1 h
      exact .header he
    · obtain rfl := List.mem_singleton.1 h
      exact .body
  | .branch _ tests values, h =>
    simp only [Expr.placed, List.mem_map, List.mem_append] at h
    obtain ⟨e, he | he, rfl⟩ := h
    · exact .test he
    · exact .branchValue he

/-- What is found at a part, under the names of the constructs that are entered. -/
def Placed.findings (policy : Policy) (bound : Bound) (part : Placed) : List Finding :=
  exprFindings policy (recordedNames part.entered ++ bound) part.position part.expr

theorem findings_placedClauses (clauses : List (Clause Expr)) (frame : Frame) :
    (placedClauses frame clauses).flatMap (·.findings policy bound) =
      outermostFindings policy bound clauses ++
        clausesFindings policy (frame.recorded ++ bound) true clauses := by
  cases clauses with
  | nil => rfl
  | cons first rest =>
    simp [placedClauses, placedClause, Placed.findings, recordedNames, outermostFindings,
      clausesFindings_cons_eq, clausesFindings_eq, List.flatMap_map, List.flatMap_assoc]

/-- An expression gives what is found at itself, then what its parts give. -/
theorem exprFindings_eq (e : Expr) :
    exprFindings policy bound position e =
      e.ownFindings policy bound position ++
        (e.placed position).flatMap (·.findings policy bound) := by
  cases e with
  | name mark text => simp [exprFindings, Expr.ownFindings, Expr.placed]
  | dict mark entries =>
    simp [exprFindings, Expr.ownFindings, Expr.placed, Placed.findings, entriesFindings_eq,
      recordedNames, List.flatMap_map, List.flatMap_assoc]
  | comprehension mark elements clauses =>
    rw [Expr.placed, List.flatMap_append, findings_placedClauses]
    simp [exprFindings, Expr.ownFindings, Placed.findings, exprsFindings_eq, recordedNames,
      Frame.recorded, List.flatMap_map]
  | _ =>
    simp [exprFindings, Expr.ownFindings, Expr.placed, Placed.findings, exprsFindings_eq,
      keywordsFindings_eq, recordedNames, Frame.recorded, List.flatMap_map]

variable {f : Finding}

theorem mem_exprFindings_iff {e : Expr} :
    f ∈ exprFindings policy bound position e ↔
      f ∈ e.ownFindings policy bound position ∨ ∃ entered q c, e.Holds position entered q c ∧
        f ∈ exprFindings policy (recordedNames entered ++ bound) q c := by
  rw [exprFindings_eq, List.mem_append, List.mem_flatMap]
  refine or_congr_right ⟨?_, ?_⟩
  · rintro ⟨part, hp, hf⟩
    exact ⟨_, _, _, Expr.holds_iff_mem_placed.2 hp, hf⟩
  · rintro ⟨entered, q, c, h, hf⟩
    exact ⟨_, Expr.mem_placed_of_holds h, hf⟩

/-! ## One statement -/

/-- What is found at a statement itself. -/
def Stmt.ownFindings (policy : Policy) : Stmt → List Finding
  | .imports place modules => modules.flatMap (importFindings policy place)
  | .importsFrom place source level _ => importFindings policy place (importPath source level)
  | .assign _ targets value =>
    targets.flatMap fun target =>
      if target.sequenceItems?.isSome then memberFindings policy value else []
  | .loop _ _ iter _ _ => memberFindings policy iter
  | .unsupported place => [.unsupported place]
  | .function _ _ _ _ _ | .classDef _ _ _ _ | .block _ _ _ | .declare _ _ => []

theorem mem_ownFindings_or_of_mem_stmtFindings {s : Stmt} (h : f ∈ stmtFindings policy bound s) :
    f ∈ s.ownFindings policy ∨ (∃ p e, s.Holds p e ∧ f ∈ exprFindings policy bound p e) ∨
      ∃ c ∈ s.inner, f ∈ stmtFindings policy (recordedNames s.entered ++ bound) c := by
  cases s with
  | imports | importsFrom | declare | unsupported => exact .inl h
  | function place name params header body =>
    rw [stmtFindings, exprsFindings_eq, stmtsFindings_eq, List.mem_append, List.mem_flatMap,
      List.mem_flatMap] at h
    rcases h with ⟨e, he, hf⟩ | ⟨c, hc, hf⟩
    · exact .inr (.inl ⟨_, e, .functionHeader he, hf⟩)
    · exact .inr (.inr ⟨c, hc, by simpa [Stmt.entered, recordedNames, Frame.recorded]⟩)
  | classDef place name header body =>
    rw [stmtFindings, exprsFindings_eq, stmtsFindings_eq, List.mem_append, List.mem_flatMap,
      List.mem_flatMap] at h
    rcases h with ⟨e, he, hf⟩ | ⟨c, hc, hf⟩
    · exact .inr (.inl ⟨_, e, .classHeader he, hf⟩)
    · exact .inr (.inr ⟨c, hc, hf⟩)
  | assign place targets value =>
    rcases List.mem_append.1 h with h | hf
    · obtain ⟨target, ht, h⟩ := List.mem_flatMap.1 h
      rcases List.mem_append.1 h with hf | hf
      · exact .inl (List.mem_flatMap.2 ⟨target, ht, hf⟩)
      · exact .inr (.inl ⟨_, target, .target ht, hf⟩)
    · exact .inr (.inl ⟨_, value, .assigned, hf⟩)
  | loop place target iter body orelse =>
    simp only [stmtFindings, stmtsFindings_eq, List.mem_append, List.mem_flatMap, or_assoc] at h
    rcases h with hf | hf | hf | ⟨c, hc, hf⟩ | ⟨c, hc, hf⟩
    · exact .inr (.inl ⟨_, target, .loopTarget, hf⟩)
    · exact .inl hf
    · exact .inr (.inl ⟨_, iter, .loopIter, hf⟩)
    · exact .inr (.inr ⟨c, List.mem_append_left _ hc, hf⟩)
    · exact .inr (.inr ⟨c, List.mem_append_right _ hc, hf⟩)
  | block place exprs bodies =>
    rw [stmtFindings, exprsFindings_eq, bodiesFindings_eq, stmtsFindings_eq, List.mem_append,
      List.mem_flatMap, List.mem_flatMap] at h
    rcases h with ⟨e, he, hf⟩ | ⟨c, hc, hf⟩
    · exact .inr (.inl ⟨_, e, .expr he, hf⟩)
    · exact .inr (.inr ⟨c, hc, hf⟩)

theorem ownFindings_subset_stmtFindings (s : Stmt) :
    s.ownFindings policy ⊆ stmtFindings policy bound s := by
  intro f hf
  cases s with
  | assign place targets value =>
    obtain ⟨target, ht, hf⟩ := List.mem_flatMap.1 hf
    exact List.mem_append_left _ (List.mem_flatMap.2 ⟨target, ht, List.mem_append_left _ hf⟩)
  | loop place target iter body orelse =>
    simp only [Stmt.ownFindings] at hf
    simp [stmtFindings, hf]
  | function | classDef | block | declare => cases hf
  | imports | importsFrom | unsupported => exact hf

theorem exprFindings_subset_of_stmt_holds {s : Stmt} {p : Position} {e : Expr} (h : s.Holds p e) :
    exprFindings policy bound p e ⊆ stmtFindings policy bound s := by
  intro f hf
  cases h with
  | functionHeader h | classHeader h | expr h =>
    simp only [stmtFindings, exprsFindings_eq]
    exact List.mem_append_left _ (List.mem_flatMap.2 ⟨e, h, hf⟩)
  | target h =>
    exact List.mem_append_left _ (List.mem_flatMap.2 ⟨e, h, List.mem_append_right _ hf⟩)
  | _ => simp [stmtFindings, hf]

theorem stmtFindings_subset_of_mem_inner {s c : Stmt} (h : c ∈ s.inner) :
    stmtFindings policy (recordedNames s.entered ++ bound) c ⊆ stmtFindings policy bound s := by
  intro f hf
  match s, h with
  | .function _ _ params header body, h | .classDef _ _ header body, h =>
    simp only [stmtFindings, stmtsFindings_eq]
    refine List.mem_append_right _ (List.mem_flatMap.2 ⟨c, h, ?_⟩)
    simpa [Stmt.entered, recordedNames, Frame.recorded] using hf
  | .loop _ _ _ body orelse, h =>
    have hf : f ∈ stmtsFindings policy bound (body ++ orelse) := by
      rw [stmtsFindings_eq]
      exact List.mem_flatMap.2 ⟨c, h, hf⟩
    rw [stmtFindings, List.append_assoc _ (stmtsFindings policy bound body),
      ← stmtsFindings_append]
    exact List.mem_append_right _ hf
  | .block _ exprs bodies, h =>
    rw [stmtFindings, bodiesFindings_eq, stmtsFindings_eq]
    exact List.mem_append_right _ (List.mem_flatMap.2 ⟨c, h, hf⟩)
  | .assign _ _ _, h | .imports _ _, h | .importsFrom _ _ _ _, h | .declare _ _, h
  | .unsupported _, h => cases h

/-! ## A module -/

variable {root : List Stmt} {frames : List Frame}

theorem stmtFindings_subset_of_stmtAt {s : Stmt} (hs : StmtAt root frames s) :
    stmtFindings policy (recordedNames frames) s ⊆ stmtsFindings policy [] root := by
  induction hs using StmtAt.byInner with
  | top h =>
    intro f hf
    rw [stmtsFindings_eq]
    exact List.mem_flatMap.2 ⟨_, h, hf⟩
  | inner _ h ih =>
    rw [recordedNames, List.flatMap_append]
    exact List.Subset.trans (stmtFindings_subset_of_mem_inner h) ih

theorem exprFindings_subset_of_exprAt {p : Position} {e : Expr} (he : ExprAt root frames p e) :
    exprFindings policy (recordedNames frames) p e ⊆ stmtsFindings policy [] root := by
  induction he with
  | held hs h =>
    exact List.Subset.trans (exprFindings_subset_of_stmt_holds h) (stmtFindings_subset_of_stmtAt hs)
  | part _ h ih =>
    intro f hf
    rw [recordedNames, List.flatMap_append] at hf
    exact ih (mem_exprFindings_iff.2 (.inr ⟨_, _, _, h, hf⟩))

theorem ExprAt.exists_of_mem_exprFindings {p : Position} {e : Expr} (he : ExprAt root frames p e)
    (hf : f ∈ exprFindings policy (recordedNames frames) p e) :
    ∃ frames p e, ExprAt root frames p e ∧ f ∈ e.ownFindings policy (recordedNames frames) p := by
  induction e using Expr.byChildren generalizing frames p with
  | step e ih =>
    rcases mem_exprFindings_iff.1 hf with hf | ⟨entered, q, c, h, hf⟩
    · exact ⟨frames, p, e, he, hf⟩
    · refine ih c h.mem_children (he.part h) ?_
      rwa [recordedNames, List.flatMap_append]

/-- Found at a statement or an expression of a module itself. -/
def FoundAt (policy : Policy) (root : List Stmt) (f : Finding) : Prop :=
  (∃ frames s, StmtAt root frames s ∧ f ∈ s.ownFindings policy) ∨
    ∃ frames p e, ExprAt root frames p e ∧ f ∈ e.ownFindings policy (recordedNames frames) p

theorem StmtAt.foundAt {s : Stmt} (hs : StmtAt root frames s)
    (hf : f ∈ stmtFindings policy (recordedNames frames) s) : FoundAt policy root f := by
  induction s using Stmt.byInner generalizing frames with
  | step s ih =>
    rcases mem_ownFindings_or_of_mem_stmtFindings hf with hf | ⟨p, e, h, hf⟩ | ⟨c, hc, hf⟩
    · exact .inl ⟨frames, s, hs, hf⟩
    · exact .inr ((ExprAt.held hs h).exists_of_mem_exprFindings hf)
    · refine ih c hc (hs.inner hc) ?_
      rwa [recordedNames, List.flatMap_append]

/-- The findings in a module are those at its statements and expressions themselves. -/
theorem mem_stmtsFindings_iff : f ∈ stmtsFindings policy [] root ↔ FoundAt policy root f := by
  constructor
  · intro hf
    rw [stmtsFindings_eq] at hf
    obtain ⟨s, hs, hf⟩ := List.mem_flatMap.1 hf
    exact (StmtAt.top hs).foundAt hf
  · rintro (⟨frames, s, hs, hf⟩ | ⟨frames, p, e, he, hf⟩)
    · exact stmtFindings_subset_of_stmtAt hs (ownFindings_subset_stmtFindings s hf)
    · exact exprFindings_subset_of_exprAt he (mem_exprFindings_iff.2 (.inl hf))

end SourceGate.Tree
