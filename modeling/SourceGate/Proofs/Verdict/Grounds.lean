import SourceGate.Namespace.Basic
import SourceGate.Proofs.Verdict.Hit
import SourceGate.Proofs.Verdict.Reported

/-! # Every violation has its ground

A violation is a refused import, a statement that is not modelled, or an operation that some
expression of the module spells or looks up by a name that is not known. A plain mention is one that
no recorded scope binds, and a direct call is reported where the callee stands for the name.
-/

namespace SourceGate.Tree

variable {policy : Policy} {bound : Bound} {p : Position} {f : Finding}

/-! ## What is found at one place -/

/-- What the findings at an expression itself rest on. -/
structure Blamed (policy : Policy) (bound : Bound) (p : Position) (e : Expr) (place : Location)
    (hit : Hit) : Prop where
  stems : hit.StemsFrom policy e
  mention : hit.route = .aliasReference → p = .load ∧ place = e.place ∧
    (∃ mark, e = .name mark hit.name) ∧ policy.forbids hit.name = true ∧ hit.name ∉ bound
  call : hit.route = .directCall → ∃ mark func args keywords,
    e = .call mark func args keywords ∧ place = mark.place ∧ func.StandsFor hit.name

theorem Blamed.ofIndirect {e : Expr} {place : Location} {hit : Hit} (stems : hit.StemsFrom policy e)
    (indirect : hit.route.IsIndirect) : Blamed policy bound p e place hit :=
  ⟨stems, fun h => absurd h indirect.1, fun h => absurd h indirect.2⟩

theorem exists_of_mem_memberFindings {e : Expr} (h : f ∈ memberFindings policy e) :
    ∃ hit, f = .ofHit e.place hit ∧ hit.StemsFrom policy e ∧ hit.route.IsIndirect := by
  obtain ⟨hit, hh, rfl⟩ := List.mem_map.1 h
  exact ⟨hit, rfl, (rooted e).2 hit hh, isIndirect_of_mem_members hh⟩

theorem exists_of_mem_callFindings {mark : Mark} {func : Expr} {args : List Expr}
    (keywords : List (Keyword Expr)) (h : f ∈ callFindings policy mark.place func args) :
    ∃ hit, f = .ofHit mark.place hit ∧ hit.IsReached func ∧
      hit.StemsFrom policy (.call mark func args keywords) := by
  obtain ⟨hit, hh, rfl⟩ := List.mem_map.1 h
  refine ⟨hit, rfl, ?_⟩
  rcases List.mem_append.1 hh with hh | hh
  · rcases List.mem_append.1 hh with hh | hh
    · exact ⟨isReached_of_mem_reference hh, ((rooted func).1 hit hh).ofInside Expr.isInside_func⟩
    · split at hh
      · rcases mem_computed hh with ⟨found, hf, rfl⟩ | ⟨route, a, ha, about⟩ | ⟨called, -⟩
        · obtain ⟨a, ha, hf⟩ := List.mem_flatMap.1 hf
          exact ⟨Hit.isReached_of_isIndirect (by simp [Hit.via, Route.IsIndirect]) func,
            (((rooted a).1 found hf).via _).ofInside (Expr.isInside_arg ha)⟩
        · exact ⟨Hit.isReached_of_isIndirect (by simp [route, Route.IsIndirect]) func,
            about.stemsFrom.ofInside (Expr.isInside_arg ha)⟩
        · cases called
      · cases hh
  · obtain ⟨a, ha, about⟩ := about_of_mem_lookupKeys hh
    exact ⟨Hit.isReached_of_isIndirect (isIndirect_of_mem_lookupKeys hh) func,
      about.stemsFrom.ofInside (Expr.isInside_arg ha)⟩

theorem Expr.blamed_of_mem_ownFindings {e : Expr} (h : f ∈ e.ownFindings policy bound p) :
    ∃ place hit, f = .ofHit place hit ∧ Blamed policy bound p e place hit := by
  cases e with
  | name mark text =>
    simp only [ownFindings] at h
    split at h
    · next unbound =>
      obtain rfl := List.mem_singleton.1 h
      simp only [Bool.and_eq_true, decide_eq_true_eq, Bool.not_eq_true', List.contains_eq_mem,
        decide_eq_false_iff_not] at unbound
      obtain ⟨⟨load, forbidden⟩, free⟩ := unbound
      refine ⟨_, _, rfl, Hit.About.stemsFrom (.spelled rfl (.name forbidden)), fun _ => ?_, by simp⟩
      exact ⟨load, rfl, ⟨mark, rfl⟩, forbidden, free⟩
    · cases h
  | «attribute» mark value attr =>
    simp only [ownFindings] at h
    split at h
    · next forbidden =>
      obtain rfl := List.mem_singleton.1 h
      exact ⟨_, _, rfl, .ofIndirect (Hit.About.stemsFrom (.spelled rfl (.attribute forbidden)))
        (by simp [Route.IsIndirect])⟩
    · cases h
  | subscript mark value index =>
    simp only [ownFindings] at h
    split at h
    · cases h
    · obtain ⟨hit, hh, rfl⟩ := List.mem_map.1 h
      have hh := Option.mem_toList.1 hh
      exact ⟨_, hit, rfl, .ofIndirect ((about_of_mem_keyHit hh).stemsFrom.ofInside isInside_index)
        (isIndirect_of_mem_keyHit hh)⟩
  | call mark func args keywords =>
    obtain ⟨hit, rfl, ⟨mention, direct⟩, stems⟩ := exists_of_mem_callFindings keywords h
    refine ⟨_, hit, rfl, stems, fun route => absurd route mention, fun route => ?_⟩
    exact ⟨mark, func, args, keywords, rfl, rfl, direct route⟩
  | comprehension mark elements clauses =>
    obtain ⟨c, hc, h⟩ := List.mem_flatMap.1 h
    obtain ⟨hit, rfl, stems, indirect⟩ := exists_of_mem_memberFindings h
    exact ⟨_, hit, rfl, .ofIndirect (stems.ofInside (isInside_iter hc)) indirect⟩
  | _ => cases h

namespace Stmt

/-- The paths of a statement that a policy does not allow. -/
def refusedPaths (policy : Policy) (s : Stmt) : List String :=
  (Namespace.importsOf s).filter fun path => !policy.allows path

/-- What is wrong with a statement that is no expression of it. -/
def faults (policy : Policy) : Stmt → List Violation
  | .unsupported place => [⟨.operation, unsupportedTarget, place, none⟩]
  | s => (s.refusedPaths policy).map fun path => ⟨.importing, path, s.place, none⟩

end Stmt

theorem Stmt.route_of_mem_faults {s : Stmt} {v : Violation} (h : v ∈ s.faults policy) :
    v.route = none := by
  unfold faults at h
  split at h
  · obtain rfl := List.mem_singleton.1 h
    rfl
  · obtain ⟨path, -, rfl⟩ := List.mem_map.1 h
    rfl

theorem flatMap_importFindings (place : Location) (paths : List String) :
    paths.flatMap (importFindings policy place) =
      (paths.filter fun path => !policy.allows path).map (Finding.importing · place) := by
  induction paths with
  | nil => rfl
  | cons path rest ih =>
    rw [List.flatMap_cons, ih, importFindings]
    cases h : policy.allows path <;> simp [h]

theorem Stmt.blamed_of_mem_ownFindings {s : Stmt} (h : f ∈ s.ownFindings policy) :
    (f.leaf = none ∧ f.violation ∈ s.faults policy) ∨
      ∃ e ∈ s.exprs, ∃ hit, f = .ofHit e.place hit ∧ hit.StemsFrom policy e ∧
        hit.route.IsIndirect := by
  cases s with
  | imports place modules =>
    simp only [ownFindings, flatMap_importFindings] at h
    obtain ⟨path, hp, rfl⟩ := List.mem_map.1 h
    exact .inl ⟨rfl, List.mem_map_of_mem hp⟩
  | importsFrom place source level names =>
    have h : f ∈ [importPath source level].flatMap (importFindings policy place) := by
      simpa [ownFindings] using h
    rw [flatMap_importFindings] at h
    obtain ⟨path, hp, rfl⟩ := List.mem_map.1 h
    exact .inl ⟨rfl, List.mem_map_of_mem hp⟩
  | assign place targets value =>
    obtain ⟨target, -, h⟩ := List.mem_flatMap.1 h
    split at h
    · exact .inr ⟨value, by simp [exprs], exists_of_mem_memberFindings h⟩
    · cases h
  | loop place target iter body orelse =>
    exact .inr ⟨iter, by simp [exprs], exists_of_mem_memberFindings h⟩
  | unsupported place =>
    obtain rfl := List.mem_singleton.1 h
    exact .inl ⟨rfl, List.mem_singleton_self _⟩
  | function | classDef | block | declare => cases h

/-! ## What is found in a module -/

variable {root : List Stmt}

/-- A finding in a module is the fault of a statement, or a hit about a part of an expression. -/
theorem blamed_of_mem_stmtsFindings (h : f ∈ stmtsFindings policy [] root) :
    (∃ frames s, StmtAt root frames s ∧ f.leaf = none ∧ f.violation ∈ s.faults policy) ∨
      ∃ frames p e place hit, ExprAt root frames p e ∧ f = .ofHit place hit ∧
        Blamed policy (recordedNames frames) p e place hit := by
  rcases mem_stmtsFindings_iff.1 h with ⟨frames, s, hs, hf⟩ | ⟨frames, p, e, he, hf⟩
  · rcases Stmt.blamed_of_mem_ownFindings hf with ⟨hl, hv⟩ | ⟨e, he, hit, rfl, stems, indirect⟩
    · exact .inl ⟨frames, s, hs, hl, hv⟩
    · obtain ⟨p, hp⟩ := Stmt.exists_holds_iff_mem_exprs.2 he
      exact .inr ⟨frames, p, e, _, hit, .held hs hp, rfl, .ofIndirect stems indirect⟩
  · obtain ⟨place, hit, rfl, blamed⟩ := Expr.blamed_of_mem_ownFindings hf
    exact .inr ⟨frames, p, e, place, hit, he, rfl, blamed⟩

/-- What a violation rests on in a module. -/
inductive Grounded (policy : Policy) (root : List Stmt) : Violation → Prop where
  | importing {frames s path} (hs : StmtAt root frames s) (imported : path ∈ Namespace.importsOf s)
      (refused : policy.allows path = false) :
      Grounded policy root ⟨.importing, path, s.place, none⟩
  | unsupported {frames place} (hs : StmtAt root frames (.unsupported place)) :
      Grounded policy root ⟨.operation, unsupportedTarget, place, none⟩
  | unknown {frames p mark func args keywords place route}
      (he : ExprAt root frames p (.call mark func args keywords))
      (helper : isNameHelper func = true) :
      Grounded policy root ⟨.operation, dynamicTarget, place, some route⟩
  | spelled {frames p e name place route} (he : ExprAt root frames p e)
      (h : Spells policy e name) : Grounded policy root ⟨.operation, name, place, some route⟩

/-- All violations of a module have grounds, and those that stand for a plain mention or a direct
call have the one that their route tells of. -/
structure GroundedVerdict (policy : Policy) (root : List Stmt) : Prop where
  grounds : ∀ v ∈ violations policy root, Grounded policy root v
  mentions : ∀ v ∈ violations policy root, v.route = some .aliasReference →
    ∃ frames mark, ExprAt root frames .load (.name mark v.target) ∧ v.place = mark.place ∧
      policy.forbids v.target = true ∧ ∀ frame ∈ frames, v.target ∉ frame.recorded
  calls : ∀ v ∈ violations policy root, v.route = some .directCall →
    ∃ frames p mark func args keywords, ExprAt root frames p (.call mark func args keywords) ∧
      v.place = mark.place ∧ func.StandsFor v.target

theorem Grounded.ofFault {frames : List Frame} {s : Stmt} {v : Violation}
    (hs : StmtAt root frames s) (hv : v ∈ s.faults policy) : Grounded policy root v := by
  unfold Stmt.faults at hv
  split at hv
  · obtain rfl := List.mem_singleton.1 hv
    exact .unsupported hs
  · obtain ⟨path, hp, rfl⟩ := List.mem_map.1 hv
    obtain ⟨imported, refused⟩ := List.mem_filter.1 hp
    exact .importing hs imported (by simpa using refused)

theorem Grounded.ofHit {frames : List Frame} {e : Expr} {hit : Hit} (place : Location)
    (he : ExprAt root frames p e) (stems : hit.StemsFrom policy e) :
    Grounded policy root (Finding.ofHit place hit).violation := by
  obtain ⟨n, hn, about⟩ := stems
  obtain ⟨frames, p, hn⟩ := he.exists_of_mem_subterms hn
  cases about with
  | spelled leaf h => exact .spelled hn h
  | unknown leaf helper name =>
    rw [Finding.ofHit, name]
    exact .unknown hn helper

theorem exists_mem_findings_of_mem_violations {v : Violation} (hv : v ∈ violations policy root) :
    ∃ f ∈ stmtsFindings policy [] root, f.violation = v := by
  obtain ⟨f, hf, rfl⟩ := List.mem_map.1 hv
  exact ⟨f, firstPerLeaf_sublist.subset hf, rfl⟩

theorem verdict_grounded (policy : Policy) (root : List Stmt) : GroundedVerdict policy root where
  grounds v hv := by
    obtain ⟨f, hf, rfl⟩ := exists_mem_findings_of_mem_violations hv
    rcases blamed_of_mem_stmtsFindings hf with
      ⟨frames, s, hs, -, hv⟩ | ⟨frames, p, e, place, hit, he, rfl, blamed⟩
    · exact .ofFault hs hv
    · exact .ofHit place he blamed.stems
  mentions v hv route := by
    obtain ⟨f, hf, rfl⟩ := exists_mem_findings_of_mem_violations hv
    rcases blamed_of_mem_stmtsFindings hf with
      ⟨frames, s, hs, -, hv⟩ | ⟨frames, p, e, place, hit, he, rfl, blamed⟩
    · cases (Stmt.route_of_mem_faults hv).symm.trans route
    · obtain ⟨rfl, rfl, ⟨mark, rfl⟩, forbidden, free⟩ := blamed.mention (Option.some.inj route)
      refine ⟨frames, mark, he, rfl, forbidden, fun frame hf bound => ?_⟩
      exact free (List.mem_flatMap.2 ⟨frame, hf, bound⟩)
  calls v hv route := by
    obtain ⟨f, hf, rfl⟩ := exists_mem_findings_of_mem_violations hv
    rcases blamed_of_mem_stmtsFindings hf with
      ⟨frames, s, hs, -, hv⟩ | ⟨frames, p, e, place, hit, he, rfl, blamed⟩
    · cases (Stmt.route_of_mem_faults hv).symm.trans route
    · obtain ⟨mark, func, args, keywords, rfl, same, stands⟩ :=
        blamed.call (Option.some.inj route)
      exact ⟨frames, p, mark, func, args, keywords, he, same, stands⟩

end SourceGate.Tree
