import SourceGate.Verdict.Reach
import SourceGate.Verdict.Scope

/-! # What a walk over a tree finds

One pass in the order of the text, which meets every expression. A call is resolved before its parts
are walked, so the finding that explains an operation comes before the one that only mentions it.
-/

namespace SourceGate.Tree

/-- A violation and, for an operation, the expression that names it. -/
structure Finding where
  leaf : Option Nat
  violation : Violation
  deriving DecidableEq, Repr, Inhabited

/-- The target of a statement that is not modelled. -/
def unsupportedTarget : String := "<unsupported statement>"

namespace Finding

def importing (path : String) (place : Location) : Finding :=
  ⟨none, ⟨.importing, path, place, none⟩⟩

def unsupported (place : Location) : Finding :=
  ⟨none, ⟨.operation, unsupportedTarget, place, none⟩⟩

def ofHit (place : Location) (hit : Hit) : Finding :=
  ⟨some hit.leaf, ⟨.operation, hit.name, place, some hit.route⟩⟩

/-- Hits that are all reported at one place. -/
def ofHits (place : Location) (hits : List Hit) : List Finding := hits.map (ofHit place)

/-- The expression itself names the operation. -/
def own (name : String) (route : Route) (mark : Mark) : Finding :=
  ofHit mark.place ⟨name, route, mark.id⟩

end Finding

/-- Whether an expression is evaluated or assigned to. In a store, plain names are bindings. -/
inductive Position where
  | load | store
  deriving DecidableEq, Repr

/-- The path of an import, unless its root is allowed. -/
def importFindings (policy : Policy) (place : Location) (path : String) : List Finding :=
  if policy.allows path then [] else [.importing path place]

/-- What a call reaches, by its callee and by the names and keys it passes to a helper. -/
def callFindings (policy : Policy) (place : Location) (func : Expr) (args : List Expr) :
    List Finding :=
  let named :=
    if isNameHelper func then computed policy (args.flatMap (reference policy)) func args false
    else []
  Finding.ofHits place (reference policy func ++ named ++ lookupKeys policy func args)

/-- What an iteration over or an unpacking of `e` hands out. -/
def memberFindings (policy : Policy) (e : Expr) : List Finding :=
  Finding.ofHits e.place (members policy e)

mutual

def exprFindings (policy : Policy) (bound : Bound) (position : Position) : Expr → List Finding
  | .name mark text =>
    if position = .load && policy.forbids text && !bound.contains text then
      [.own text .aliasReference mark]
    else []
  | .attribute mark value attr =>
    (if policy.forbids attr then [.own attr .attributeAccess mark] else []) ++
      exprFindings policy bound .load value
  | .subscript mark value index =>
    (if value.isDisplay then [] else Finding.ofHits mark.place (keyHit policy index).toList) ++
      exprFindings policy bound .load value ++ exprFindings policy bound .load index
  | .call mark func args keywords =>
    callFindings policy mark.place func args ++ exprFindings policy bound .load func ++
      exprsFindings policy bound .load args ++ keywordsFindings policy bound keywords
  | .list _ items | .tuple _ items => exprsFindings policy bound position items
  | .set _ items => exprsFindings policy bound .load items
  | .dict _ entries => entriesFindings policy bound entries
  | .str _ _ | .int _ _ | .constant _ => []
  | .comprehension _ elements clauses =>
    let inner := comprehensionNames clauses ++ bound
    (clauses.flatMap fun c => memberFindings policy c.iter) ++
      outermostFindings policy bound clauses ++ clausesFindings policy inner true clauses ++
      exprsFindings policy inner .load elements
  | .lambda _ params header body =>
    exprsFindings policy bound .load header ++
      exprFindings policy (params.map bareParam ++ bound) .load body
  | .branch _ tests values =>
    exprsFindings policy bound .load tests ++ exprsFindings policy bound .load values
  | .concat _ left right =>
    exprFindings policy bound .load left ++ exprFindings policy bound .load right
  | .other _ children => exprsFindings policy bound .load children

def exprsFindings (policy : Policy) (bound : Bound) (position : Position) :
    List Expr → List Finding
  | [] => []
  | e :: rest => exprFindings policy bound position e ++ exprsFindings policy bound position rest

def keywordsFindings (policy : Policy) (bound : Bound) : List (Keyword Expr) → List Finding
  | [] => []
  | ⟨_, value⟩ :: rest =>
    exprFindings policy bound .load value ++ keywordsFindings policy bound rest

def entriesFindings (policy : Policy) (bound : Bound) :
    List (Option Expr × Expr) → List Finding
  | [] => []
  | (none, value) :: rest =>
    exprFindings policy bound .load value ++ entriesFindings policy bound rest
  | (some key, value) :: rest =>
    exprFindings policy bound .load key ++ exprFindings policy bound .load value ++
      entriesFindings policy bound rest

/-- The iterable of the first clause, which is evaluated in the enclosing scope. -/
def outermostFindings (policy : Policy) (bound : Bound) : List (Clause Expr) → List Finding
  | [] => []
  | ⟨_, iter, _⟩ :: _ => exprFindings policy bound .load iter

/-- The clauses in the scope of their comprehension, the iterable of the first left out. -/
def clausesFindings (policy : Policy) (bound : Bound) (isFirst : Bool) :
    List (Clause Expr) → List Finding
  | [] => []
  | ⟨target, iter, conditions⟩ :: rest =>
    exprFindings policy bound .store target ++
      (if isFirst then [] else exprFindings policy bound .load iter) ++
      exprsFindings policy bound .load conditions ++ clausesFindings policy bound false rest

end

/-- The targets of an assignment. A display as target unpacks the value. -/
def targetFindings (policy : Policy) (bound : Bound) (value : Expr) (target : Expr) :
    List Finding :=
  (if target.sequenceItems?.isSome then memberFindings policy value else []) ++
    exprFindings policy bound .store target

mutual

def stmtFindings (policy : Policy) (bound : Bound) : Stmt → List Finding
  | .imports place modules => modules.flatMap (importFindings policy place)
  | .importsFrom place source level _ => importFindings policy place (importPath source level)
  | .function _ _ params header body =>
    exprsFindings policy bound .load header ++
      stmtsFindings policy (functionNames params body ++ bound) body
  | .classDef _ _ header body =>
    exprsFindings policy bound .load header ++ stmtsFindings policy bound body
  | .assign _ targets value =>
    targets.flatMap (targetFindings policy bound value) ++ exprFindings policy bound .load value
  | .loop _ target iter body orelse =>
    exprFindings policy bound .store target ++ memberFindings policy iter ++
      exprFindings policy bound .load iter ++ stmtsFindings policy bound body ++
      stmtsFindings policy bound orelse
  | .block _ exprs bodies =>
    exprsFindings policy bound .load exprs ++ bodiesFindings policy bound bodies
  | .declare _ _ => []
  | .unsupported place => [.unsupported place]

def stmtsFindings (policy : Policy) (bound : Bound) : List Stmt → List Finding
  | [] => []
  | s :: rest => stmtFindings policy bound s ++ stmtsFindings policy bound rest

def bodiesFindings (policy : Policy) (bound : Bound) : List (List Stmt) → List Finding
  | [] => []
  | body :: rest => stmtsFindings policy bound body ++ bodiesFindings policy bound rest

end

end SourceGate.Tree
