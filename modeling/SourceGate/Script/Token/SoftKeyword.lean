import SourceGate.Script.Token

/-! # Soft keywords

`match`, `case` and `type` are keywords only where a logical line opens with them and its shape
shows a statement of theirs; elsewhere they are names.
-/

namespace SourceGate.Script

namespace SoftKeyword

/-- Whether the rest of the line has a colon outside brackets that neither comes first nor belongs
to a lambda. -/
def hasColon (nesting : Int) (isFirst sawLambda : Bool) : Tokens → Bool
  | .cons token rest =>
    match token.kind with
    | .newline => false
    | .keyword "lambda" => hasColon nesting false (sawLambda || nesting == 0) rest
    | .symbol s =>
      if s == ":" && nesting == 0 then
        if sawLambda then hasColon nesting false false rest
        else !isFirst || hasColon nesting false false rest
      else if openers.contains s then hasColon (nesting + 1) false sawLambda rest
      else if closers.contains s then hasColon (nesting - 1) false sawLambda rest
      else hasColon nesting false sawLambda rest
    | _ => hasColon nesting false sawLambda rest
  | _ => false

/-- Whether an equals sign follows, square brackets and what they hold aside. -/
def hasEquals (nesting : Int) : Tokens → Bool
  | .cons token rest =>
    match token.kind with
    | .newline => false
    | .symbol s =>
      if s == "=" && nesting == 0 then true
      else if s == "[" then hasEquals (nesting + 1) rest
      else if s == "]" then hasEquals (nesting - 1) rest
      else nesting > 0 && hasEquals nesting rest
    | _ => nesting > 0 && hasEquals nesting rest
  | _ => false

/-- Whether `type` opens an alias: a name follows, and an equals sign after it. -/
def opensAlias : Tokens → Bool
  | .cons token rest =>
    match token.kind with
    | .name _ | .keyword "type" | .keyword "match" | .keyword "case" => hasEquals 0 rest
    | _ => false
  | _ => false

/-- The kind a token has where it stands. -/
def settled (isLineStart : Bool) (kind : TokenKind) (rest : Tokens) : TokenKind :=
  match kind with
  | .keyword "match" => if isLineStart && hasColon 0 true false rest then kind else .name "match"
  | .keyword "case" => if isLineStart && hasColon 0 true false rest then kind else .name "case"
  | .keyword "type" => if isLineStart && opensAlias rest then kind else .name "type"
  | _ => kind

end SoftKeyword

/-- The stream with its soft keywords told from names. -/
def Tokens.settle (isLineStart : Bool) : Tokens → Tokens
  | .cons token rest =>
    let opensLine := match token.kind with
      | .newline | .indent | .dedent => true
      | _ => false
    .cons { token with kind := SoftKeyword.settled isLineStart token.kind rest }
      (rest.settle opensLine)
  | stream => stream

end SourceGate.Script
