import SourceGate.Script.Token

/-! # Reading a token stream

A reader takes tokens from the front of a stream. It fails at the first token that no reading of the
text so far can go on with; the failure keeps what is left of the stream, so that of two readings
the one that got further can be told.
-/

namespace SourceGate.Script

/-- A fault and the stream left when it was met. -/
structure Failure where
  fault : Fault
  left : Tokens
  deriving Repr, Inhabited

abbrev Reader (α : Type) := StateT Tokens (Except Failure) α

namespace Reader

/-- Fails with a fault. -/
def fail {α : Type} (fault : Fault) : Reader α := fun stream => .error ⟨fault, stream⟩

/-- Fails because the next token cannot go on. -/
def unexpected {α : Type} : Reader α := fun stream => .error ⟨stream.unexpected, stream⟩

/-- The kind of the next token. -/
def peek : Reader (Option TokenKind) := fun stream =>
  match stream with
  | .cons token _ => .ok (some token.kind, stream)
  | _ => .ok (none, stream)

/-- The kind of the token after the next. -/
def peekSecond : Reader (Option TokenKind) := fun stream =>
  match stream with
  | .cons _ (.cons token _) => .ok (some token.kind, stream)
  | _ => .ok (none, stream)

/-- Where the next token starts. -/
def here : Reader Nat := fun stream => .ok (stream.unexpected.offset, stream)

/-- The next token, of any kind. -/
def token : Reader Token := fun stream =>
  match stream with
  | .cons token rest => .ok (token, rest)
  | _ => .error ⟨stream.unexpected, stream⟩

/-- Whether the next token is of the given kind. -/
def isNext (kind : TokenKind) : Reader Bool := return (← peek) == some kind

def isSymbol (text : String) : Reader Bool := isNext (.symbol text)

def isKeyword (text : String) : Reader Bool := isNext (.keyword text)

/-- Takes the next token if it is of the given kind. -/
def accept (kind : TokenKind) : Reader Bool := do
  if ← isNext kind then
    let _ ← token
    return true
  else return false

def acceptSymbol (text : String) : Reader Bool := accept (.symbol text)

def acceptKeyword (text : String) : Reader Bool := accept (.keyword text)

/-- Takes the next token, which has to be of the given kind. -/
def expect (kind : TokenKind) : Reader Unit := do
  unless ← accept kind do unexpected

def symbol (text : String) : Reader Unit := expect (.symbol text)

def keyword (text : String) : Reader Unit := expect (.keyword text)

/-- The reading of `item` if the condition holds and the given symbol is next. -/
def behindSymbol {α : Type} (condition : Bool) (text : String) (item : Reader α) :
    Reader (Option α) := do
  if condition then
    if ← acceptSymbol text then return some (← item) else return none
  else return none

/-- The reading of `item` if the condition holds and the given keyword is next. -/
def behindKeyword {α : Type} (condition : Bool) (text : String) (item : Reader α) :
    Reader (Option α) := do
  if condition then
    if ← acceptKeyword text then return some (← item) else return none
  else return none

/-- A name. -/
def identifier : Reader String := do
  match ← peek with
  | some (.name text) =>
    let _ ← token
    return text
  | _ => unexpected

/-- Fails if the stream breaks here: a lexical fault in the next token is met before the construct
in front of it is judged. -/
def notBroken : Reader Unit := fun stream =>
  match stream with
  | .broken fault => .error ⟨fault, stream⟩
  | _ => .ok ((), stream)

/-- Fails with a fault of the construct just read, if there is one. The next token is seen first:
if it is broken, or `follows` excludes it, the failure is its own. -/
def judge (follows : TokenKind → Bool) (fault : Option Fault) : Reader Unit := do
  match fault with
  | none => return ()
  | some fault =>
    notBroken
    match ← peek with
    | some kind => if follows kind then fail fault else unexpected
    | none => fail fault

/-- Items read one after another while `item` gives one, at most `bound` of them. -/
def many {α : Type} (item : Reader (Option α)) : Nat → Reader (List α)
  | 0 => return []
  | bound + 1 => do
    match ← item with
    | none => return []
    | some a => return a :: (← many item bound)

/-- Items after a first one, a symbol before each. -/
def manyAfter {α : Type} (bound : Nat) (separator : String) (item : Reader α) : Reader (List α) :=
  many (do if ← acceptSymbol separator then return some (← item) else return none) bound

/-- One or more items with commas between them and none at the end. -/
def commaSeparated {α : Type} (bound : Nat) (item : Reader α) : Reader (List α) := do
  return (← item) :: (← manyAfter bound "," item)

/-- Items that go on after `first`, with commas between them. A comma that no item can follow ends
the list; tells whether there was one. -/
def commaList {α : Type} (bound : Nat) (starts : TokenKind → Bool) (item : Reader α) (first : α) :
    Reader (List α × Bool) := do
  let more ← many (do
    if ← isSymbol "," then
      match ← peekSecond with
      | some kind =>
        if starts kind then
          symbol ","
          return some (← item)
        else return none
      | none => return none
    else return none) bound
  return (first :: more, ← acceptSymbol ",")

/-- The first reading, or else the second from the same place. If both fail, the failure that came
later in the stream counts. -/
def orElse {α : Type} (first second : Reader α) : Reader α := fun stream =>
  match first stream with
  | .ok result => .ok result
  | .error failure =>
    match second stream with
    | .ok result => .ok result
    | .error other =>
      .error (if failure.left.length < other.left.length then failure else other)

end Reader

end SourceGate.Script
