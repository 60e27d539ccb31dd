import ConventionLint.Grammar.Concrete
import ConventionLint.Grammar.Token

/-! Parsers over a stream of tokens. A parser takes tokens off the front or fails at a place; it never
looks back. Of two alternatives that both fail the failure farther to the right is kept. -/

namespace ConventionLint.Grammar

structure Stream where
  tokens : List Token
  last : Position
  deriving Repr

structure Failure where
  position : Position
  deriving DecidableEq, Repr

abbrev Parser := StateT Stream (Except Failure)

namespace Parser

def here : Parser Position := fun s =>
  .ok (match s.tokens with
    | t :: _ => t.span.start
    | [] => s.last, s)

def fail : Parser α := do
  let p ← here
  throw ⟨p⟩

def peek : Parser (Option Lexeme) := fun s => .ok (s.tokens.head?.map Token.lexeme, s)

def peekSecond : Parser (Option Lexeme) := fun s => .ok (s.tokens[1]?.map Token.lexeme, s)

def take : Parser Token := fun s =>
  match s.tokens with
  | t :: ts => .ok (t, ⟨ts, t.span.stop⟩)
  | [] => .error ⟨s.last⟩

def expect (l : Lexeme) : Parser Token := do
  if (← peek) = some l then take else fail

def symbol (s : String) : Parser Token := expect (.symbol s)

def keyword (w : String) : Parser Token := expect (.word w)

def accept (l : Lexeme) : Parser Bool := do
  if (← peek) = some l then
    let _ ← take
    return true
  else return false

def isNext (l : Lexeme) : Parser Bool := do return (← peek) = some l

def either (p q : Parser α) : Parser α := fun s =>
  match p s with
  | .ok r => .ok r
  | .error e =>
    match q s with
    | .ok r => .ok r
    | .error f => .error (if e.position.offset < f.position.offset then f else e)

def node (kind : Kind) (p : Parser (List Concrete)) : Parser Concrete := do
  let start ← here
  let children ← p
  return .node kind none ⟨start, (← get).last⟩ children

def extend (kind : Kind) (first : Concrete) (p : Parser (List Concrete)) : Parser Concrete := do
  let rest ← p
  return .node kind none ⟨first.span.start, (← get).last⟩ (first :: rest)

def leaf (kind : Kind) : Parser Concrete := node kind do
  let _ ← take
  return []

def manyBounded (p : Parser (Option α)) : Nat → Parser (List α)
  | 0 => return []
  | n + 1 => do
    match ← p with
    | none => return []
    | some a => return a :: (← manyBounded p n)

/-- Each round takes at least one token, so the number of tokens bounds the rounds. -/
def many (p : Parser (Option α)) : Parser (List α) := do
  manyBounded p (← get).tokens.length

def growBounded (p : α → Parser (Option α)) : Nat → α → Parser α
  | 0, a => return a
  | n + 1, a => do
    match ← p a with
    | none => return a
    | some b => growBounded p n b

def grow (p : α → Parser (Option α)) (a : α) : Parser α := do
  growBounded p (← get).tokens.length a

def commaSeparated (item : Parser α) : Parser (List α) := do
  let first ← item
  let rest ← many do
    if ← accept (.symbol ",") then return some (← item) else return none
  return first :: rest

/-- One or more items between commas, with a comma allowed after the last one where `stops` says that
no item follows; also whether there was any comma. -/
def commaList (item : Parser α) (stops : Option Lexeme → Bool) : Parser (List α × Bool) := do
  let first ← item
  let rest ← many do
    if ← isNext (.symbol ",") then
      let _ ← take
      if stops (← peek) then return some none else return some (some (← item))
    else return none
  return (first :: rest.filterMap id, !rest.isEmpty)

end Parser

end ConventionLint.Grammar
