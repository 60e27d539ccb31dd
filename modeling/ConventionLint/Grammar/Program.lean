import ConventionLint.Grammar.Compound
import ConventionLint.Grammar.Layout
import ConventionLint.Grammar.Lexer

/-! Whole programs. The steps of the grammar are tied together by a bound on their depth, which grows
with the number of tokens and is never reached before the tokens are. -/

namespace ConventionLint.Grammar

def step (r : Reader) : Reader
  | .expression strength => expression r strength
  | .operand strength => operand r strength
  | .clause => clauseExpression r
  | .typeForm bounded => typeForm r bounded
  | .casePattern => casePattern r
  | .suite => suite r

def readBounded : Nat → Reader
  | 0, _ => Parser.fail
  | n + 1, g => step (readBounded n) g

def programStatements (r : Reader) : Parser (List Concrete) := do
  let body ← Parser.many do
    match ← Parser.peek with
    | none => return none
    | some _ => return some (← statements r)
  return body.flatten

def significantTokens (text : List Char) : List Token :=
  (layout (scan text)).filter fun t => !t.isComment

/-- A program begins at its first token or comment, or at its end if it has none. -/
def programSpan (text : List Char) : Span :=
  let stop := Position.initial.advanceAll text
  match scan text with
  | t :: _ => ⟨t.span.start, stop⟩
  | [] => ⟨stop, stop⟩

/-- The earlier one of a failure and of the place where the scan of the text has got stuck: a bracket
that is never closed is to blame for what does not fit behind it. -/
def blame (tokens : List Token) (f : Failure) : Failure :=
  match tokens.find? fun t => t.lexeme == .invalid with
  | some t => if t.span.start.offset < f.position.offset then ⟨t.span.start⟩ else f
  | none => f

def parse (text : List Char) : Except Failure Concrete :=
  let tokens := significantTokens text
  let r := readBounded (8 * tokens.length + 16)
  match programStatements r ⟨tokens, .initial⟩ with
  | .ok (body, _) => .ok (.node .module none (programSpan text) body)
  | .error e => .error (blame tokens e)

end ConventionLint.Grammar
