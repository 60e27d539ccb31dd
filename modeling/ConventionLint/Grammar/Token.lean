import ConventionLint.Text.Utf8

/-! Places in a source text and its tokens. Lines count from one and end at line feeds only; columns count from zero
and, like offsets, in bytes of the UTF-8 text. String literals are not single tokens: a formatted one contains holes,
and the tokens of a hole stand between its `holeOpen` and `holeClose`. The layout tokens `newline`, `indent` and
`dedent` are of width zero. -/

namespace ConventionLint.Grammar

structure Position where
  line : Nat
  column : Nat
  offset : Nat
  deriving DecidableEq, Repr

def Position.initial : Position := ⟨1, 0, 0⟩

def Position.advance (p : Position) (c : Char) : Position :=
  if c = '\n' then ⟨p.line + 1, 0, p.offset + 1⟩
  else ⟨p.line, p.column + c.utf8Size, p.offset + c.utf8Size⟩

def Position.advanceAll (p : Position) (cs : List Char) : Position := cs.foldl Position.advance p

structure Span where
  start : Position
  stop : Position
  deriving DecidableEq, Repr

def Span.length (s : Span) : Nat := s.stop.offset - s.start.offset

theorem Position.offset_advance (p : Position) (c : Char) :
    (p.advance c).offset = p.offset + c.utf8Size := by
  unfold Position.advance
  split
  · next h => subst h; rfl
  · rfl

theorem Position.offset_advanceAll (p : Position) (cs : List Char) :
    (p.advanceAll cs).offset = p.offset + Text.Utf8.size cs := by
  induction cs generalizing p with
  | nil => rfl
  | cons c cs ih =>
    have h := ih (p.advance c)
    simp only [Position.advanceAll, List.foldl_cons, Text.Utf8.size] at h ⊢
    rw [h, Position.offset_advance, Nat.add_assoc]

inductive Lexeme where
  | word (text : String)
  | integer
  | float
  | symbol (text : String)
  | stringOpen
  | stringClose
  | holeOpen
  | holeClose
  | conversion
  | formatOpen
  | newline
  | indent
  | dedent
  | comment
  | invalid
  deriving DecidableEq, Repr

structure Token where
  lexeme : Lexeme
  span : Span
  /-- The indentation of the line, when a line break stands between this token and the one before and
  nothing is open there. -/
  lead : Option Nat
  deriving DecidableEq, Repr

end ConventionLint.Grammar
