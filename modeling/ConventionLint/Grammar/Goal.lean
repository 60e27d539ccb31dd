import ConventionLint.Grammar.Stream

/-! What a part of a program can be read as, with the strengths of the operators from the weakest on. The grammar is
given by one step per goal, in which smaller goals are left to a reader of goals; tying the knot is the business of
`ConventionLint.Grammar.Program`. -/

namespace ConventionLint.Grammar

namespace Strength

def conditional : Nat := 1
def binding : Nat := 2
def or : Nat := 12
def and : Nat := 13
def not : Nat := 14
def comparison : Nat := 15
def bitOr : Nat := 16
def bitAnd : Nat := 17
def bitXor : Nat := 18
def shift : Nat := 19
def sum : Nat := 20
def product : Nat := 21
def sign : Nat := 22
def power : Nat := 23
def call : Nat := 24

end Strength

inductive Goal where
  | expression (strength : Nat)
  | operand (strength : Nat)
  | clause
  /-- A type in an annotation; `true` inside of brackets, where a bound may follow it. -/
  | typeForm (bounded : Bool)
  | casePattern
  | suite
  deriving DecidableEq, Repr

abbrev Reader := Goal → Parser Concrete

namespace Reader

def full (r : Reader) : Parser Concrete := r (.expression Strength.conditional)

end Reader

def reservedWords : List String :=
  ["False", "None", "True", "and", "as", "assert", "break", "class", "continue", "def", "del", "elif",
   "else", "except", "finally", "for", "from", "global", "if", "import", "in", "is", "lambda",
   "nonlocal", "not", "or", "pass", "raise", "return", "try", "while", "with", "yield"]

def isReserved (w : String) : Bool := reservedWords.contains w

namespace Parser

def anyName : Parser Concrete := do
  match ← peek with
  | some (.word _) => leaf .identifier
  | _ => fail

def name : Parser Concrete := do
  match ← peek with
  | some (.word w) => if isReserved w then fail else leaf .identifier
  | _ => fail

def startsExpression : Option Lexeme → Bool
  | some (.word w) => !isReserved w || ["False", "None", "True", "lambda", "not"].contains w
  | some .integer => true
  | some .float => true
  | some .stringOpen => true
  | some (.symbol s) => ["(", "[", "\x7b", "...", "-", "+", "~", "*"].contains s
  | _ => false

def startsOperand : Option Lexeme → Bool
  | some (.word w) => !isReserved w || ["False", "None", "True"].contains w
  | l => startsExpression l

end Parser

end ConventionLint.Grammar
