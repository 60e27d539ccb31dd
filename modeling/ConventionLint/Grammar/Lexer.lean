import ConventionLint.Grammar.Numeral
import ConventionLint.Grammar.Token
import ConventionLint.Text.CharClass

/-! From characters to tokens, without layout. A stack of openings says what surrounds the current
place: brackets, string literals and the holes and format specifiers of formatted ones. Every cut
takes a length off the text, so the tokens and the blanks between them make up the text. -/

namespace ConventionLint.Grammar

structure Delimiter where
  quote : Char
  triple : Bool
  raw : Bool
  format : Bool
  deriving DecidableEq, Repr

def Delimiter.closing (d : Delimiter) : List Char :=
  if d.triple then [d.quote, d.quote, d.quote] else [d.quote]

inductive Opening where
  | bracket (start : Position)
  | literal (start : Position) (d : Delimiter)
  | hole (start : Position)
  | format (start : Position)
  deriving DecidableEq, Repr

def Opening.start : Opening → Position
  | .bracket p => p
  | .literal p _ => p
  | .hole p => p
  | .format p => p

structure Gap where
  length : Nat
  lead : Option Nat
  deriving DecidableEq, Repr

def gapFrom (taken : Nat) (broken : Bool) (indent : Nat) : List Char → Gap
  | [] => ⟨taken, if broken then some 0 else none⟩
  | '\\' :: '\r' :: '\n' :: cs => gapFrom (taken + 3) broken indent cs
  | '\\' :: '\n' :: cs => gapFrom (taken + 2) broken indent cs
  | c :: cs =>
    if c = '\n' then gapFrom (taken + 1) true 0 cs
    else if c = ' ' then gapFrom (taken + 1) broken (indent + 1) cs
    else if c = '\t' then gapFrom (taken + 1) broken (indent + 8) cs
    else if c = '\r' ∨ c = '\x0c' then gapFrom (taken + 1) broken 0 cs
    else if c = '\x0b' ∨ c = '\uFEFF' ∨ c = '\u2060' ∨ c = '\u200B' then
      gapFrom (taken + 1) broken indent cs
    else ⟨taken, if broken then some indent else none⟩

def gap (cs : List Char) : Gap := gapFrom 0 false 0 cs

structure Cut where
  lexeme : Lexeme
  length : Nat
  stack : List Opening
  deriving DecidableEq, Repr

def opening? (mark : List Char) : List Char → Option (Delimiter × Nat)
  | q :: cs =>
    let make (triple : Bool) : Delimiter :=
      { quote := q, triple, raw := mark.any fun c => c == 'r' || c == 'R',
        format := mark.any fun c => c == 'f' || c == 'F' }
    if q = '`' then some (make false, 1)
    else if q = '\'' ∨ q = '"' then
      match cs with
      | a :: b :: _ => if a = q ∧ b = q then some (make true, 3) else some (make false, 1)
      | _ => some (make false, 1)
    else none
  | [] => none

def isStringMark (c : Char) : Bool := ['f', 'F', 'r', 'R', 'b', 'B', 'u', 'U'].contains c

def symbols : List String :=
  ["...", "**=", "//=", ">>=", "<<=",
   "->", ":=", "+=", "-=", "*=", "/=", "@=", "%=", "&=", "^=", "|=", "**", "//", "<<", ">>", "<=", ">=",
   "==", "!=", "<>",
   "(", ")", "[", "]", "\x7b", "\x7d", ",", ":", ".", ";", "=", "+", "-", "*", "/", "%", "@", "<", ">",
   "&", "|", "^", "~"]

def startsWith : List Char → List Char → Bool
  | [], _ => true
  | _ :: _, [] => false
  | p :: ps, c :: cs => p == c && startsWith ps cs

/-- The longest symbol at the head of a text; longer symbols come first in the list. -/
def symbol? (cs : List Char) : Option String := symbols.find? fun s => startsWith s.toList cs

def closesBracket (s : String) : Bool := s == ")" || s == "]" || s == "\x7d"

def opensBracket (s : String) : Bool := s == "(" || s == "[" || s == "\x7b"

/-- A cut outside string literals. `bare` tells that a hole holds nothing yet but one name: only then
does a colon before an equals sign belong to it. -/
def codeCut (position : Position) (stack : List Opening) (bare : Bool) (cs : List Char) : Cut :=
  let whole (lexeme : Lexeme) (n : Nat) : Cut := ⟨lexeme, n, stack⟩
  match cs with
  | [] => whole .invalid 0
  | c :: rest =>
    if c = '#' then whole .comment (cs.takeWhile (· ≠ '\n')).length
    else if c.isDigit ∨ (c = '.' ∧ (rest.head?.any Char.isDigit)) then
      match Numeral.float? cs, Numeral.integer? cs with
      | some f, some i => if i < f then whole .float f else whole .integer i
      | some f, none => whole .float f
      | none, some i => whole .integer i
      | none, none => whole .invalid 1
    else
      let mark := cs.takeWhile isStringMark
      match opening? mark (cs.drop mark.length) with
      | some (d, n) => ⟨.stringOpen, mark.length + n, .literal position d :: stack⟩
      | none =>
        if Text.isIdentifierStart c then
          let name := c :: rest.takeWhile Text.isIdentifierContinue
          whole (.word (String.ofList name)) name.length
        else
          let inHole := match stack with
            | .hole _ :: _ => true
            | _ => false
          match symbol? cs, inHole, stack with
          | some ":", true, _ => ⟨.formatOpen, 1, .format position :: stack⟩
          | some ":=", true, _ =>
            if bare then whole (.symbol ":=") 2 else ⟨.formatOpen, 1, .format position :: stack⟩
          | some "\x7d", true, _ :: outer => ⟨.holeClose, 1, outer⟩
          | some s, _, _ =>
            if opensBracket s then ⟨.symbol s, s.length, .bracket position :: stack⟩
            else if closesBracket s then
              match stack with
              | .bracket _ :: outer => ⟨.symbol s, s.length, outer⟩
              | _ => ⟨.symbol s, s.length, stack⟩
            else ⟨.symbol s, s.length, stack⟩
          | none, true, _ =>
            match cs with
            | '!' :: k :: _ => if k.isLower then whole .conversion 2 else whole .invalid 1
            | _ => whole .invalid 1
          | none, false, _ => whole .invalid 1

def namedEscape : List Char → Nat
  | '\\' :: 'N' :: '\x7b' :: cs =>
    let name := cs.takeWhile (· ≠ '\x7d')
    if name.isEmpty ∨ name.length = cs.length then 0 else 4 + name.length
  | _ => 0

def escape (d : Delimiter) (cs : List Char) : Nat :=
  match cs with
  | '\\' :: '\r' :: '\n' :: _ => 3
  | '\\' :: c :: _ =>
    if c = '\\' ∨ c = '\n' then 2
    else if d.raw then (if c = d.quote then 2 else 1)
    else if c = '\'' ∨ c = '"' then 2
    else
      let n := namedEscape cs
      if n = 0 then 1 else n
  | '\\' :: [] => 1
  | _ => 0

def plainLength (d : Delimiter) : Nat → List Char → Nat
  | 0, _ => 0
  | _, [] => 0
  | n + 1, c :: cs =>
    let e := escape d (c :: cs)
    if 0 < e then e + plainLength d n ((c :: cs).drop e)
    else if startsWith d.closing (c :: cs) then 0
    else if c = '\n' ∧ !d.triple then 0
    else if d.format ∧ (c = '\x7b' ∨ c = '\x7d') then
      match cs with
      | k :: rest => if k = c then 2 + plainLength d n rest else 0
      | [] => 0
    else 1 + plainLength d n cs

def literalCut (position start : Position) (d : Delimiter) (outer : List Opening) (cs : List Char) : Cut :=
  if startsWith d.closing cs then ⟨.stringClose, d.closing.length, outer⟩
  else
    match cs with
    | '\x7b' :: _ =>
      if d.format then ⟨.holeOpen, 1, .hole position :: .literal start d :: outer⟩ else ⟨.invalid, 0, outer⟩
    | _ => ⟨.invalid, 0, outer⟩

structure Scan where
  position : Position
  stack : List Opening
  sinceHole : Option (List Lexeme)
  deriving Repr

def Scan.initial : Scan := ⟨.initial, [], none⟩

def Scan.bare (s : Scan) : Bool :=
  match s.sinceHole with
  | some [.word _] => true
  | _ => false

def Scan.after (s : Scan) (c : Cut) (stop : Position) : Scan :=
  let sinceHole := match c.lexeme with
    | .holeOpen => some []
    | .holeClose => none
    | l => s.sinceHole.map (l :: ·)
  ⟨stop, c.stack, sinceHole⟩

/-- The scan of a text; the first argument bounds the number of cuts. After an invalid token nothing
more is read; its place is that of the unfinished string or unclosed bracket, if there is one. -/
def scanFrom : Nat → Scan → List Char → List Token
  | 0, _, _ => []
  | n + 1, s, cs =>
    let stopped (p : Position) (lead : Option Nat) : List Token := [⟨.invalid, ⟨p, p⟩, lead⟩]
    let emit (c : Cut) (start : Position) (lead : Option Nat) (cs : List Char) : List Token :=
      let stop := start.advanceAll (cs.take c.length)
      ⟨c.lexeme, ⟨start, stop⟩, lead⟩ :: scanFrom n (s.after c stop) (cs.drop c.length)
    match s.stack with
    | .literal start d :: outer =>
      let skipped := plainLength d cs.length cs
      let here := s.position.advanceAll (cs.take skipped)
      let rest := cs.drop skipped
      let c := literalCut here start d outer rest
      if c.lexeme = .invalid then stopped start none else emit c here none rest
    | .format start :: outer =>
      let skipped := (cs.takeWhile fun c => c ≠ '\x7b' ∧ c ≠ '\x7d' ∧ c ≠ '\n').length
      let here := s.position.advanceAll (cs.take skipped)
      let rest := cs.drop skipped
      match rest, outer with
      | '\x7b' :: _, _ => emit ⟨.holeOpen, 1, .hole here :: s.stack⟩ here none rest
      | '\x7d' :: _, _ :: beyond => emit ⟨.holeClose, 1, beyond⟩ here none rest
      | _, _ => stopped start none
    | stack =>
      let g := gap cs
      let here := s.position.advanceAll (cs.take g.length)
      let rest := cs.drop g.length
      if rest.isEmpty then
        match stack with
        | opening :: _ => stopped opening.start none
        | [] => []
      else
        let c := codeCut here stack s.bare rest
        let lead := if stack.isEmpty then g.lead else none
        if c.lexeme = .invalid then stopped here lead else emit c here lead rest

def scan (cs : List Char) : List Token := scanFrom (cs.length + 1) .initial cs

end ConventionLint.Grammar
