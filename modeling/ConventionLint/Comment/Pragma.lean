import ConventionLint.Text.Cut
import ConventionLint.Text.Line
import ConventionLint.Text.Utf8

/-! Comments that switch messages off. Behind code a pragma holds for its own line; on a line of its
own it holds to the end of its block, which ends before the next line that is not blank and indented
less than the pragma. -/

namespace ConventionLint.Comment

inductive PragmaScope where
  | line | block
  deriving DecidableEq, Repr

structure Pragma where
  names : List String
  scope : PragmaScope
  deriving DecidableEq, Repr

namespace Pragma

def covers (p : Pragma) (symbol code : String) : Bool :=
  p.names.contains symbol || p.names.contains code || p.names.contains "all"

def afterWord? (word : String) (cs : List Char) : Option (List Char) :=
  (Text.dropHead? word.toList cs).map Text.trimStart

def isNameChar (c : Char) : Bool := c.isAlphanum || c == '_' || c == '-'

def isListChar (c : Char) : Bool := isNameChar c || c == ',' || Text.isBlank c

/-- The list of names in a pragma that begins right here. After the equals sign at least one blank or
character of a name or list has to follow. -/
def listAt? (cs : List Char) : Option (List Char) := do
  let cs ← afterWord? "#" cs
  let cs ← match afterWord? "pylint" cs with
    | some rest => some rest
    | none => afterWord? "edx-lint" cs
  let cs ← afterWord? ":" cs
  let cs ← afterWord? "disable" cs
  let cs ← Text.dropHead? ['='] cs
  let list := cs.takeWhile isListChar
  if list.isEmpty then none else some list

def list? : List Char → Option (List Char)
  | [] => none
  | c :: cs =>
    match listAt? (c :: cs) with
    | some list => some list
    | none => list? cs

def firstWord? (cs : List Char) : Option String :=
  let word := (Text.trimStart cs).takeWhile fun c => !Text.isBlank c
  if word.isEmpty then none else some (String.ofList word)

def namesIn (list : List Char) : List String :=
  ((Text.splitBy (· == ',') list).filterMap firstWord?).eraseDups

def ofLine? (line : List Char) : Option Pragma := do
  let names := namesIn (← list? line)
  if names.isEmpty then none
  else some ⟨names, if (Text.trimStart line).head? == some '#' then .block else .line⟩

end Pragma

def indentation (line : List Char) : Nat := Text.Utf8.size (line.takeWhile Text.isBlank)

def blockLines (indent : Nat) (lines : List (List Char)) : List (List Char) :=
  lines.takeWhile fun l => Text.allBlank l || indent ≤ indentation l

structure Suppression where
  first : Nat
  last : Nat
  pragma : Pragma
  deriving DecidableEq, Repr

namespace Suppression

def holdsFor (s : Suppression) (line : Nat) (symbol code : String) : Bool :=
  s.first ≤ line && line ≤ s.last && s.pragma.covers symbol code

def ofLines : Nat → List (List Char) → List Suppression
  | _, [] => []
  | n, line :: rest =>
    match Pragma.ofLine? line with
    | none => ofLines (n + 1) rest
    | some p =>
      let last := match p.scope with
        | .line => n
        | .block => n + (blockLines (indentation line) rest).length
      ⟨n, last, p⟩ :: ofLines (n + 1) rest

def ofText (text : List Char) : List Suppression := ofLines 1 (Text.lines text)

end Suppression

def isSuppressed (suppressions : List Suppression) (line : Nat) (symbol code : String) : Bool :=
  suppressions.any fun s => s.holdsFor line symbol code

end ConventionLint.Comment
