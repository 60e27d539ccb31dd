import ConventionLint.Ignore.Pattern
import ConventionLint.Text.Line
import ConventionLint.Text.Cut

/-! The rules of one ignore file. Each line is a rule; the last rule that fits a path decides. A line
with a pattern that cannot be read is passed over. -/

namespace ConventionLint.Ignore
open ConventionLint.Text (Bytes)

inductive Verdict where
  | ignored
  /-- Taken in whatever rules of less weight say. -/
  | kept
  deriving DecidableEq, Repr

structure Rule where
  verdict : Verdict
  onlyDirectories : Bool
  pieces : List Piece
  deriving Repr

structure RuleSet where
  rules : List Rule
  isFaulty : Bool
  deriving Repr

def endsWith (ending cs : List Char) : Bool := (Text.dropHead? ending.reverse cs.reverse).isSome

def trimLine (line : List Char) : List Char :=
  if endsWith ['\\', ' '] line then line else Text.trimEnd line

structure Line where
  verdict : Verdict
  isAnchored : Bool
  onlyDirectories : Bool
  pattern : List Char
  deriving DecidableEq, Repr

def markOf (line : List Char) : Verdict × Bool × List Char :=
  match line with
  | '\\' :: '!' :: rest => (.ignored, false, '!' :: rest)
  | '\\' :: '#' :: rest => (.ignored, false, '#' :: rest)
  | '!' :: '/' :: rest => (.kept, true, rest)
  | '!' :: rest => (.kept, false, rest)
  | '/' :: rest => (.ignored, true, rest)
  | _ => (.ignored, false, line)

def withoutSlash (cs : List Char) : Bool × List Char :=
  match cs.reverse with
  | '/' :: '\\' :: rest => (true, rest.reverse)
  | '/' :: rest => (true, rest.reverse)
  | _ => (false, cs)

def atAnyDepth (cs : List Char) : List Char :=
  let isDeep : Bool := (Text.dropHead? ['*', '*', '/'] cs).isSome || cs == ['*', '*']
  if isDeep then cs else ['*', '*', '/'] ++ cs

/-- What is below a directory is not the directory. -/
def belowOnly (cs : List Char) : List Char :=
  if endsWith ['/', '*', '*'] cs then cs ++ ['/', '*'] else cs

def Line.ofText? (text : List Char) : Option Line :=
  let line := trimLine text
  if text.head? = some '#' ∨ line.isEmpty then none
  else
    let (verdict, isAnchored, rest) := markOf line
    let (onlyDirectories, rest) := withoutSlash rest
    let pattern := if isAnchored || rest.contains '/' then rest else atAnyDepth rest
    some ⟨verdict, isAnchored, onlyDirectories, belowOnly pattern⟩

def Line.rule? (l : Line) : Option Rule :=
  (read? l.pattern).map fun pieces => ⟨l.verdict, l.onlyDirectories, pieces⟩

def byteLines : Bytes → List Bytes
  | [] => []
  | b :: bs =>
    if b = 10 then [] :: byteLines bs
    else match byteLines bs with
      | [] => [[b]]
      | line :: rest => (b :: line) :: rest

def wellFormed : List Bytes → List (List Char)
  | [] => []
  | l :: ls =>
    match Text.Utf8.decode? l with
    | some text => text :: wellFormed ls
    | none => []

def withoutMark : List (List Char) → List (List Char)
  | first :: rest => first.dropWhile (· == '\uFEFF') :: rest
  | [] => []

namespace RuleSet

def none : RuleSet := ⟨[], false⟩

def ofContent (content : Bytes) : RuleSet :=
  let texts := withoutMark (wellFormed (byteLines content))
  let read := (texts.filterMap Line.ofText?).map Line.rule?
  ⟨read.filterMap id, read.any Option.isNone⟩

def verdict? (s : RuleSet) (path : Bytes) (isDirectory : Bool) : Option Verdict :=
  (s.rules.reverse.find? fun r =>
    (isDirectory || !r.onlyDirectories) && fitsPath r.pieces path).map Rule.verdict

end RuleSet

end ConventionLint.Ignore
