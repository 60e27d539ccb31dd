import ConventionLint.Grammar.Concrete
import ConventionLint.Grammar.Goal

/-! Targets of assignments and loops, and the clauses of comprehensions. A target is read as an expression first and
then turned into a pattern; an expression that is none gives nothing. A single name in parentheses is a pattern of
one element. -/

namespace ConventionLint.Grammar.Concrete

mutual

def toPattern? : Concrete → Option Concrete
  | .token .. => none
  | .node k r s cs =>
    match k with
    | .identifier => some (.node k r s cs)
    | .attribute => some (.node k r s cs)
    | .subscript => some (.node k r s cs)
    | .listSplatPattern => some (.node k r s cs)
    | .tuplePattern => some (.node k r s cs)
    | .listPattern => some (.node k r s cs)
    | .listSplat =>
      match cs with
      | [.node .identifier ..] => some (.node .listSplatPattern r s cs)
      | [.node .attribute ..] => some (.node .listSplatPattern r s cs)
      | [.node .subscript ..] => some (.node .listSplatPattern r s cs)
      | _ => none
    | .parenthesizedExpression => (toPatterns? cs).map (.node .tuplePattern r s)
    | .tuple => (toPatterns? cs).map (.node .tuplePattern r s)
    | .list => (toPatterns? cs).map (.node .listPattern r s)
    | _ => none

def toPatterns? : List Concrete → Option (List Concrete)
  | [] => some []
  | c :: cs => do
    let p ← toPattern? c
    let ps ← toPatterns? cs
    return p :: ps

end

theorem toPatternsCons {c : Concrete} {cs ds : List Concrete} (found : toPatterns? (c :: cs) = some ds) :
    ∃ p ps, toPattern? c = some p ∧ toPatterns? cs = some ps ∧ ds = p :: ps := by
  rw [toPatterns?] at found
  obtain ⟨p,first,found⟩ := Option.bind_eq_some_iff.mp found
  obtain ⟨ps,rest,found⟩ := Option.bind_eq_some_iff.mp found
  exact ⟨p,ps,first,rest,(Option.some.inj found).symm⟩

end ConventionLint.Grammar.Concrete

namespace ConventionLint.Grammar
open ConventionLint.Grammar.Parser

def targetItem (r : Reader) : Parser Concrete := do
  let e ← r (.operand Strength.call)
  match e.toPattern? with
  | some p => return p
  | none => throw ⟨e.span.start⟩

def loopTarget (r : Reader) : Parser Concrete := do
  let start ← here
  let (items, comma) ← commaList (targetItem r) (· == some (.word "in"))
  match items, comma with
  | [item], false => return item
  | _, _ => return .node .patternList none ⟨start, (← get).last⟩ items

def atLoopClause : Parser Bool := do
  match ← peek, ← peekSecond with
  | some (.word "for"), _ => return true
  | some (.word "async"), some (.word "for") => return true
  | _, _ => return false

def loopClause (r : Reader) : Parser Concrete := node .forInClause do
  let _ ← accept (.word "async")
  let _ ← keyword "for"
  let target ← loopTarget r
  let _ ← keyword "in"
  let (iterables, _) ← commaList (r .clause) (fun l => !startsExpression l)
  return target.withRole .left :: iterables.map (Concrete.withRole .right)

def conditionClause (r : Reader) : Parser Concrete := node .ifClause do
  let _ ← keyword "if"
  return [← r .clause]

def comprehensionClauses (r : Reader) : Parser (List Concrete) := do
  let first ← loopClause r
  let rest ← many do
    if ← atLoopClause then return some (← loopClause r)
    else if ← isNext (.word "if") then return some (← conditionClause r)
    else return none
  return first :: rest

end ConventionLint.Grammar
