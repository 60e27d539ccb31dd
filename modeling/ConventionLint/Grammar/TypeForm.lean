import ConventionLint.Grammar.Goal

/-! Types in annotations, type parameters and type aliases. A name with brackets is a generic type;
anything else is read as an expression first. -/

namespace ConventionLint.Grammar
open ConventionLint.Grammar.Parser

def typeParameters (r : Reader) : Parser Concrete := node .typeParameter do
  let _ ← symbol "["
  let (ps, _) ← commaList (r (.typeForm true)) (· == some (.symbol "]"))
  let _ ← symbol "]"
  return ps

def typeHead (r : Reader) : Parser Concrete := node .type do
  match ← peek, ← peekSecond with
  | some (.symbol "*"), _ => return [← node .splatType do let _ ← take; return [← anyName]]
  | some (.symbol "**"), _ => return [← node .splatType do let _ ← take; return [← anyName]]
  | some (.word w), some (.symbol "[") =>
    if isReserved w then fail
    else
      let base ← name
      return [← extend .genericType base do return [← typeParameters r]]
  | _, _ => return [← r (.expression Strength.or)]

def wrapType (first : Concrete) (kind : Kind) (p : Parser (List Concrete)) : Parser Concrete := do
  let inner ← extend kind first p
  return .node .type none inner.span [inner]

def typeTail (r : Reader) (bounded : Bool) (t : Concrete) : Parser (Option Concrete) := do
  match ← peek with
  | some (.symbol "|") => some <$> wrapType t .unionType do
      let _ ← take
      return [← typeHead r]
  | some (.symbol ".") => some <$> wrapType t .memberType do
      let _ ← take
      return [← anyName]
  | some (.symbol ":") =>
    if bounded then
      some <$> wrapType t .constrainedType do
        let _ ← take
        return [← r (.typeForm true)]
    else return none
  | _ => return none

def typeForm (r : Reader) (bounded : Bool) : Parser Concrete := do
  grow (typeTail r bounded) (← typeHead r)

end ConventionLint.Grammar
