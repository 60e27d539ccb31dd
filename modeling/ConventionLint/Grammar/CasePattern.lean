import ConventionLint.Grammar.Atom

/-! The patterns of match statements. The blank `_` and the sign of a number leave no node of their
own; numbers joined by a sign make a complex pattern. -/

namespace ConventionLint.Grammar
open ConventionLint.Grammar.Parser

def dottedName : Parser Concrete := node .dottedName do
  let first ← anyName
  let rest ← many do
    if ← accept (.symbol ".") then return some (← anyName) else return none
  return first :: rest

def patternsUpTo (r : Reader) (closing : String) : Parser (List Concrete) := do
  if ← accept (.symbol closing) then return []
  let (ps, _) ← commaList (r .casePattern) (· == some (.symbol closing))
  let _ ← symbol closing
  return ps

def number : Parser Concrete := do
  match ← peek with
  | some .integer => leaf .integer
  | some .float => leaf .float
  | _ => fail

def numberPattern : Parser (List Concrete) := do
  let start ← here
  let _ ← accept (.symbol "-")
  let first ← number
  match ← peek with
  | some (.symbol s) =>
    if s = "+" ∨ s = "-" then
      let _ ← take
      let second ← number
      return [.node .complexPattern none ⟨start, (← get).last⟩ [first, second]]
    else return [first]
  | _ => return [first]

def splatPattern (star : String) : Parser Concrete := node .splatPattern do
  let _ ← symbol star
  if ← accept (.word "_") then return [] else return [← anyName]

/-- An alternative of a pattern. It gives one node, or none for the blank. -/
def simplePattern (r : Reader) : Parser (List Concrete) := do
  match ← peek with
  | some (.symbol "*") => return [← splatPattern "*"]
  | some (.symbol "**") => return [← splatPattern "**"]
  | some (.symbol "(") => return [← node .tuplePattern do let _ ← take; patternsUpTo r ")"]
  | some (.symbol "[") => return [← node .listPattern do let _ ← take; patternsUpTo r "]"]
  | some (.symbol "-") => numberPattern
  | some .integer => numberPattern
  | some .float => numberPattern
  | some .stringOpen => return [← strings r]
  | some (.word "True") => return [← leaf .true]
  | some (.word "False") => return [← leaf .false]
  | some (.word "None") => return [← leaf .none]
  | some (.word w) =>
    if isReserved w then fail
    else if w = "_" ∧ (← peekSecond) ≠ some (.symbol ".") ∧ (← peekSecond) ≠ some (.symbol "(") then
      let _ ← take
      return []
    else
      let head ← dottedName
      if ← isNext (.symbol "(") then
        return [← extend .classPattern head do let _ ← take; patternsUpTo r ")"]
      else return [head]
  | _ => fail

def unionOf (start : Position) (first : List Concrete) (one : Parser (List Concrete)) :
    Parser (List Concrete) := do
  let rest ← many do
    if ← accept (.symbol "|") then return some (← one) else return none
  if rest.isEmpty then return first
  else return [.node .unionPattern none ⟨start, (← get).last⟩ (first ++ rest.flatten)]

def mappingPattern (r : Reader) (one : Parser (List Concrete)) : Parser Concrete := node .dictPattern do
  let _ ← symbol "\x7b"
  if ← accept (.symbol "\x7d") then return []
  let entry : Parser (List Concrete) := do
    match ← peek with
    | some (.symbol "**") => return [← splatPattern "**"]
    | some (.symbol "*") => return [← splatPattern "*"]
    | _ =>
      let key ← unionOf (← here) (← one) one
      let _ ← symbol ":"
      return key.map (Concrete.withRole .key) ++ [(← r .casePattern).withRole .value]
  let (entries, _) ← commaList entry (· == some (.symbol "\x7d"))
  let _ ← symbol "\x7d"
  return entries.flatten

def alternativeBounded (r : Reader) : Nat → Parser (List Concrete)
  | 0 => fail
  | n + 1 => do
    if ← isNext (.symbol "\x7b") then return [← mappingPattern r (alternativeBounded r n)]
    else simplePattern r

def alternative (r : Reader) : Parser (List Concrete) := do
  alternativeBounded r (← get).tokens.length

def keywordPattern (r : Reader) : Parser Concrete := node .keywordPattern do
  let name ← anyName
  let _ ← symbol "="
  let value ← unionOf (← here) (← alternative r) (alternative r)
  return name :: value

def casePattern (r : Reader) : Parser Concrete := do
  let start ← here
  let first ← node .casePattern do
    match ← peek, ← peekSecond with
    | some (.word _), some (.symbol "=") => return [← keywordPattern r]
    | _, _ => unionOf start (← alternative r) (alternative r)
  grow (fun p => do
    if ← accept (.word "as") then
      let name ← anyName
      let span : Span := ⟨start, (← get).last⟩
      return some (.node .casePattern none span [.node .asPattern none span [p, name]])
    else return none) first

end ConventionLint.Grammar
