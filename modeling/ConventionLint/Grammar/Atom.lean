import ConventionLint.Grammar.Comprehension

/-! Expressions that need no operator: names, constants, literals, what stands in brackets, and these
followed by attributes, subscripts and calls. -/

namespace ConventionLint.Grammar
open ConventionLint.Grammar.Parser

def expressionList (r : Reader) (stops : Option Lexeme → Bool) : Parser Concrete := do
  let start ← here
  let (items, comma) ← commaList r.full stops
  match items, comma with
  | [item], false => return item
  | _, _ => return .node .expressionList none ⟨start, (← get).last⟩ items

def expressions (r : Reader) : Parser Concrete := expressionList r fun l => !startsExpression l

def yieldExpression (r : Reader) : Parser Concrete := node .yield do
  let _ ← keyword "yield"
  if ← accept (.word "from") then return [← r.full]
  else if startsExpression (← peek) then return [← expressions r]
  else return []

def expressionOrYield (r : Reader) : Parser Concrete := do
  if ← isNext (.word "yield") then yieldExpression r else expressions r

/-- The format specifier of a hole: only the holes inside of it are kept. -/
def formatSpecifier (hole : Kind → Parser Concrete) : Parser Concrete := node .formatSpecifier do
  let _ ← expect .formatOpen
  many do
    if ← isNext .holeOpen then return some (← hole .formatExpression) else return none

def holeBounded (r : Reader) : Nat → Kind → Parser Concrete
  | 0, _ => fail
  | n + 1, kind => node kind do
    let _ ← expect .holeOpen
    let value ← expressionOrYield r
    let _ ← accept (.symbol "=")
    let converted ← if ← isNext .conversion then pure [← leaf .typeConversion] else pure []
    let format ←
      if ← isNext .formatOpen then pure [← formatSpecifier (holeBounded r n)] else pure []
    let _ ← expect .holeClose
    return value.withRole .expression :: converted ++ format

def stringLiteral (r : Reader) : Parser Concrete := node .string do
  let _ ← expect .stringOpen
  let holes ← many do
    if ← isNext .holeOpen then
      return some (← holeBounded r (← get).tokens.length .interpolation)
    else return none
  let _ ← expect .stringClose
  return holes

def strings (r : Reader) : Parser Concrete := do
  let first ← stringLiteral r
  if ← isNext .stringOpen then
    extend .concatenatedString first <| many do
      if ← isNext .stringOpen then return some (← stringLiteral r) else return none
  else return first

def starred (r : Reader) : Parser Concrete := node .listSplat do
  let _ ← symbol "*"
  return [← r.full]

def doubleStarred (r : Reader) : Parser Concrete := node .dictionarySplat do
  let _ ← symbol "**"
  return [← r.full]

def element (r : Reader) : Parser Concrete := do
  if ← isNext (.symbol "*") then starred r
  else if ← isNext (.word "yield") then yieldExpression r
  else r.full

def elementsAfter (r : Reader) (first : Concrete) (closing : String) : Parser (List Concrete × Bool) := do
  let rest ← many do
    if ← accept (.symbol ",") then
      if ← isNext (.symbol closing) then return some none else return some (some (← element r))
    else return none
  return (first :: rest.filterMap id, !rest.isEmpty)

def parenthesized (r : Reader) : Parser Concrete := do
  let start ← here
  let make (kind : Kind) (cs : List Concrete) : Parser Concrete := do
    let _ ← symbol ")"
    return .node kind none ⟨start, (← get).last⟩ cs
  let _ ← symbol "("
  if ← isNext (.symbol ")") then make .tuple []
  else
    let first ← element r
    if ← atLoopClause then
      let clauses ← comprehensionClauses r
      make .generatorExpression (first.withRole .body :: clauses)
    else
      let (items, comma) ← elementsAfter r first ")"
      if comma then make .tuple items else make .parenthesizedExpression items

def bracketed (r : Reader) : Parser Concrete := do
  let start ← here
  let make (kind : Kind) (cs : List Concrete) : Parser Concrete := do
    let _ ← symbol "]"
    return .node kind none ⟨start, (← get).last⟩ cs
  let _ ← symbol "["
  if ← isNext (.symbol "]") then make .list []
  else
    let first ← element r
    if ← atLoopClause then
      let clauses ← comprehensionClauses r
      make .listComprehension (first.withRole .body :: clauses)
    else
      let (items, _) ← elementsAfter r first "]"
      make .list items

def pairAfter (r : Reader) (key : Concrete) : Parser Concrete := extend .pair (key.withRole .key) do
  let _ ← symbol ":"
  return [(← r.full).withRole .value]

def dictionaryEntry (r : Reader) : Parser Concrete := do
  if ← isNext (.symbol "**") then doubleStarred r else pairAfter r (← r.full)

def dictionaryAfter (r : Reader) (first : Concrete) : Parser (List Concrete) := do
  let rest ← many do
    if ← accept (.symbol ",") then
      if ← isNext (.symbol "\x7d") then return some none else return some (some (← dictionaryEntry r))
    else return none
  return first :: rest.filterMap id

def braced (r : Reader) : Parser Concrete := do
  let start ← here
  let make (kind : Kind) (cs : List Concrete) : Parser Concrete := do
    let _ ← symbol "\x7d"
    return .node kind none ⟨start, (← get).last⟩ cs
  let _ ← symbol "\x7b"
  if ← isNext (.symbol "\x7d") then make .dictionary []
  else if ← isNext (.symbol "**") then make .dictionary (← dictionaryAfter r (← doubleStarred r))
  else
    let first ← element r
    if ← isNext (.symbol ":") then
      let pair ← pairAfter r first
      if ← atLoopClause then
        make .dictionaryComprehension (pair.withRole .body :: (← comprehensionClauses r))
      else make .dictionary (← dictionaryAfter r pair)
    else if ← atLoopClause then
      make .setComprehension (first.withRole .body :: (← comprehensionClauses r))
    else
      let (items, _) ← elementsAfter r first "\x7d"
      make .set items

def keywordArgument (r : Reader) : Parser Concrete := node .keywordArgument do
  let name ← anyName
  let _ ← symbol "="
  return [name.withRole .name, (← r.full).withRole .value]

def argument (r : Reader) : Parser Concrete := do
  match ← peek, ← peekSecond with
  | some (.symbol "*"), _ => starred r
  | some (.symbol "**"), _ => doubleStarred r
  | some (.word _), some (.symbol "=") => keywordArgument r
  | _, _ => r.full

def arguments (r : Reader) : Parser Concrete := do
  let start ← here
  let make (kind : Kind) (cs : List Concrete) : Parser Concrete := do
    let _ ← symbol ")"
    return .node kind none ⟨start, (← get).last⟩ cs
  let _ ← symbol "("
  if ← isNext (.symbol ")") then make .argumentList []
  else
    let first ← argument r
    if ← atLoopClause then
      make .generatorExpression (first.withRole .body :: (← comprehensionClauses r))
    else
      let rest ← many do
        if ← accept (.symbol ",") then
          if ← isNext (.symbol ")") then return some none else return some (some (← argument r))
        else return none
      make .argumentList (first :: rest.filterMap id)

def subscriptItem (r : Reader) : Parser Concrete := do
  let start ← here
  let bound : Parser (List Concrete) := do
    if startsExpression (← peek) then return [← r.full] else return []
  let lower ← bound
  if ← accept (.symbol ":") then
    let upper ← bound
    let step ← if ← accept (.symbol ":") then bound else pure []
    return .node .slice none ⟨start, (← get).last⟩ (lower ++ upper ++ step)
  else
    match lower with
    | [e] => return e
    | _ => fail

def trailer (r : Reader) (e : Concrete) : Parser (Option Concrete) := do
  match ← peek with
  | some (.symbol ".") =>
    some <$> extend .attribute (e.withRole .object) do
      let _ ← take
      return [(← anyName).withRole .attribute]
  | some (.symbol "[") =>
    some <$> extend .subscript (e.withRole .value) do
      let _ ← take
      let (items, _) ← commaList (subscriptItem r) (· == some (.symbol "]"))
      let _ ← symbol "]"
      return items
  | some (.symbol "(") =>
    some <$> extend .call (e.withRole .function) do
      return [(← arguments r).withRole .arguments]
  | _ => return none

def plainAtom (r : Reader) : Parser Concrete := do
  match ← peek with
  | some (.word "True") => leaf .true
  | some (.word "False") => leaf .false
  | some (.word "None") => leaf .none
  | some (.word _) => name
  | some .integer => leaf .integer
  | some .float => leaf .float
  | some .stringOpen => strings r
  | some (.symbol "...") => leaf .ellipsis
  | some (.symbol "(") => parenthesized r
  | some (.symbol "[") => bracketed r
  | some (.symbol "\x7b") => braced r
  | _ => fail

def isSplatTarget (e : Concrete) : Bool :=
  e.hasKind .identifier || e.hasKind .attribute || e.hasKind .subscript

/-- The longest run of trailers that ends in an attribute or subscript, with the stream after it. -/
def splatTarget (r : Reader) : Parser Concrete := do
  let first ← plainAtom r
  let s ← get
  let start := if isSplatTarget first then some (first, s) else none
  let (_, best) ← grow (fun (e, best) => do
    match ← trailer r e with
    | none => return none
    | some e =>
      let s ← get
      return some (e, if isSplatTarget e then some (e, s) else best)) (first, start)
  match best with
  | some (e, s) =>
    set s
    return e
  | none => fail

def splat (r : Reader) : Parser Concrete := node .listSplat do
  let _ ← symbol "*"
  return [← splatTarget r]

def atom (r : Reader) : Parser Concrete := do
  let first ← if ← isNext (.symbol "*") then splat r else plainAtom r
  grow (trailer r) first

end ConventionLint.Grammar
