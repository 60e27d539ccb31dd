import ConventionLint.Grammar.CasePattern
import ConventionLint.Grammar.Expression

/-! Statements on one line. A statement begun by a word such as `print` is read as an expression where
it can be one; only then the older statement forms apply. -/

namespace ConventionLint.Grammar
open ConventionLint.Grammar.Parser

def endsStatement : Option Lexeme → Bool
  | some .newline => true
  | some (.symbol ";") => true
  | _ => false

def augmentedOperators : List String :=
  ["+=", "-=", "*=", "/=", "@=", "//=", "%=", "**=", ">>=", "<<=", "&=", "^=", "|="]

def targetOf (items : List Concrete) (comma : Bool) (span : Span) : Parser Concrete := do
  match Concrete.toPatterns? items with
  | none => fail
  | some [p] => if comma then return .node .patternList (some .left) span [p] else return p.withRole .left
  | some ps => return .node .patternList (some .left) span ps

def assignmentAfter (r : Reader) :
    Nat → Position → List Concrete → Bool → Parser (Option Concrete)
  | 0, _, _, _ => return none
  | n + 1, start, items, comma => do
    let span : Span := ⟨start, (← get).last⟩
    /- The assigned value, which may be an assignment itself. -/
    let value : Parser Concrete := do
      if ← isNext (.word "yield") then return (← yieldExpression r).withRole .right
      else
        let begin ← here
        let (es, c) ← commaList r.full fun l => !startsExpression l
        match ← assignmentAfter r n begin es c with
        | some a => return a.withRole .right
        | none =>
          match es, c with
          | [e], false => return e.withRole .right
          | _, _ => return .node .expressionList (some .right) ⟨begin, (← get).last⟩ es
    match ← peek with
    | some (.symbol "=") =>
      let target ← targetOf items comma span
      let _ ← take
      let v ← value
      return some (.node .assignment none ⟨start, (← get).last⟩ [target, v])
    | some (.symbol ":") =>
      let target ← targetOf items comma span
      let _ ← take
      let type ← r (.typeForm false)
      if ← accept (.symbol "=") then
        let v ← value
        return some (.node .assignment none ⟨start, (← get).last⟩ [target, type, v])
      else return some (.node .assignment none ⟨start, (← get).last⟩ [target, type])
    | some (.symbol s) =>
      if augmentedOperators.contains s then
        let target ← targetOf items comma span
        let _ ← take
        let v ← value
        return some (.node .augmentedAssignment none ⟨start, (← get).last⟩ [target, v])
      else return none
    | _ => return none

def expressionStatement (r : Reader) : Parser Concrete := node .expressionStatement do
  if ← isNext (.word "yield") then return [← yieldExpression r]
  else
    let start ← here
    let (items, comma) ← commaList r.full fun l => !startsExpression l
    match ← assignmentAfter r (← get).tokens.length start items comma with
    | some a => return [a]
    | none => return items

def wholeExpressionStatement (r : Reader) : Parser Concrete := do
  let s ← expressionStatement r
  if endsStatement (← peek) then return s else fail

def importedName : Parser Concrete := do
  let name ← dottedName
  if ← isNext (.word "as") then
    extend .aliasedImport (name.withRole .name) do
      let _ ← take
      return [(← anyName).withRole .newName]
  else return name

def importList (stops : Option Lexeme → Bool) : Parser (List Concrete) := do
  let (names, _) ← commaList importedName stops
  return names.map (Concrete.withRole .name)

def importStatement : Parser Concrete := node .importStatement do
  let _ ← keyword "import"
  importList endsStatement

def importDots : Parser Concrete := node .importPrefix do
  let _ ← many do
    if ← accept (.symbol ".") then return some ()
    else if ← accept (.symbol "...") then return some ()
    else return none
  return []

def moduleName : Parser Concrete := do
  match ← peek with
  | some (.word _) => dottedName
  | some (.symbol s) =>
    if s = "." ∨ s = "..." then
      node .relativeImport do
        let dots ← importDots
        match ← peek with
        | some (.word w) => if w = "import" then return [dots] else return [dots, ← dottedName]
        | _ => return [dots]
    else fail
  | _ => fail

def importedNames : Parser (List Concrete) := do
  let _ ← keyword "import"
  match ← peek with
  | some (.symbol "*") => return [← leaf .wildcardImport]
  | some (.symbol "(") =>
    let _ ← take
    let names ← importList (· == some (.symbol ")"))
    let _ ← symbol ")"
    return names
  | _ => importList endsStatement

def importFromStatement : Parser Concrete := do
  let start ← here
  let _ ← keyword "from"
  match ← peek, ← peekSecond with
  | some (.word "__future__"), some (.word "import") =>
    let _ ← take
    let names ← importedNames
    return .node .futureImportStatement none ⟨start, (← get).last⟩ names
  | _, _ =>
    let module ← moduleName
    let names ← importedNames
    return .node .importFromStatement none ⟨start, (← get).last⟩ (module.withRole .moduleName :: names)

def printStatement (r : Reader) : Parser Concrete := node .printStatement do
  let _ ← keyword "print"
  if ← isNext (.symbol ">>") then
    let stream ← node .chevron do
      let _ ← take
      return [← r.full]
    let rest ← many do
      if ← accept (.symbol ",") then
        if endsStatement (← peek) then return some none else return some (some (← r.full))
      else return none
    return stream :: rest.filterMap id
  else
    let (items, _) ← commaList r.full endsStatement
    return items

def execStatement (r : Reader) : Parser Concrete := node .execStatement do
  let _ ← keyword "exec"
  let code ← if ← isNext .stringOpen then stringLiteral r else name
  if ← accept (.word "in") then
    let scope ← commaSeparated r.full
    return code :: scope
  else return [code]

def typeAliasStatement (r : Reader) : Parser Concrete := do
  let s ← node .typeAliasStatement do
    let _ ← keyword "type"
    let left ← r (.typeForm false)
    let _ ← symbol "="
    return [left.withRole .left, (← r (.typeForm false)).withRole .right]
  if endsStatement (← peek) then return s else fail

def raiseStatement (r : Reader) : Parser Concrete := node .raiseStatement do
  let _ ← keyword "raise"
  let raised ← if startsExpression (← peek) then pure [← expressions r] else pure []
  if ← accept (.word "from") then return raised ++ [← r.full] else return raised

def simpleStatement (r : Reader) : Parser Concrete := do
  match ← peek with
  | some (.word "import") => importStatement
  | some (.word "from") => importFromStatement
  | some (.word "print") =>
    if (← peekSecond) = some (.symbol ">>") then printStatement r
    else either (wholeExpressionStatement r) (printStatement r)
  | some (.word "exec") => either (wholeExpressionStatement r) (execStatement r)
  | some (.word "type") => either (typeAliasStatement r) (expressionStatement r)
  | some (.word "assert") => node .assertStatement do
      let _ ← take
      commaSeparated r.full
  | some (.word "return") => node .returnStatement do
      let _ ← take
      if startsExpression (← peek) then return [← expressions r] else return []
  | some (.word "del") => node .deleteStatement do
      let _ ← take
      return [← expressions r]
  | some (.word "raise") => raiseStatement r
  | some (.word "pass") => leaf .passStatement
  | some (.word "break") => leaf .breakStatement
  | some (.word "continue") => leaf .continueStatement
  | some (.word "global") => node .globalStatement do
      let _ ← take
      commaSeparated anyName
  | some (.word "nonlocal") => node .nonlocalStatement do
      let _ ← take
      commaSeparated anyName
  | _ => expressionStatement r

def statementLine (r : Reader) : Parser (List Concrete) := do
  let first ← simpleStatement r
  let rest ← many do
    if ← accept (.symbol ";") then
      if ← isNext .newline then return some none else return some (some (← simpleStatement r))
    else return none
  let _ ← expect .newline
  return first :: rest.filterMap id

end ConventionLint.Grammar
