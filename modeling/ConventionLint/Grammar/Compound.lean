import ConventionLint.Grammar.Simple
import ConventionLint.Grammar.TypeForm

/-! Statements with bodies. A body stands on the line of its header or is an indented block; a header
with nothing after it has an empty body. -/

namespace ConventionLint.Grammar
open ConventionLint.Grammar.Parser

def body (r : Reader) : Parser Concrete := do
  let _ ← symbol ":"
  return (← r .suite).withRole .body

def elseClause (r : Reader) : Parser (List Concrete) := do
  if ← isNext (.word "else") then
    return [← node .elseClause do
      let _ ← take
      return [← body r]]
  else return []

def ifStatement (r : Reader) : Parser Concrete := node .ifStatement do
  let _ ← keyword "if"
  let condition ← r.full
  let consequence ← body r
  let others ← many do
    if ← isNext (.word "elif") then
      return some (← node .elifClause do
        let _ ← take
        let condition ← r.full
        return [condition, ← body r])
    else return none
  return condition :: consequence :: others ++ (← elseClause r)

def whileStatement (r : Reader) : Parser Concrete := node .whileStatement do
  let _ ← keyword "while"
  let condition ← r.full
  let repeated ← body r
  return condition :: repeated :: (← elseClause r)

def asyncMark : Parser (List Concrete) := do
  let start ← here
  if ← accept (.word "async") then return [.token "async" ⟨start, (← get).last⟩] else return []

def forStatement (r : Reader) : Parser Concrete := node .forStatement do
  let mark ← asyncMark
  let _ ← keyword "for"
  let target ← loopTarget r
  let _ ← keyword "in"
  let iterable ← expressions r
  let repeated ← body r
  return mark ++ target.withRole .left :: iterable.withRole .right :: repeated :: (← elseClause r)

def exceptClause (r : Reader) : Parser Concrete := do
  let start ← here
  let word ← keyword "except"
  let grouped : Bool := match (← get).tokens with
    | t :: _ => t.lexeme == .symbol "*" && t.span.start == word.span.stop
    | [] => false
  let finish (kind : Kind) (cs : List Concrete) : Parser Concrete := do
    let handler ← body r
    return .node kind none ⟨start, (← get).last⟩ (cs ++ [handler])
  if grouped then
    let _ ← take
    finish .exceptGroupClause [← r.full]
  else if ← isNext (.symbol ":") then finish .exceptClause []
  else
    let caught ← r.full
    if ← accept (.symbol ",") then finish .exceptClause [caught.withRole .value, (← r.full).withRole .newName]
    else finish .exceptClause [caught.withRole .value]

def finallyClause (r : Reader) : Parser (List Concrete) := do
  if ← isNext (.word "finally") then
    return [← node .finallyClause do
      let _ ← take
      return [← body r]]
  else return []

def tryStatement (r : Reader) : Parser Concrete := node .tryStatement do
  let _ ← keyword "try"
  let tried ← body r
  let handlers ← many do
    if ← isNext (.word "except") then return some (← exceptClause r) else return none
  if handlers.isEmpty then
    match ← finallyClause r with
    | [] => fail
    | final => return tried :: final
  else
    let otherwise ← elseClause r
    return tried :: handlers ++ otherwise ++ (← finallyClause r)

def withItem (r : Reader) : Parser Concrete := node .withItem do
  return [(← r.full).withRole .value]

def enclosedItems (r : Reader) : Parser Concrete := do
  let clause ← node .withClause do
    let _ ← symbol "("
    let (items, _) ← commaList (withItem r) (· == some (.symbol ")"))
    let _ ← symbol ")"
    if items.length < 2 then fail else return items
  if ← isNext (.symbol ":") then return clause else fail

def openItems (r : Reader) : Parser Concrete := node .withClause do
  let (items, _) ← commaList (withItem r) (· == some (.symbol ":"))
  return items

def withStatement (r : Reader) : Parser Concrete := node .withStatement do
  let mark ← asyncMark
  let _ ← keyword "with"
  let clause ←
    if ← isNext (.symbol "(") then either (enclosedItems r) (openItems r) else openItems r
  return mark ++ [clause, ← body r]

def typeParametersIfAny (r : Reader) : Parser (List Concrete) := do
  if ← isNext (.symbol "[") then return [← typeParameters r] else return []

def functionDefinition (r : Reader) : Parser Concrete := node .functionDefinition do
  let mark ← asyncMark
  let _ ← keyword "def"
  let name ← anyName
  let generic ← typeParametersIfAny r
  let ps ← functionParameters r
  let result ← if ← accept (.symbol "->") then pure [← r (.typeForm false)] else pure []
  let statements ← body r
  return mark ++ name.withRole .name :: generic ++ ps.withRole .parameters :: result ++ [statements]

def classDefinition (r : Reader) : Parser Concrete := node .classDefinition do
  let _ ← keyword "class"
  let name ← anyName
  let generic ← typeParametersIfAny r
  let bases ← if ← isNext (.symbol "(") then pure [(← arguments r).withRole .superclasses] else pure []
  let statements ← body r
  return name.withRole .name :: generic ++ bases ++ [statements]

def definition (r : Reader) : Parser Concrete := do
  if ← isNext (.word "class") then classDefinition r else functionDefinition r

def decoratedDefinition (r : Reader) : Parser Concrete := node .decoratedDefinition do
  let decorators ← many do
    if ← isNext (.symbol "@") then
      return some (← node .decorator do
        let _ ← take
        let e ← r.full
        let _ ← expect .newline
        return [e])
    else return none
  return decorators ++ [(← definition r).withRole .definition]

def caseClause (r : Reader) : Parser Concrete := node .caseClause do
  let _ ← keyword "case"
  let (patterns, _) ← commaList (r .casePattern) fun l =>
    l == some (.symbol ":") || l == some (.word "if")
  let guard ←
    if ← isNext (.word "if") then
      pure [← node .ifClause do
        let _ ← take
        return [← r.full]]
    else pure []
  return patterns ++ guard ++ [← body r]

def matchBlock (r : Reader) : Parser Concrete := do
  if ← accept .indent then
    node .block do
      let cases ← many do
        if ← isNext (.word "case") then return some (← caseClause r) else return none
      let _ ← expect .dedent
      return cases
  else node .block do
    let _ ← expect .newline
    return []

def matchStatement (r : Reader) : Parser Concrete := node .matchStatement do
  let _ ← keyword "match"
  let (subjects, _) ← commaList r.full (· == some (.symbol ":"))
  let _ ← symbol ":"
  return subjects ++ [(← matchBlock r).withRole .body]

def statements (r : Reader) : Parser (List Concrete) := do
  match ← peek, ← peekSecond with
  | some (.word "if"), _ => return [← ifStatement r]
  | some (.word "for"), _ => return [← forStatement r]
  | some (.word "while"), _ => return [← whileStatement r]
  | some (.word "try"), _ => return [← tryStatement r]
  | some (.word "with"), _ => return [← withStatement r]
  | some (.word "def"), _ => return [← functionDefinition r]
  | some (.word "class"), _ => return [← classDefinition r]
  | some (.symbol "@"), _ => return [← decoratedDefinition r]
  | some (.word "async"), some (.word "def") => return [← functionDefinition r]
  | some (.word "async"), some (.word "for") => return [← forStatement r]
  | some (.word "async"), some (.word "with") => return [← withStatement r]
  | some (.word "match"), _ => either (do return [← matchStatement r]) (statementLine r)
  | _, _ => statementLine r

def suite (r : Reader) : Parser Concrete := do
  match ← peek with
  | some .indent =>
    let _ ← take
    node .block do
      let body ← many do
        if ← isNext .dedent then return none else return some (← statements r)
      let _ ← expect .dedent
      return body.flatten
  | some .newline => node .block do
      let _ ← take
      return []
  | _ => node .block (statementLine r)

end ConventionLint.Grammar
