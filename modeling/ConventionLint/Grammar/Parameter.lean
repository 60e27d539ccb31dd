import ConventionLint.Grammar.Comprehension
import ConventionLint.Grammar.Goal

/-! Parameter lists of functions and of lambdas. A lambda takes no annotations, since a colon ends its
parameters. -/

namespace ConventionLint.Grammar
open ConventionLint.Grammar.Parser

/-- A name or a name in parentheses with others, as old programs allow. -/
def parameterPattern (r : Reader) : Parser Concrete := do
  let e ← r (.operand Strength.call)
  match e.toPattern? with
  | some p => if p.hasKind .tuplePattern then return p else throw ⟨e.span.start⟩
  | none => throw ⟨e.span.start⟩

def annotated (r : Reader) (typed : Bool) (p : Concrete) : Parser Concrete := do
  if typed && (← isNext (.symbol ":")) then
    extend .typedParameter p do
      let _ ← take
      return [← r (.typeForm false)]
  else return p

def starredParameter (r : Reader) (typed : Bool) (star : String) (kind : Kind) : Parser Concrete := do
  let p ← node kind do
    let _ ← symbol star
    return [← anyName]
  annotated r typed p

def namedParameter (r : Reader) (typed : Bool) : Parser Concrete := do
  let name ← anyName
  if typed && (← isNext (.symbol ":")) then
    let start := name.span.start
    let _ ← take
    let type ← r (.typeForm false)
    if ← accept (.symbol "=") then
      let value ← r.full
      return .node .typedDefaultParameter none ⟨start, (← get).last⟩
        [name.withRole .name, type, value.withRole .value]
    else return .node .typedParameter none ⟨start, (← get).last⟩ [name, type]
  else if ← isNext (.symbol "=") then
    extend .defaultParameter (name.withRole .name) do
      let _ ← take
      return [(← r.full).withRole .value]
  else return name

def parameter (r : Reader) (typed : Bool) : Parser Concrete := do
  match ← peek with
  | some (.symbol "/") => leaf .positionalSeparator
  | some (.symbol "*") =>
    match ← peekSecond with
    | some (.word _) => starredParameter r typed "*" .listSplatPattern
    | _ => leaf .keywordSeparator
  | some (.symbol "**") => starredParameter r typed "**" .dictionarySplatPattern
  | some (.symbol "(") =>
    let p ← parameterPattern r
    if ← isNext (.symbol "=") then
      extend .defaultParameter (p.withRole .name) do
        let _ ← take
        return [(← r.full).withRole .value]
    else return p
  | _ => namedParameter r typed

def parametersUpTo (r : Reader) (typed : Bool) (closing : String) : Parser (List Concrete) := do
  if ← isNext (.symbol closing) then return []
  let (ps, _) ← commaList (parameter r typed) (· == some (.symbol closing))
  return ps

def functionParameters (r : Reader) : Parser Concrete := node .parameters do
  let _ ← symbol "("
  let ps ← parametersUpTo r true ")"
  let _ ← symbol ")"
  return ps

def lambdaParameters (r : Reader) : Parser (List Concrete) := do
  if ← isNext (.symbol ":") then return []
  let ps ← node .lambdaParameters (parametersUpTo r false ":")
  return [ps.withRole .parameters]

end ConventionLint.Grammar
