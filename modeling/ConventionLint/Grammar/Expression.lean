import ConventionLint.Grammar.Atom
import ConventionLint.Grammar.Parameter

/-! Operators by binding strength. The bitwise operators bind in the order or, and, exclusive or; the
exponent of a power may carry a sign. A choice between two expressions takes the longest reading of
its last part, and binds weaker than the binding of a name by `:=`. -/

namespace ConventionLint.Grammar
open ConventionLint.Grammar.Parser

def arithmetic? : String → Option Nat
  | "|" => some Strength.bitOr
  | "&" => some Strength.bitAnd
  | "^" => some Strength.bitXor
  | "<<" => some Strength.shift
  | ">>" => some Strength.shift
  | "+" => some Strength.sum
  | "-" => some Strength.sum
  | "*" => some Strength.product
  | "@" => some Strength.product
  | "/" => some Strength.product
  | "%" => some Strength.product
  | "//" => some Strength.product
  | "**" => some Strength.power
  | _ => none

def signed (r : Reader) : Parser Concrete := do
  match ← peek with
  | some (.symbol "-") => node .unaryOperator do
      let _ ← take
      return [← r (.operand Strength.power)]
  | some (.symbol "+") => node .unaryOperator do
      let _ ← take
      return [← r (.operand Strength.power)]
  | some (.symbol "~") => node .unaryOperator do
      let _ ← take
      return [← r (.operand Strength.power)]
  | some (.word "await") =>
    if startsOperand (← peekSecond) then
      node .await do
        let _ ← take
        return [← r (.operand Strength.power)]
    else atom r
  | _ => atom r

def operand (r : Reader) (strength : Nat) : Parser Concrete := do
  grow (fun left => do
    match ← peek with
    | some (.symbol s) =>
      match arithmetic? s with
      | some p =>
        if p < strength then return none
        else some <$> extend .binaryOperator (left.withRole .left) do
          let _ ← take
          let right ← r (.operand (if p = Strength.power then p else p + 1))
          return [right.withRole .right]
      | none => return none
    | _ => return none) (← signed r)

def comparisonOperator? : Parser (Option Concrete) := do
  let start ← here
  let make (text : String) : Parser (Option Concrete) := do
    return some (.token text ⟨start, (← get).last⟩)
  match ← peek with
  | some (.symbol s) =>
    if ["<", "<=", "==", "!=", ">=", ">", "<>"].contains s then
      let _ ← take
      make s
    else return none
  | some (.word "in") =>
    let _ ← take
    make "in"
  | some (.word "is") =>
    let _ ← take
    if ← accept (.word "not") then make "is not" else make "is"
  | some (.word "not") =>
    if (← peekSecond) = some (.word "in") then
      let _ ← take
      let _ ← take
      make "not in"
    else return none
  | _ => return none

def comparison (r : Reader) : Parser Concrete := do
  let left ← r (.operand Strength.bitOr)
  let rest ← many do
    match ← comparisonOperator? with
    | some op => return some [op, ← r (.operand Strength.bitOr)]
    | none => return none
  if rest.isEmpty then return left
  else return .node .comparisonOperator none ⟨left.span.start, (← get).last⟩ (left :: rest.flatten)

def lambda (r : Reader) (body : Parser Concrete) : Parser Concrete := node .lambda do
  let _ ← keyword "lambda"
  let ps ← lambdaParameters r
  let _ ← symbol ":"
  return ps ++ [(← body).withRole .body]

def namedExpression (r : Reader) : Parser Concrete := node .namedExpression do
  let target ← name
  let _ ← symbol ":="
  return [target.withRole .name, (← r (.expression Strength.binding)).withRole .value]

def expressionHead (r : Reader) : Parser Concrete := do
  match ← peek, ← peekSecond with
  | some (.word "lambda"), _ => lambda r r.full
  | some (.word "not"), _ => node .notOperator do
      let _ ← take
      return [← r (.expression Strength.not)]
  | some (.word w), some (.symbol ":=") => if isReserved w then comparison r else namedExpression r
  | _, _ => comparison r

def weaken (r : Reader) (strength : Nat) (left : Concrete) : Parser (Option Concrete) := do
  let joined (p : Nat) : Parser (Option Concrete) := do
    if p < strength then return none
    else some <$> extend .booleanOperator (left.withRole .left) do
      let _ ← take
      return [(← r (.expression (p + 1))).withRole .right]
  match ← peek with
  | some (.word "and") => joined Strength.and
  | some (.word "or") => joined Strength.or
  | some (.word "as") =>
    if Strength.binding < strength then return none
    else some <$> extend .asPattern left do
      let _ ← take
      let target ← node .asPatternTarget do return [← r (.expression (Strength.binding + 1))]
      return [target.withRole .newName]
  | some (.word "if") =>
    if Strength.conditional < strength then return none
    else some <$> extend .conditionalExpression left do
      let _ ← take
      let condition ← r.full
      let _ ← keyword "else"
      return [condition, ← r.full]
  | _ => return none

def expression (r : Reader) (strength : Nat) : Parser Concrete := do
  grow (weaken r strength) (← expressionHead r)

/-- The iterable or condition of a comprehension clause: no choice, unless in a lambda's body. -/
def clauseExpression (r : Reader) : Parser Concrete := do
  if ← isNext (.word "lambda") then lambda r (r .clause)
  else r (.expression (Strength.binding + 1))

end ConventionLint.Grammar
