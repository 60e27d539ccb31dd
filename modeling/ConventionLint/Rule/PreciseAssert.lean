import ConventionLint.Check.Checker

/-! An assertion that a comparison is true or false should be the assertion made for that comparison. A
chain of comparisons has none. -/

namespace ConventionLint.Rule.PreciseAssert
open ConventionLint.Check
open ConventionLint.Report (Message)
open ConventionLint.Tree (NodeId)

def wrongAssert : Message :=
  ⟨"C7690", "wrong-assert-type", "\x7b\x7d", "Use assert(Not)Equal instead of assertTrue/False"⟩

def negation? : String → Option String
  | "==" => some "!="
  | "!=" => some "=="
  | "in" => some "not in"
  | "not in" => some "in"
  | "is" => some "is not"
  | "is not" => some "is"
  | "<" => some ">="
  | "<=" => some ">"
  | ">" => some "<="
  | ">=" => some "<"
  | _ => none

def better? (withNone : Bool) : String → Option String
  | "==" => some (if withNone then "assertIsNone" else "assertEqual")
  | "is" => some (if withNone then "assertIsNone" else "assertIs")
  | "!=" => some (if withNone then "assertIsNotNone" else "assertNotEqual")
  | "is not" => some (if withNone then "assertIsNotNone" else "assertIsNot")
  | "in" => some "assertIn"
  | "not in" => some "assertNotIn"
  | "<" => some "assertLess"
  | "<=" => some "assertLessEqual"
  | ">" => some "assertGreater"
  | ">=" => some "assertGreaterEqual"
  | _ => none

def assertedOperator? (assertion operator : String) : Option String :=
  match assertion with
  | "assertTrue" => some operator
  | "assertFalse" => negation? operator
  | _ => none

def notes (f : File) (i : NodeId) : List Note :=
  let t := f.tree
  (do
    let assertion ← t.func? i >>= t.accessed?
    let compare ← (t.args i).head?
    let operator ← match t.operators compare with
      | [op] => some op
      | _ => none
    let asserted ← assertedOperator? assertion operator
    let withNone := (t.operands compare).any fun o => t.literal? o == some Tree.Literal.none
    let better ← better? withNone asserted
    return Note.at wrongAssert i
      [assertion ++ "(" ++ t.source compare ++ ") should be " ++ better]).toList

def checker : Checker :=
  .stateless "assert-checker"
    "Checks that assertTrue/assertFalse aren't used where a precise assert exists" [wrongAssert]
    [.simple "call" notes]

end ConventionLint.Rule.PreciseAssert
