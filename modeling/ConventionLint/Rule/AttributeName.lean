import ConventionLint.Check.Checker
import ConventionLint.Text.CharClass

/-! The built-in functions for attributes are for names that are not known beforehand. Where the name is
a literal that could stand behind a dot, plain access does. -/

namespace ConventionLint.Rule.AttributeName
open ConventionLint.Check
open ConventionLint.Report (Message)
open ConventionLint.Tree (NodeId)

def literalName : Message :=
  ⟨"C7630", "literal-used-as-attribute", "\x7b\x7d using a literal attribute name",
    "getattr or setattr used with a literal attribute name"⟩

def isIdentifier (s : String) : Bool :=
  match s.toList with
  | [] => false
  | c :: cs =>
    (c == '_' || Text.isAlphabetic c) && cs.all fun d => d == '_' || Text.isAlphanumeric d

/-- Whether a call with so many arguments has a plain form. With a default value it has none. -/
def hasPlainForm (function : String) (args : Nat) : Bool :=
  match function with
  | "getattr" => args == 2
  | "setattr" | "delattr" => 2 ≤ args
  | _ => false

def notes (f : File) (i : NodeId) : List Note :=
  match f.tree.calleeIn? ["getattr", "setattr", "delattr"] i with
  | none => []
  | some name =>
    let args := f.tree.args i
    if hasPlainForm name args.length && ((args[1]? >>= f.tree.str?).any isIdentifier) then
      [.at literalName i [name]]
    else []

def checker : Checker :=
  .stateless "getattr-literal-checker"
    "Checks for getattr/setattr/delattr used with literal attribute names" [literalName]
    [.simple "call" notes]

end ConventionLint.Rule.AttributeName
