import ConventionLint.Check.Checker

/-! Checkers that work together. Each type of nodes that one of them asks for has to exist; no two of
them may have the same name, and none may use a code or a symbol of a message of another one. -/

namespace ConventionLint.Check
open ConventionLint.Tree (NodeKind)
open ConventionLint.Report (Message)

inductive RegistrationError where
  | unknownNodeType (checker : String) (phase : Phase) (nodeType : String)
  | duplicateChecker (name : String)
  | duplicateMessage (key first second : String)
  deriving DecidableEq, Repr

namespace RegistrationError

def verb : Phase → String
  | .enter => "visit"
  | .leave => "leave"

def message : RegistrationError → String
  | unknownNodeType c p t =>
    c ++ ": Method " ++ verb p ++ "_" ++ NodeKind.lowered t ++
      " doesn't correspond to a node class"
  | duplicateChecker n => "duplicate checker name: " ++ n
  | duplicateMessage k a b => "message " ++ k ++ " is defined by both " ++ a ++ " and " ++ b

def knownTypes : String := ", ".intercalate NodeKind.ownNames

end RegistrationError

namespace Registry
open RegistrationError

def unknownType? (c : Checker) : Option RegistrationError :=
  (c.handlers.find? fun h => h.kind?.isNone).map fun h => unknownNodeType c.name h.phase h.nodeType

def keys (m : Message) : List String := [m.code, m.symbol]

def take (checker : String) :
    List String → List (String × String) → Except RegistrationError (List (String × String))
  | [], owners => .ok owners
  | k :: ks, owners =>
    match owners.lookup k with
    | none => take checker ks ((k, checker) :: owners)
    | some first =>
      if first = checker then take checker ks owners else .error (duplicateMessage k first checker)

def checkUnique : List String → List (String × String) → List Checker → Except RegistrationError Unit
  | _, _, [] => .ok ()
  | names, owners, c :: cs =>
    if names.contains c.name then .error (duplicateChecker c.name)
    else match take c.name (c.messages.flatMap keys) owners with
      | .error e => .error e
      | .ok owners => checkUnique (c.name :: names) owners cs

def validate (checkers : List Checker) : Except RegistrationError Unit :=
  match checkers.findSome? unknownType? with
  | some e => .error e
  | none => checkUnique [] [] checkers

end Registry

end ConventionLint.Check
