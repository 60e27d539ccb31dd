import ConventionLint.Inference.Binding
import ConventionLint.Inference.WellKnown

/-! What expressions evaluate to, as far as names, attributes of modules and calls of classes tell. The
depth of the search is bounded; beyond the bound nothing is known. -/

namespace ConventionLint.Inference
open ConventionLint.Tree

inductive ClassId where
  | declared (node : NodeId)
  | wellKnown (k : WellKnown)
  deriving DecidableEq, Repr

inductive Value where
  | classObject (c : ClassId)
  | instanceOf (c : ClassId)
  /-- A module, or a dotted path of which nothing else is known. -/
  | module (path : String)
  | function (node : NodeId)
  | constant
  deriving DecidableEq, Repr

def Value.ofPath (p : String) : Value :=
  match WellKnown.ofPath? p with
  | some k => .classObject (.wellKnown k)
  | none => .module p

def builtin? : String → Option Value
  | "object" => some (.classObject (.wellKnown .object))
  | "super" => some (.classObject (.wellKnown .super))
  | _ => none

/-- How many steps inference takes beyond the first one. -/
def maxDepth : Nat := 24

namespace Model

def inferWithin (m : Model) : Nat → NodeId → Option Value
  | 0, _ => none
  | n + 1, i =>
    match m.tree.payload i with
    | .name id =>
      match m.lookup? i id with
      | none => builtin? id
      | some b =>
        match b.origin with
        | .classDef c => some (.classObject (.declared c))
        | .function f => some (.function f)
        | .path p => some (Value.ofPath p)
        | .value e => inferWithin m n e
        | .unknown => none
    | .attribute a o =>
      match inferWithin m n o with
      | some (.module p) => some (Value.ofPath (p ++ "." ++ a))
      | _ => none
    | .call f _ _ =>
      match inferWithin m n f with
      | some (.classObject c) => some (.instanceOf c)
      | _ => none
    | .const _ => some .constant
    | .classDef .. => some (.classObject (.declared i))
    | .functionDef .. => some (.function i)
    | _ => none

def infer (m : Model) (i : NodeId) : Option Value := m.inferWithin (maxDepth + 1) i

def inferClass? (m : Model) (i : NodeId) : Option ClassId :=
  match m.infer i with
  | some (.classObject c) => some c
  | _ => none

end Model

end ConventionLint.Inference
