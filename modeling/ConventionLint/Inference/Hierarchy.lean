import ConventionLint.Inference.Value

/-! Classes, what they derive from and which methods they have. A base that is not known to be a class is left out; a
class without any base in its header derives from `object`. Lists are merged into one that keeps the order of each
of them: in every step the first head that stands in no tail is taken off, and without such a head there is no
merge. -/

namespace ConventionLint.Inference.Linearization

variable {α : Type} [DecidableEq α]

def nextHead? (lists : List (List α)) : Option α :=
  (lists.filterMap List.head?).find? fun a => !lists.any fun l => l.tail.contains a

def dropHead (a : α) : List α → List α
  | [] => []
  | b :: bs => if b = a then bs else b :: bs

def mergeBounded : Nat → List (List α) → Option (List α)
  | n, lists =>
    let live := lists.filter fun l => !l.isEmpty
    if live.isEmpty then some []
    else match n with
      | 0 => none
      | n + 1 => do
        let a ← nextHead? live
        let rest ← mergeBounded n (live.map (dropHead a))
        return a :: rest

def merge (lists : List (List α)) : Option (List α) :=
  mergeBounded lists.flatten.length lists

end ConventionLint.Inference.Linearization

namespace ConventionLint.Inference
open ConventionLint.Tree

namespace ClassId

def object : ClassId := .wellKnown .object

def isObject (c : ClassId) : Bool := c == object

def isSuper (c : ClassId) : Bool := c == .wellKnown .super

end ClassId

namespace Model

def className (m : Model) : ClassId → String
  | .declared i => (m.tree.name? i).getD ""
  | .wellKnown k => k.shortName

def definitionPath (m : Model) (i : NodeId) : List String :=
  let outer := (m.tree.ancestors i).filter fun a =>
    m.tree.kind a == .classDef || m.tree.kind a == .functionDef
  (outer.filterMap m.tree.name?).reverse ++ [(m.tree.name? i).getD ""]

def qualifiedName (m : Model) (module : String) : ClassId → String
  | .declared i => module ++ "." ++ ".".intercalate (m.definitionPath i)
  | .wellKnown k => k.shown

def bases (m : Model) : ClassId → List ClassId
  | .declared i =>
    match m.tree.baseExprs i with
    | [] => [.object]
    | es => es.filterMap m.inferClass?
  | .wellKnown k => k.base?.toList.map .wellKnown

def linearizeWithin (m : Model) : Nat → ClassId → Option (List ClassId)
  | 0, _ => none
  | n + 1, c => do
    let bs := m.bases c
    let above ← bs.mapM (linearizeWithin m n)
    let rest ← Linearization.merge (above ++ [bs])
    return c :: rest

/-- The order in which a class and its ancestors are searched. There is none if the orders of the bases
contradict each other or the class derives from itself. -/
def mro? (m : Model) (c : ClassId) : Option (List ClassId) :=
  (m.linearizeWithin (maxDepth + 1) c).map fun order =>
    if order.contains .object then order else order ++ [.object]

def ancestorsOf (m : Model) (c : ClassId) : List ClassId := ((m.mro? c).getD []).tail

def methods (m : Model) : ClassId → List String
  | .declared i =>
    ((m.tree.children i).filter fun d => m.tree.kind d == .functionDef).filterMap m.tree.name?
  | .wellKnown k => k.methods

def definesMethod (m : Model) (c : ClassId) (name : String) : Bool := (m.methods c).contains name

def provider? (m : Model) (c : ClassId) (name : String) : Option ClassId :=
  ((m.mro? c).getD [c]).find? fun d => m.definesMethod d name

def isSubtypeOf (m : Model) (c : ClassId) (path : String) : Bool :=
  match WellKnown.ofPath? path, m.mro? c with
  | some k, some order => order.contains (.wellKnown k)
  | _, _ => false

def localLiteral? (m : Model) (c : ClassId) (name : String) : Option Literal :=
  match c with
  | .wellKnown _ => none
  | .declared i => do
    let first ← (m.tree.children i).find? fun d =>
      m.tree.kind d == .assign && (m.tree.targets d).any fun t => m.tree.name? t == some name
    let value ← m.tree.value? first
    m.tree.literal? value

end Model

end ConventionLint.Inference
