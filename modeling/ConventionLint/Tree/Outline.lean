import ConventionLint.Tree.Node

/-! Trees of nodes before they are numbered, and their numbering: a node comes before its children, and
its children with all below them follow one after the other from left to right. -/

namespace ConventionLint.Tree
open ConventionLint.Grammar (Span)

inductive Outline where
  | node (kind : NodeKind) (span : Span) (payload : Payload Nat) (children : List Outline)
  deriving Repr

namespace Outline

mutual

def size : Outline → Nat
  | .node _ _ _ cs => 1 + sizeAll cs

def sizeAll : List Outline → Nat
  | [] => 0
  | o :: os => size o + sizeAll os

end

def numbers (next : NodeId) : List Outline → List NodeId
  | [] => []
  | o :: os => next :: numbers (next + o.size) os

mutual

def number (parent : Option NodeId) (next : NodeId) : Outline → List Node
  | .node k s p cs =>
    let ids := numbers (next + 1) cs
    ⟨k, s, parent, ids, p.map fun i => ids.getD i next⟩ :: numberAll next (next + 1) cs

def numberAll (parent : NodeId) (next : NodeId) : List Outline → List Node
  | [] => []
  | o :: os => number (some parent) next o ++ numberAll parent (next + o.size) os

end

theorem length_numbers (next : NodeId) (os : List Outline) : (numbers next os).length = os.length := by
  induction os generalizing next with
  | nil => rfl
  | cons o os ih => simp [numbers, ih]

end Outline

end ConventionLint.Tree
