import ConventionLint.Check.File
import ConventionLint.Report.Diagnostic
import ConventionLint.Tree.Basic

/-! Checkers look at one file. A checker asks for visits of some types of nodes; what it does there depends on the
file, on the node and on a state of its own, which begins anew for every file. A node is entered, then all below it
is visited child by child, then it is left: `walk` finds this order with a list of pending visits, `visitsBelow` by
recursion on the depth. -/

namespace ConventionLint.Check
open ConventionLint.Tree (NodeId NodeKind)
open ConventionLint.Report (Message)

inductive Phase where
  | enter | leave
  deriving DecidableEq, Repr

structure Visit where
  phase : Phase
  node : NodeId
  deriving DecidableEq, Repr

def walkBounded (t : Tree) : Nat → List Visit → List Visit
  | 0, _ => []
  | _, [] => []
  | n + 1, ⟨.enter, i⟩ :: pending =>
    ⟨.enter, i⟩ :: walkBounded t n ((t.children i).map (Visit.mk .enter) ++ ⟨.leave, i⟩ :: pending)
  | n + 1, ⟨.leave, i⟩ :: pending => ⟨.leave, i⟩ :: walkBounded t n pending

/-- All visits of a tree. Each node takes two steps. -/
def walk (t : Tree) : List Visit := walkBounded t (2 * t.size) [⟨.enter, Tree.root⟩]

def visitsBelow (t : Tree) : Nat → NodeId → List Visit
  | 0, _ => []
  | n + 1, i => ⟨.enter, i⟩ :: (t.children i).flatMap (visitsBelow t n) ++ [⟨.leave, i⟩]

inductive Place where
  | node (i : NodeId)
  | line (n : Nat)
  deriving DecidableEq, Repr

structure Finding where
  message : Message
  place : Place
  args : List String
  deriving DecidableEq, Repr

inductive Note where
  | finding (f : Finding)
  /-- The path of the file at hand goes into a record, which is a file as well. -/
  | visited (record : String)
  deriving DecidableEq, Repr

def Note.at (m : Message) (i : NodeId) (args : List String) : Note := .finding ⟨m, .node i, args⟩

def Note.atLine (m : Message) (n : Nat) (args : List String) : Note := .finding ⟨m, .line n, args⟩

structure Handler (σ : Type) where
  phase : Phase
  nodeType : String
  run : File → NodeId → σ → σ × List Note

namespace Handler

def simple (nodeType : String) (notes : File → NodeId → List Note) : Handler Unit :=
  ⟨.enter, nodeType, fun f i _ => ((), notes f i)⟩

def kind? (h : Handler σ) : Option NodeKind := NodeKind.ofName? h.nodeType

def handles (h : Handler σ) (phase : Phase) (kind : NodeKind) : Bool :=
  h.phase == phase && h.kind? == some kind

end Handler

structure Checker where
  name : String
  description : String
  messages : List Message
  State : Type
  initial : State
  handlers : List (Handler State)

namespace Checker

def stateless (name description : String) (messages : List Message)
    (handlers : List (Handler Unit)) : Checker :=
  ⟨name, description, messages, Unit, (), handlers⟩

def resolved (c : Checker) : List (NodeKind × Handler c.State) :=
  c.handlers.filterMap fun h => h.kind?.map fun k => (k, h)

def nodeTypes (c : Checker) : List String :=
  (c.resolved.map fun e => e.1.toName).eraseDups.mergeSort fun a b => a ≤ b

def react (f : File) (i : NodeId) : List (Handler σ) → σ → σ × List Note
  | [], s => (s, [])
  | h :: hs, s =>
    let (s, notes) := h.run f i s
    let (s, more) := react f i hs s
    (s, notes ++ more)

def notesOf (handlers : List (NodeKind × Handler σ)) (f : File) : List Visit → σ → List Note
  | [], _ => []
  | v :: vs, s =>
    let chosen := handlers.filter fun e => e.2.phase == v.phase && e.1 == f.tree.kind v.node
    let (s, notes) := react f v.node (chosen.map Prod.snd) s
    notes ++ notesOf handlers f vs s

def notes (c : Checker) (f : File) : List Note := notesOf c.resolved f (walk f.tree) c.initial

end Checker

end ConventionLint.Check
