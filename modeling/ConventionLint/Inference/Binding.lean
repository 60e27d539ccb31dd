import ConventionLint.Text.Cut
import ConventionLint.Tree.Basic

/-! Names and what the statements of a module bind them to. Every binding belongs to a frame: the
module, a class or a function. A class and a module are bound to themselves, an imported name to a
dotted path, an assigned name to the expression that it gets, unless it gets only a part of it. -/

namespace ConventionLint.Inference
open ConventionLint.Tree

inductive Origin where
  | classDef (node : NodeId)
  | function (node : NodeId)
  | path (dotted : String)
  | value (expr : NodeId)
  | unknown
  deriving DecidableEq, Repr

structure Binding where
  frame : NodeId
  name : String
  line : Nat
  site : NodeId
  origin : Origin
  deriving DecidableEq, Repr

namespace Binding

def ofTarget (t : Tree) (site : NodeId) : Nat → Origin → NodeId → List Binding
  | 0, _, _ => []
  | n + 1, origin, target =>
    match t.kind target with
    | .name => (t.name? target).toList.map fun name =>
        ⟨t.frame site, name, t.line site, site, origin⟩
    | .tuple | .list => (t.elements target).flatMap (ofTarget t site n .unknown)
    | _ => []

def ofAssignment (t : Tree) (i : NodeId) : List Binding :=
  let origin := match t.value? i with
    | some v => .value v
    | none => .unknown
  (t.targets i).flatMap (ofTarget t i t.size origin)

def ofDefinition (t : Tree) (i : NodeId) (origin : Origin) : List Binding :=
  ((t.name? i).toList.map fun name => ⟨t.frame i, name, t.line i, i, origin⟩) ++
  (t.params i).map fun p => ⟨i, p, t.line i, i, .unknown⟩

def headOf (dotted : String) : String :=
  String.ofList (dotted.toList.takeWhile (· ≠ '.'))

def ofImport (t : Tree) (i : NodeId) (n : ImportName) : Binding :=
  match n.newName with
  | some a => ⟨t.frame i, a, t.line i, i, .path n.name⟩
  | none => ⟨t.frame i, headOf n.name, t.line i, i, .path (headOf n.name)⟩

def ofImportFrom (t : Tree) (i : NodeId) (module : String) (level : Nat) (n : ImportName) :
    Option Binding :=
  if n.name == "*" then none
  else
    let origin := if level > 0 then .unknown else .path (module ++ "." ++ n.name)
    some ⟨t.frame i, n.newName.getD n.name, t.line i, i, origin⟩

def ofNode (t : Tree) (i : NodeId) : List Binding :=
  match t.payload i with
  | .classDef .. => ofDefinition t i (.classDef i)
  | .functionDef .. => ofDefinition t i (.function i)
  | .assign .. => ofAssignment t i
  | .imports names => names.map (ofImport t i)
  | .importFrom module level names => names.filterMap (ofImportFrom t i module level)
  | _ => []

end Binding

structure Model where
  tree : Tree
  bindings : List Binding
  deriving Repr

namespace Model

def ofTree (t : Tree) : Model := ⟨t, t.ids.flatMap (Binding.ofNode t)⟩

def frames (t : Tree) (i : NodeId) : List NodeId :=
  match (t.ancestors i).filter fun a => isFrame (t.kind a) with
  | [] => [Tree.root]
  | fs => fs

def bindingsIn (m : Model) (frame : NodeId) (name : String) : List Binding :=
  m.bindings.filter fun b => b.frame == frame && b.name == name

def isWithin (m : Model) (use : NodeId) (b : Binding) : Bool :=
  match b.origin with
  | .value _ => (m.tree.ancestors use).contains b.site
  | _ => false

/-- The latest binding up to the line of the use; if there is none, the latest one of all. -/
def nearest? (m : Model) (use : NodeId) (bs : List Binding) : Option Binding :=
  let line := m.tree.line use
  match bs.reverse.find? fun b => b.line ≤ line && !m.isWithin use b with
  | some b => some b
  | none => bs.getLast?

/-- The binding that a use of a name refers to. Around the innermost frame classes do not count and
the latest binding of a frame holds. -/
def lookup? (m : Model) (use : NodeId) (name : String) : Option Binding :=
  match frames m.tree use with
  | [] => none
  | inner :: outer =>
    match m.nearest? use (m.bindingsIn inner name) with
    | some b => some b
    | none => (outer.filter fun f => m.tree.kind f != .classDef).findSome? fun f =>
        (m.bindingsIn f name).getLast?

end Model

end ConventionLint.Inference
