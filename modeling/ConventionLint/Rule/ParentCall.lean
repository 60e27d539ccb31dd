import ConventionLint.Check.Checker
import ConventionLint.Config.Basic

/-! Methods that prepare or clean up a test have to call the method of the same name of the classes that
their class derives from: by `super`, or for each base that has the method by that base itself. -/

namespace ConventionLint.Rule.ParentCall
open ConventionLint.Check
open ConventionLint.Inference (ClassId Model Value)
open ConventionLint.Report (Message)
open ConventionLint.Tree (NodeId)

def notCalled : Message :=
  ⟨"E7601", "super-method-not-called", "super(...).\x7b\x7d() not called (\x7b\x7d)",
    "setUp() must call super(...).setUp()"⟩

def calledElsewhere : Message :=
  ⟨"E7602", "non-parent-method-called",
    "\x7b\x7d() was called from a non-parent class (\x7b\x7d)",
    "setUp() should only be called for parent classes"⟩

def defaultMethods : List String := ["setUp", "tearDown", "setUpClass", "tearDownClass"]

inductive Receiver where
  | parent
  | classObject (c : ClassId)
  | other
  deriving DecidableEq, Repr

def isSuperCall (t : Tree) (i : NodeId) : Bool := (t.func? i >>= t.name?) == some "super"

def receiver (m : Model) (i : NodeId) : Receiver :=
  if isSuperCall m.tree i then .parent
  else match m.infer i with
    | some (.instanceOf c) => if c.isSuper then .parent else .other
    | some (.classObject c) => .classObject c
    | _ => .other

def callsOf (m : Model) (method : String) (i : NodeId) : List (NodeId × Receiver) :=
  (m.tree.descendants i).filterMap fun call => do
    let func ← m.tree.func? call
    let (object, name) ← m.tree.access? func
    if name == method then some (func, receiver m object) else none

structure Provider where
  base : ClassId
  source : ClassId
  deriving DecidableEq, Repr

def providers (m : Model) (c : ClassId) (method : String) : List Provider :=
  (m.bases c).filterMap fun b => (m.provider? b method).map fun s => ⟨b, s⟩

/-- What calls up to the first one by `super` say: those on classes that are no bases with the method,
and the bases that none of them reaches, unless there is a call by `super`. -/
def follow (all : List Provider) :
    List Provider → List (NodeId × Receiver) → List (NodeId × ClassId) × Option (List Provider)
  | left, [] => ([], some left)
  | left, (func, r) :: calls =>
    match r with
    | .parent => ([], none)
    | .other => follow all left calls
    | .classObject c =>
      if left.any fun p => p.base == c then
        follow all (left.eraseP fun p => p.base == c) calls
      else
        let (strangers, rest) := follow all left calls
        (if all.any fun p => p.base == c then strangers else (func, c) :: strangers, rest)

def isExpected (p : Provider) : Bool := !p.base.isObject && !p.source.isObject

def notesOnMethod (m : Model) (c : ClassId) (method : String) (i : NodeId) : List Note :=
  let all := providers m c method
  let (strangers, left) := follow all all (callsOf m method i)
  (strangers.map fun (func, k) => .at calledElsewhere func [method, m.className k]) ++
    ((left.getD []).filter isExpected).map fun p => .at notCalled i [method, m.className p.source]

def notes (methods : List String) (f : File) (i : NodeId) : List Note :=
  match f.tree.name? i, f.tree.parent? i with
  | some method, some parent =>
    if f.tree.isMethod i && methods.contains method then
      notesOnMethod f.model (.declared parent) method i
    else []
  | _, _ => []

def checker (methods : List String) : Checker :=
  .stateless "unit-test-super-checker"
    "Checks that test setUp/tearDown methods call their parent implementations"
    [notCalled, calledElsewhere] [.simple "functiondef" (notes methods)]

def ofSettings (s : Option CheckerSettings) : Checker :=
  let names := (s.map fun s => s.strings "method_names").getD []
  checker (if names.isEmpty then defaultMethods else names)

end ConventionLint.Rule.ParentCall
