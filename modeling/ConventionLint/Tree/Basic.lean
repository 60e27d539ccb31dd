import ConventionLint.Grammar.Program
import ConventionLint.Tree.Lowering

/-! Parsed modules: the text and its nodes, each one at the place of its number, so that the root is
node zero. Accessors take the number of a node; a number without a node means an empty one. What an
accessor asks of a node of the wrong kind is absent or empty. -/

namespace ConventionLint

structure Tree where
  text : List Char
  nodes : Array Tree.Node
  deriving Repr

namespace Tree
open ConventionLint.Grammar (Span Position Failure)

def Node.missing : Node := ⟨.other, ⟨.initial, .initial⟩, none, [], .empty⟩

def ofOutline (text : List Char) (o : Outline) : Tree := ⟨text, (o.number none 0).toArray⟩

def parse (text : List Char) : Except Failure Tree :=
  (Grammar.parse text).map fun program => ofOutline text (outline text program)

def size (t : Tree) : Nat := t.nodes.size

def ids (t : Tree) : List NodeId := List.range t.size

def root : NodeId := 0

def node (t : Tree) (i : NodeId) : Node := t.nodes.getD i Node.missing

def kind (t : Tree) (i : NodeId) : NodeKind := (t.node i).kind

def span (t : Tree) (i : NodeId) : Span := (t.node i).span

def line (t : Tree) (i : NodeId) : Nat := (t.span i).start.line

def lastLine (t : Tree) (i : NodeId) : Nat := (t.span i).stop.line

def column (t : Tree) (i : NodeId) : Nat := (t.span i).start.column

def parent? (t : Tree) (i : NodeId) : Option NodeId := (t.node i).parent

def children (t : Tree) (i : NodeId) : List NodeId := (t.node i).children

def payload (t : Tree) (i : NodeId) : Payload NodeId := (t.node i).payload

def source (t : Tree) (i : NodeId) : String :=
  String.ofList (Text.Utf8.slice (t.span i).start.offset (t.span i).stop.offset t.text)

def ancestorsBounded (t : Tree) : Nat → NodeId → List NodeId
  | 0, _ => []
  | n + 1, i =>
    match t.parent? i with
    | some p => p :: ancestorsBounded t n p
    | none => []

def ancestors (t : Tree) (i : NodeId) : List NodeId := t.ancestorsBounded t.size i

def unfoldBounded (t : Tree) : Nat → List NodeId → List NodeId
  | 0, _ => []
  | _, [] => []
  | n + 1, i :: pending => i :: unfoldBounded t n (t.children i ++ pending)

def descendants (t : Tree) (i : NodeId) : List NodeId := t.unfoldBounded t.size (t.children i)

def isFrame (k : NodeKind) : Bool := k == .functionDef || k == .classDef || k == .module

def frame (t : Tree) (i : NodeId) : NodeId :=
  ((t.ancestors i).find? fun a => isFrame (t.kind a)).getD root

def isMethod (t : Tree) (i : NodeId) : Bool :=
  t.kind i == .functionDef && ((t.parent? i).map t.kind == some .classDef)

def name? (t : Tree) (i : NodeId) : Option String :=
  match t.payload i with
  | .name id => some id
  | .classDef n _ _ => some n
  | .functionDef n _ _ _ => some n
  | _ => none

def literal? (t : Tree) (i : NodeId) : Option Literal :=
  match t.payload i with
  | .const l => some l
  | _ => none

def str? (t : Tree) (i : NodeId) : Option String := t.literal? i >>= Literal.str?

def func? (t : Tree) (i : NodeId) : Option NodeId :=
  match t.payload i with
  | .call f _ _ => some f
  | _ => none

def callee? (t : Tree) (i : NodeId) : Option String := do
  let f ← t.func? i
  if t.kind f == .name then t.name? f else none

def calleeIn? (t : Tree) (names : List String) (i : NodeId) : Option String :=
  (t.callee? i).filter names.contains

def args (t : Tree) (i : NodeId) : List NodeId :=
  match t.payload i with
  | .call _ as _ => as
  | _ => []

def keyword? (t : Tree) (i : NodeId) : Option (Option String × NodeId) :=
  match t.payload i with
  | .keyword a v => some (a, v)
  | _ => none

def keywords (t : Tree) (i : NodeId) : List (Option String × NodeId) :=
  match t.payload i with
  | .call _ _ ks => ks.filterMap t.keyword?
  | _ => []

def keywordValue? (t : Tree) (i : NodeId) (name : String) : Option NodeId :=
  ((t.keywords i).find? fun k => k.1 == some name).map Prod.snd

def access? (t : Tree) (i : NodeId) : Option (NodeId × String) :=
  match t.payload i with
  | .attribute a o => some (o, a)
  | _ => none

def accessed? (t : Tree) (i : NodeId) : Option String := (t.access? i).map Prod.snd

def object? (t : Tree) (i : NodeId) : Option NodeId := (t.access? i).map Prod.fst

def baseExprs (t : Tree) (i : NodeId) : List NodeId :=
  match t.payload i with
  | .classDef _ bs _ => bs
  | _ => []

def docstring? (t : Tree) (i : NodeId) : Option String :=
  match t.payload i with
  | .module d => d
  | .classDef _ _ d => d
  | .functionDef _ _ d _ => d
  | _ => none

def params (t : Tree) (i : NodeId) : List String :=
  match t.payload i with
  | .functionDef _ ps _ _ => ps
  | _ => []

def elements (t : Tree) (i : NodeId) : List NodeId :=
  match t.payload i with
  | .elements es => es
  | _ => []

def entries (t : Tree) (i : NodeId) : List (NodeId × NodeId) :=
  match t.payload i with
  | .dict is => is
  | _ => []

def operators (t : Tree) (i : NodeId) : List String :=
  match t.payload i with
  | .compare _ ops _ => ops
  | _ => []

def operands (t : Tree) (i : NodeId) : List NodeId :=
  match t.payload i with
  | .compare l _ cs => l :: cs
  | _ => []

def targets (t : Tree) (i : NodeId) : List NodeId :=
  match t.payload i with
  | .assign ts _ => ts
  | _ => []

def value? (t : Tree) (i : NodeId) : Option NodeId :=
  match t.payload i with
  | .assign _ v => v
  | _ => none

def imported (t : Tree) (i : NodeId) : List ImportName :=
  match t.payload i with
  | .imports ns => ns
  | .importFrom _ _ ns => ns
  | _ => []

def importedFrom? (t : Tree) (i : NodeId) : Option String :=
  match t.payload i with
  | .importFrom m _ _ => some m
  | _ => none

def describe (t : Tree) (i : NodeId) : String :=
  (t.kind i).toName ++ "@" ++ toString (t.line i) ++ ":" ++ toString (t.column i)

end Tree

end ConventionLint
