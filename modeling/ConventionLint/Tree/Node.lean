import ConventionLint.Grammar.Token
import ConventionLint.Tree.Literal

/-! The nodes that rules look at. A node has a kind, a span, its place among the others and data that
depend on the kind. References in the data are of any type: positions among the children while a tree
is built, indices in the arena afterwards. -/

namespace ConventionLint.Tree
open ConventionLint.Grammar (Span)

inductive NodeKind where
  | module | classDef | functionDef | call | keyword | name | attribute | const | joinedStr | dict
  | list | tuple | set | compare | assign | imports | importFrom | other
  deriving DecidableEq, Repr

namespace NodeKind

/-- The kinds that rules may ask for, by their names; every kind's own name comes before its aliases. -/
def table : List (String × NodeKind) :=
  [("module", .module), ("classdef", .classDef), ("functiondef", .functionDef), ("call", .call),
   ("keyword", .keyword), ("name", .name), ("attribute", .attribute), ("const", .const),
   ("joinedstr", .joinedStr), ("dict", .dict), ("list", .list), ("tuple", .tuple), ("set", .set),
   ("compare", .compare), ("assign", .assign), ("import", .imports), ("importfrom", .importFrom),
   ("class", .classDef), ("function", .functionDef), ("asyncfunctiondef", .functionDef),
   ("callfunc", .call), ("getattr", .attribute), ("from", .importFrom)]

def lowered (s : String) : String := String.ofList (s.toList.map Char.toLower)

def ofName? (s : String) : Option NodeKind :=
  (table.find? fun e => e.1 == lowered s).map Prod.snd

def toName (k : NodeKind) : String :=
  ((table.find? fun e => e.2 == k).map Prod.fst).getD "other"

def ownNames : List String := (table.filter fun e => e.2.toName == e.1).map Prod.fst

end NodeKind

structure ImportName where
  name : String
  newName : Option String
  deriving DecidableEq, Repr

inductive Payload (ρ : Type) where
  | empty
  | module (docstring : Option String)
  | classDef (name : String) (bases : List ρ) (docstring : Option String)
  | functionDef (name : String) (params : List String) (docstring : Option String) (isAsync : Bool)
  | call (func : ρ) (args keywords : List ρ)
  /-- Without a name the value is spread over several arguments. -/
  | keyword (arg : Option String) (value : ρ)
  | name (id : String)
  | attribute (attr : String) (expr : ρ)
  | const (value : Literal)
  | dict (items : List (ρ × ρ))
  | elements (items : List ρ)
  | compare (left : ρ) (ops : List String) (comparators : List ρ)
  | assign (targets : List ρ) (value : Option ρ)
  | imports (names : List ImportName)
  | importFrom (module : String) (level : Nat) (names : List ImportName)
  | other (kind : String)
  deriving DecidableEq, Repr

namespace Payload

def map (f : α → β) : Payload α → Payload β
  | .empty => .empty
  | .module d => .module d
  | .classDef n bs d => .classDef n (bs.map f) d
  | .functionDef n ps d a => .functionDef n ps d a
  | .call g as ks => .call (f g) (as.map f) (ks.map f)
  | .keyword a v => .keyword a (f v)
  | .name i => .name i
  | .attribute a e => .attribute a (f e)
  | .const l => .const l
  | .dict is => .dict (is.map fun (k, v) => (f k, f v))
  | .elements es => .elements (es.map f)
  | .compare l ops cs => .compare (f l) ops (cs.map f)
  | .assign ts v => .assign (ts.map f) (v.map f)
  | .imports ns => .imports ns
  | .importFrom m l ns => .importFrom m l ns
  | .other k => .other k

def refs : Payload ρ → List ρ
  | .classDef _ bs _ => bs
  | .call g as ks => g :: as ++ ks
  | .keyword _ v => [v]
  | .attribute _ e => [e]
  | .dict is => is.flatMap fun (k, v) => [k, v]
  | .elements es => es
  | .compare l _ cs => l :: cs
  | .assign ts v => ts ++ v.toList
  | _ => []

theorem refs_map (f : α → β) (p : Payload α) : (p.map f).refs = p.refs.map f := by
  cases p <;> simp [map, refs, List.flatMap_map, List.map_flatMap]
  case assign ts v => cases v <;> simp

end Payload

abbrev NodeId := Nat

structure Node where
  kind : NodeKind
  span : Span
  parent : Option NodeId
  children : List NodeId
  payload : Payload NodeId
  deriving DecidableEq, Repr

end ConventionLint.Tree
