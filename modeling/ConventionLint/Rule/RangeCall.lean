import ConventionLint.Check.Checker

/-! A call of `range` that begins at zero or goes in steps of one need not say so. -/

namespace ConventionLint.Rule.RangeCall
open ConventionLint.Check
open ConventionLint.Report (Message)
open ConventionLint.Tree (NodeId)

def simplifiable : Message :=
  ⟨"C7620", "simplifiable-range", "\x7b\x7d() call could be \x7b\x7d",
    "range() call could be simplified"⟩

def functions : List String := ["range", "xrange"]

inductive Shorter where
  | stopOnly | startAndStop
  deriving DecidableEq, Repr

def Shorter.text : Shorter → String
  | .stopOnly => "single-argument"
  | .startAndStop => "two-argument"

def shorter? : List (Option Int) → Option Shorter
  | [start, _] => if start = some 0 then some .stopOnly else none
  | [start, _, step] =>
    if step = some 1 then some (if start = some 0 then .stopOnly else .startAndStop) else none
  | _ => none

def intOf (t : Tree) (i : NodeId) : Option Int := t.literal? i >>= Tree.Literal.int?

def notes (f : File) (i : NodeId) : List Note :=
  match f.tree.calleeIn? functions i, shorter? ((f.tree.args i).map (intOf f.tree)) with
  | some name, some better => [.at simplifiable i [name, better.text]]
  | _, _ => []

def checker : Checker :=
  .stateless "range-checker" "Checks for range() calls that could be simpler" [simplifiable]
    [.simple "call" notes]

end ConventionLint.Rule.RangeCall
