import ConventionLint.Tree.Node

/-! Annotated names and the calls that they belong to. Calls wait until they are resolved together in
the order of their places; each takes the first annotation that is left and not below it. -/

namespace ConventionLint.Annotation

structure Site where
  node : Tree.NodeId
  line : Nat
  lastLine : Nat
  column : Nat
  name : Option String
  deriving DecidableEq, Repr

inductive Outcome where
  | matched
  | missing
  /-- The call gives one annotated name and the annotation before it another one. -/
  | incorrect (found annotated : String)
  deriving DecidableEq, Repr

structure Matcher where
  left : List (Nat × String)
  known : List String
  sites : List Site
  deriving DecidableEq, Repr

namespace Matcher

def sortByLine (groups : List (Nat × String)) : List (Nat × String) :=
  groups.mergeSort fun a b => a.1 ≤ b.1

def ofGroups (groups : List (Nat × String)) : Matcher :=
  let sorted := sortByLine groups
  ⟨sorted, (sorted.map Prod.snd).filter fun n => !n.isEmpty, []⟩

def isKnown (m : Matcher) (name : String) : Bool := m.known.contains name

def push (m : Matcher) (s : Site) : Matcher := { m with sites := m.sites ++ [s] }

def judge (known : List String) (annotated : String) : Option String → Outcome
  | none => .matched
  | some found =>
    if found == annotated then .matched
    else if known.contains found then .incorrect found annotated
    else .missing

def matchSite (known : List String) (left : List (Nat × String)) (s : Site) :
    Outcome × List (Nat × String) :=
  match left with
  | [] => (.missing, [])
  | (line, annotated) :: rest =>
    if line ≤ s.lastLine then (judge known annotated s.name, rest) else (.missing, left)

def matchSites (known : List String) :
    List (Nat × String) → List Site → List (Site × Outcome) × List (Nat × String)
  | left, [] => ([], left)
  | left, s :: ss =>
    let (outcome, left) := matchSite known left s
    let (outcomes, left) := matchSites known left ss
    ((s, outcome) :: outcomes, left)

def siteBefore (a b : Site) : Bool := a.line < b.line || (a.line == b.line && a.column ≤ b.column)

def sortSites (sites : List Site) : List Site := sites.mergeSort siteBefore

def resolve (m : Matcher) : List (Site × Outcome) × Matcher :=
  let (outcomes, left) := matchSites m.known m.left (sortSites m.sites)
  (outcomes, ⟨left, m.known, []⟩)

end Matcher

end ConventionLint.Annotation
