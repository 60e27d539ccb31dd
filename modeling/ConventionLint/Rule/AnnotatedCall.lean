import ConventionLint.Annotation.Family
import ConventionLint.Annotation.Matcher
import ConventionLint.Check.Checker

/-! Rules for calls that need an annotation before them. The annotations are known when a file is entered,
the calls are gathered on the way, and when the file is left each call gets its annotation. -/

namespace ConventionLint.Rule.AnnotatedCall
open ConventionLint.Annotation (Family Matcher Outcome Site)
open ConventionLint.Check
open ConventionLint.Report (Message)
open ConventionLint.Tree (NodeId)

structure Subject where
  family : Family
  functions : List String
  nameExpr? : Tree → NodeId → Option NodeId
  missing : Message
  incorrect : Message

def site (t : Tree) (i : NodeId) (name : Option String) : Site :=
  ⟨i, t.line i, t.lastLine i, t.column i, name⟩

def outcomeNotes (s : Subject) : Site × Outcome → List Note
  | (_, .matched) => []
  | (site, .missing) => [.at s.missing site.node []]
  | (site, .incorrect found annotated) => [.at s.incorrect site.node [found, annotated]]

def start (s : Subject) (onGroup : Annotation.Group → List Note) : Handler Matcher :=
  ⟨.enter, "module", fun f _ _ =>
    (.ofGroups (s.family.named f.groups), (s.family.groups f.groups).flatMap onGroup)⟩

def gather (s : Subject) : Handler Matcher :=
  ⟨.enter, "call", fun f i m =>
    match f.tree.calleeIn? s.functions i with
    | none => (m, [])
    | some _ => (m.push (site f.tree i (s.nameExpr? f.tree i >>= f.tree.str?)), [])⟩

def finish (s : Subject) : Handler Matcher :=
  ⟨.leave, "module", fun _ _ m =>
    let (outcomes, m) := m.resolve
    (m, outcomes.flatMap (outcomeNotes s))⟩

end ConventionLint.Rule.AnnotatedCall
