import ConventionLint.Check.Checker

/-! The line before the definition of a feature toggle has to be a comment that documents it. Toggles
are objects of some classes, subclasses of one base and the entries of one dictionary. -/

namespace ConventionLint.Rule.FeatureToggle
open ConventionLint.Check
open ConventionLint.Report (Message)
open ConventionLint.Tree (NodeId)

def needsDocumentation : Message :=
  ⟨"E7640", "feature-toggle-needs-doc", "feature toggle (\x7b\x7d) is missing annotation",
    "feature toggle is missing annotation"⟩

def illegalUsage : Message :=
  ⟨"E7641", "illegal-waffle-usage",
    "illegal waffle usage with (\x7b\x7d): use utility classes WaffleFlag, WaffleSwitch, CourseWaffleFlag.",
    "illegal waffle usage: use utility classes WaffleFlag, WaffleSwitch, CourseWaffleFlag."⟩

def classEndings : List String := ["WaffleFlag", "WaffleSwitch", "CourseWaffleFlag"]

def illegalFunctions : List String := ["flag_is_active", "switch_is_active"]

def unknown : String := "UNKNOWN"

def isDocumented (f : File) (line : Nat) : Bool :=
  Annotation.isAnnotated f.text (line - 1) ["toggle", "documented_elsewhere"]

def shown (t : Tree) (i : NodeId) : String := (t.str? i).getD (t.source i)

def isToggleClass (name : String) : Bool :=
  (name.toList.head?).any Char.isUpper && classEndings.any fun e => File.endsWith name e

def toggleName (t : Tree) (i : NodeId) : String :=
  match t.keywordValue? i "flag_name", (t.args i)[1]? with
  | some v, _ => shown t v
  | none, some a => t.source a
  | none, none => unknown

def notesOnCall (f : File) (i : NodeId) : List Note :=
  match f.tree.callee? i with
  | none => []
  | some name =>
    (if isToggleClass name && !isDocumented f (f.tree.line i) then
      [.at needsDocumentation i [toggleName f.tree i]] else []) ++
    (if illegalFunctions.contains name then
      [.at illegalUsage i [((f.tree.args i).head?.map f.tree.source).getD unknown]] else [])

def notesOnClass (f : File) (i : NodeId) : List Note :=
  if (f.tree.baseExprs i).any fun b => f.tree.source b == "ConfigurationModel" then
    if isDocumented f (f.tree.line i) then []
    else [.at needsDocumentation i [(f.tree.name? i).getD ""]]
  else []

def assignedName? (t : Tree) (i : NodeId) : Option String := do
  let parent ← t.parent? i
  let target ← (t.targets parent).head?
  t.name? target

def notesOnDict (f : File) (i : NodeId) : List Note :=
  if assignedName? f.tree i == some "FEATURES" then
    let keys := (f.tree.entries i).map Prod.fst
    (keys.filter fun k => !isDocumented f (f.tree.line k)).map fun k =>
      .at needsDocumentation i [shown f.tree k]
  else []

def checker : Checker :=
  .stateless "feature-toggle-checker"
    "Checks that feature toggles are annotated and waffle is used through utility classes"
    [needsDocumentation, illegalUsage]
    [.simple "call" notesOnCall, .simple "classdef" notesOnClass, .simple "dict" notesOnDict]

end ConventionLint.Rule.FeatureToggle
