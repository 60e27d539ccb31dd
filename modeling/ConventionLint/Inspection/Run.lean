import ConventionLint.Ignore.Layer
import ConventionLint.Inspection.Basic
import ConventionLint.Report.Diagnostic
import ConventionLint.Report.Findings

/-! Inspecting files one after the other: all below a root that end in `.py`, are not ignored, not excluded, and
included if there is a choice. Ignore files do not count if the root is a file itself. What checkers record is
written as soon as a file is done, so that a later file may be a record of earlier ones. -/

namespace ConventionLint.Inspection
open Report (Diagnostic Findings)
open Storage (Key Path Store)

def below (root k : Key) : List Key :=
  (List.range (k.length - root.length)).map fun n => k.take (root.length + n + 1)

def isHidden (x : Inspection) (s : Store) (root k : Key) : Bool :=
  (below root k).any (Ignore.isIgnored s x.config.files.respectsIgnoreFiles)

def pathOf (x : Inspection) (root k : Key) : Path := (k.drop root.length).foldl Path.child x.root

def isMeant (x : Inspection) (path : Path) : Bool :=
  path.extension? == some "py" && !x.isExcluded path && x.isIncluded path

def hasFaultAbove (x : Inspection) (s : Store) (root : Key) : Bool :=
  root != [] &&
    (Ignore.layers s x.config.files.respectsIgnoreFiles root.dropLast).any Ignore.Layer.isFaulty

def sortPaths (paths : List Path) : List Path := paths.mergeSort fun a b => !b.before a

/-- The files in their order. There is no answer if the root does not exist, or if rules from above it
cannot be read. -/
def discover? (x : Inspection) (s : Store) : Option (List Path) := do
  let root ← s.locate? x.root
  let entry ← s.entry? root
  if entry != .directory then return [x.root].filter x.isMeant
  else if x.hasFaultAbove s root then none
  else
    let files := (s.filesWithin root).filter fun k => !x.isHidden s root k
    return sortPaths ((files.map (x.pathOf root)).filter x.isMeant)

inductive RunError where
  | discovery
  | unreadable (path : Path)
  | unparsable (path : Path)
  deriving DecidableEq, Repr

/-- Adds a line to a record. A record that cannot be written is left alone. -/
def record (s : Store) (file record : String) : Store :=
  (s.append? (.ofString record) (Text.Utf8.encode (file ++ "\n").toList)).getD s

structure Progress where
  findings : Findings
  store : Store

def advance (x : Inspection) (p : Progress) (path : Path) : Except RunError Progress :=
  match p.store.read? path with
  | none => .error (.unreadable path)
  | some source =>
    match x.check path source with
    | .error _ => if x.isStrict then .error (.unparsable path) else .ok p
    | .ok o => .ok
      ⟨p.findings ++ ⟨o.diagnostics, 1⟩, o.records.foldl (fun s r => record s path.toString r) p.store⟩

def advanceAll (x : Inspection) : Progress → List Path → Except RunError Progress
  | p, [] => .ok p
  | p, path :: paths =>
    match x.advance p path with
    | .error e => .error e
    | .ok p => advanceAll x p paths

def runOn (x : Inspection) (s : Store) (paths : List Path) : Except RunError Progress :=
  (x.advanceAll ⟨.empty, s⟩ paths).map fun p =>
    ⟨⟨Report.inOrder p.findings.diagnostics, p.findings.filesChecked⟩, p.store⟩

def run (x : Inspection) (s : Store) : Except RunError Progress :=
  match x.discover? s with
  | none => .error .discovery
  | some paths => x.runOn s paths

end ConventionLint.Inspection
