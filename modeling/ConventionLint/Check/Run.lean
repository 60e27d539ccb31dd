import ConventionLint.Check.Checker
import ConventionLint.Comment.Pragma
import ConventionLint.Config.Basic

/-! Running checkers on a file. A configuration switches off checkers and messages, pragmas in the file
switch off messages in some lines, and the configuration may set the severity of a checker. -/

namespace ConventionLint.Check
open ConventionLint.Report (Diagnostic Location)

def Place.location (f : File) : Place → Location
  | .node i =>
    let span := f.tree.span i
    ⟨f.relative.toString, span.start.line, span.start.column + 1, span.start.offset,
      span.stop.offset - span.start.offset⟩
  | .line n => ⟨f.relative.toString, n, 1, f.offsetAt n 1, 0⟩

def Finding.diagnostic (checker : String) (f : File) (finding : Finding) : Diagnostic :=
  .ofMessage finding.message checker (finding.place.location f) finding.args

def Note.finding? : Note → Option Finding
  | .finding f => some f
  | .visited _ => none

def Note.record? : Note → Option String
  | .finding _ => none
  | .visited r => some r

def rawDiagnostics (f : File) (checker : String) (notes : List Note) : List Diagnostic :=
  notes.filterMap fun n => n.finding?.map fun x => x.diagnostic checker f

def isWanted (config : Config) (suppressions : List Comment.Suppression) (d : Diagnostic) : Bool :=
  config.isMessageEnabled d.symbol d.code &&
    !Comment.isSuppressed suppressions d.location.line d.symbol d.code

def withSeverity (config : Config) (d : Diagnostic) : Diagnostic :=
  match config.severityOf? d.checker with
  | some s => { d with severity := s }
  | none => d

structure Result where
  diagnostics : List Diagnostic
  records : List String
  deriving DecidableEq, Repr

def enabled (config : Config) (checkers : List Checker) : List Checker :=
  checkers.filter fun c => config.isCheckerEnabled c.name

def run (config : Config) (checkers : List Checker) (f : File) : Result :=
  let suppressions := Comment.Suppression.ofText f.text
  let noted := (enabled config checkers).map fun c => (c.name, c.notes f)
  let diagnostics := noted.flatMap fun (name, notes) =>
    ((rawDiagnostics f name notes).filter (isWanted config suppressions)).map (withSeverity config)
  ⟨diagnostics, noted.flatMap fun (_, notes) => notes.filterMap Note.record?⟩

end ConventionLint.Check
