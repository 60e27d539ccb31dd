import ConventionLint.Command.Answer
import ConventionLint.Report.Format
import ConventionLint.Rule.Preset

/-! Linting a file or a directory. The configuration is looked for from there on upwards; checkers that
are named count more than a preset, and a preset that is named more than that of the configuration. -/

namespace ConventionLint.Command
open ConventionLint.Check (Checker)
open ConventionLint.Report (Format)
open ConventionLint.Rule (Preset)
open ConventionLint.Storage (Path Store)

structure LintRequest where
  path : Path
  format : Format
  checkers : Option String
  preset : Option String
  exclude : List String
  config : Option Path
  deriving Repr

namespace LintRequest

def namesOf (text : String) : List String :=
  (Text.splitBy (· == ',') text.toList).map fun piece => String.ofList (Text.trim piece)

def isNamed (names : List String) (c : Checker) : Bool :=
  names.contains c.name || c.messages.any fun m => names.contains m.symbol || names.contains m.code

/-- A preset that does not exist stands for the recommended one. -/
def presetOf (name : Option String) : Preset := (name >>= Preset.ofName?).getD .recommended

def chosen (r : LintRequest) (c : Config) : List Checker :=
  match r.checkers with
  | some text => (Rule.all c).filter (isNamed (namesOf text))
  | none => (presetOf (r.preset <|> c.preset)).checkers c

def inspection (r : LintRequest) (c : Config) : Inspection.Request :=
  ⟨some r.path, some c, r.chosen c, r.exclude, [], false⟩

def runWith (r : LintRequest) (s : Store) (c : Config) : Answer :=
  match Inspection.setUp (.ofKey s.current) (r.inspection c) with
  | .error e => .fail s (.setUp e)
  | .ok x =>
    match x.run s with
    | .error e => .fail s (.inspection e)
    | .ok p =>
      ⟨r.format.render p.findings, p.store, .ok (if p.findings.reaches c.failThreshold then failed else 0)⟩

end LintRequest

def lint (s : Store) (userDir : Option Path) (r : LintRequest) : Answer :=
  match Config.load s (Config.Source.find s userDir r.path r.config) with
  | .error e => .fail s (.config e)
  | .ok c => r.runWith s c

end ConventionLint.Command
