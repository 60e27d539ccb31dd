import ConventionLint.Report.Diagnostic
import ConventionLint.Text.Line
import ConventionLint.Toml.Document

/-! What a project sets: which files are looked at, which messages and checkers count, and options of
single checkers. It is read from TOML; what is not known there is passed over, and what is known but of
the wrong type is a fault. -/

namespace ConventionLint

open Report (Severity)

structure CheckerSettings where
  enabled : Option Bool
  severity : Option Severity
  options : Toml.Entries
  deriving Repr

structure FileSelection where
  root : String
  exclude : List String
  only : List String
  respectsIgnoreFiles : Bool
  deriving DecidableEq, Repr

structure Config where
  preset : Option String
  failOn : Option Severity
  files : FileSelection
  disabled : List String
  checkers : List (String × CheckerSettings)
  deriving Repr

namespace FileSelection

def default : FileSelection :=
  ⟨".", ["**/.tox/**", "**/node_modules/**", "**/.venv/**"], [], true⟩

end FileSelection

namespace Config

def default : Config := ⟨none, none, .default, [], []⟩

/-- The fields of a section. It may be a table, or an array of the first fields in their order. -/
def fieldsOf? (names : List String) : Toml.Value → Option Toml.Entries
  | .table es => some es
  | .array vs => some (names.zip vs)
  | _ => none

def field? (es : Toml.Entries) (key : String) (read : Toml.Value → Option α) : Option (Option α) :=
  match es.get? key with
  | none => some none
  | some v => (read v).map some

/-- A severity is written by its name, or as the only and empty entry of a table. -/
def readSeverity? : Toml.Value → Option Severity
  | .string s => Severity.ofName? s
  | .table [(s, v)] => if v.isEmptyGroup then Severity.ofName? s else none
  | _ => none

def readFiles? (v : Toml.Value) : Option FileSelection := do
  let es ← fieldsOf? ["root", "exclude", "include", "respect_gitignore"] v
  let root ← field? es "root" Toml.Value.string?
  let exclude ← field? es "exclude" Toml.Value.strings?
  let only ← field? es "include" Toml.Value.strings?
  let respects ← field? es "respect_gitignore" Toml.Value.boolean?
  return ⟨root.getD ".", exclude.getD [], only.getD [], respects.getD true⟩

def readDisabled? (v : Toml.Value) : Option (List String) := do
  let es ← fieldsOf? ["disable"] v
  return (← field? es "disable" Toml.Value.strings?).getD []

def readChecker? : Toml.Value → Option CheckerSettings
  | .table es => do
    let enabled ← field? es "enabled" Toml.Value.boolean?
    let severity ← field? es "severity" readSeverity?
    return ⟨enabled, severity, es.filter fun e => e.1 != "enabled" && e.1 != "severity"⟩
  | _ => none

def readCheckers? : Toml.Value → Option (List (String × CheckerSettings))
  | .table es => es.mapM fun (name, v) => (readChecker? v).map fun s => (name, s)
  | _ => none

def ofEntries? (es : Toml.Entries) : Option Config := do
  let preset ← field? es "preset" Toml.Value.string?
  let failOn ← field? es "fail_on" readSeverity?
  let files ← field? es "analyzer" readFiles?
  let disabled ← field? es "messages" readDisabled?
  let checkers ← field? es "checkers" readCheckers?
  return ⟨preset, failOn, files.getD .default, disabled.getD [], checkers.getD []⟩

def parse? (text : List Char) : Option Config := Toml.parse? text >>= ofEntries?

def checker? (c : Config) (name : String) : Option CheckerSettings :=
  (c.checkers.find? fun e => e.1 == name).map Prod.snd

def isCheckerEnabled (c : Config) (name : String) : Bool :=
  ((c.checker? name >>= CheckerSettings.enabled)).getD true

def severityOf? (c : Config) (name : String) : Option Severity :=
  c.checker? name >>= CheckerSettings.severity

def isMessageEnabled (c : Config) (symbol code : String) : Bool :=
  !(c.disabled.any fun d => d == symbol || d == code || d == "all")

def failThreshold (c : Config) : Severity := c.failOn.getD .error

end Config

namespace CheckerSettings

def strings (s : CheckerSettings) (key : String) : List String :=
  match s.options.get? key with
  | some (.array vs) => vs.filterMap Toml.Value.string?
  | some (.string text) =>
    let pieces := (Text.splitBy (· == ',') text.toList).map Text.trim
    (pieces.filter fun p => !p.isEmpty).map String.ofList
  | _ => []

def text? (s : CheckerSettings) (key : String) : Option String :=
  s.options.get? key >>= Toml.Value.text?

def integer? (s : CheckerSettings) (key : String) : Option Int :=
  s.options.get? key >>= Toml.Value.integer?

def boolean? (s : CheckerSettings) (key : String) : Option Bool :=
  s.options.get? key >>= Toml.Value.boolean?

end CheckerSettings

end ConventionLint
