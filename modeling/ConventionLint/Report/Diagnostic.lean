import ConventionLint.Storage.Path

/-! Messages, the findings made from them, the texts in which a finding is shown, and the order in which the findings
of several files are shown. The code of a message implies how serious it is. A pair of braces in a template is a
place for an argument; places are filled from left to right, a place without an argument stays empty and an argument
without a place is left out. Findings come by file, line, column and code, and what is equal in all of these keeps
its order. -/

namespace ConventionLint.Report
open ConventionLint.Storage (Path)

inductive Severity where
  | info | warning | error
  deriving DecidableEq, Repr

namespace Severity

def rank : Severity → Nat
  | .info => 0
  | .warning => 1
  | .error => 2

def reaches (t s : Severity) : Bool := s.rank ≤ t.rank

def toName : Severity → String
  | .info => "info"
  | .warning => "warning"
  | .error => "error"

def ofName? : String → Option Severity
  | "info" => some .info
  | "warning" => some .warning
  | "error" => some .error
  | _ => none

def ofCode (code : String) : Severity :=
  match code.toList with
  | 'E' :: _ | 'F' :: _ => .error
  | 'W' :: _ => .warning
  | _ => .info

end Severity

namespace Template

def fill : List Char → List (List Char) → List Char
  | '\x7b' :: '\x7d' :: rest, args => args.headD [] ++ fill rest args.tail
  | c :: rest, args => c :: fill rest args
  | [], _ => []

def places : List Char → Nat
  | '\x7b' :: '\x7d' :: rest => places rest + 1
  | _ :: rest => places rest
  | [] => 0

end Template

structure Message where
  code : String
  symbol : String
  template : String
  description : String
  deriving DecidableEq, Repr

def Message.severity (m : Message) : Severity := .ofCode m.code

def Message.render (m : Message) (args : List String) : String :=
  String.ofList (Template.fill m.template.toList (args.map String.toList))

/-- Lines and columns count from one; columns, offsets and lengths are in bytes. -/
structure Location where
  file : String
  line : Nat
  column : Nat
  offset : Nat
  length : Nat
  deriving DecidableEq, Repr

structure Diagnostic where
  code : String
  symbol : String
  checker : String
  severity : Severity
  location : Location
  args : List String
  message : String
  deriving DecidableEq, Repr

namespace Diagnostic

def ofMessage (m : Message) (checker : String) (location : Location) (args : List String) :
    Diagnostic :=
  ⟨m.code, m.symbol, checker, m.severity, location, args, m.render args⟩

def place (d : Diagnostic) : String :=
  d.location.file ++ ":" ++ toString d.location.line ++ ":" ++ toString d.location.column

def compact (d : Diagnostic) : String :=
  d.place ++ ": " ++ d.severity.toName ++ " [" ++ d.code ++ "(" ++ d.symbol ++ ")] " ++ d.message

def paragraph (d : Diagnostic) : String :=
  d.code ++ " " ++ d.symbol ++ " at " ++ d.place ++ "\n  " ++ d.severity.toName ++ ": " ++
    d.message ++ "\n"

def headline (d : Diagnostic) : String := "[" ++ d.code ++ "] " ++ d.message

def filePath (d : Diagnostic) : Path := .ofString d.location.file

def beforeInFile (a b : Diagnostic) : Bool :=
  a.location.line < b.location.line || (a.location.line == b.location.line &&
    (a.location.column < b.location.column || (a.location.column == b.location.column &&
      a.code < b.code)))

def before (a b : Diagnostic) : Bool :=
  a.filePath.before b.filePath || (!b.filePath.before a.filePath && a.beforeInFile b)

end Diagnostic

def inOrder (ds : List Diagnostic) : List Diagnostic := ds.mergeSort fun a b => !b.before a

end ConventionLint.Report
