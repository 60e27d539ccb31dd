import ConventionLint.Report.Document

/-! The ways in which findings are shown. -/

namespace ConventionLint.Report

inductive Format where
  | text
  | json
  | compact
  deriving DecidableEq, Repr

inductive Colour where
  | red | green | yellow | blue
  deriving DecidableEq, Repr

namespace Colour

def number : Colour → Nat
  | .red => 31
  | .green => 32
  | .yellow => 33
  | .blue => 34

def paint (c : Colour) (s : String) : String := "\x1b[" ++ toString c.number ++ "m" ++ s ++ "\x1b[0m"

def ofSeverity : Severity → Colour
  | .error => .red
  | .warning => .yellow
  | .info => .blue

def ofFindings (f : Findings) : Colour :=
  if 0 < f.count .error then .red else if 0 < f.count .warning then .yellow else .green

end Colour

def Diagnostic.coloured (d : Diagnostic) : String :=
  d.code ++ " " ++ d.symbol ++ " at " ++ d.place ++ "\n  " ++
    (Colour.ofSeverity d.severity).paint d.severity.toName ++ ": " ++ d.message ++ "\n\n"

def Findings.coloured (f : Findings) : String :=
  String.join (f.diagnostics.map Diagnostic.coloured) ++ (Colour.ofFindings f).paint f.totals ++ "\n"

def Findings.compact (f : Findings) : String :=
  String.join (f.diagnostics.map fun d => d.compact ++ "\n")

namespace Format

def ofName? : String → Option Format
  | "text" => some .text
  | "json" => some .json
  | "compact" => some .compact
  | _ => none

def render (format : Format) (f : Findings) : String :=
  match format with
  | .text => f.coloured
  | .json => f.document.render ++ "\n"
  | .compact => f.compact

end Format

end ConventionLint.Report
