import ConventionLint.Report.Diagnostic
import ConventionLint.Text.Cut

/-! What a run over some files has found. -/

namespace ConventionLint.Report

structure Findings where
  diagnostics : List Diagnostic
  filesChecked : Nat
  deriving DecidableEq, Repr

namespace Findings

def empty : Findings := ⟨[], 0⟩

def push (f : Findings) (d : Diagnostic) : Findings := ⟨f.diagnostics ++ [d], f.filesChecked⟩

def append (f g : Findings) : Findings :=
  ⟨f.diagnostics ++ g.diagnostics, f.filesChecked + g.filesChecked⟩

instance : Append Findings := ⟨append⟩

def bySeverity (f : Findings) (s : Severity) : List Diagnostic :=
  f.diagnostics.filter fun d => d.severity == s

def bySymbol (f : Findings) (symbol : String) : List Diagnostic :=
  f.diagnostics.filter fun d => d.symbol == symbol

def count (f : Findings) (s : Severity) : Nat := (f.bySeverity s).length

def hasErrors (f : Findings) : Bool := f.diagnostics.any fun d => d.severity == .error

def reaches (f : Findings) (threshold : Severity) : Bool :=
  f.diagnostics.any fun d => d.severity.reaches threshold

def hasAt (f : Findings) (ending : String) (line : Nat) (symbol : String) : Bool :=
  f.diagnostics.any fun d =>
    (Text.dropHead? ending.toList.reverse d.location.file.toList.reverse).isSome &&
      d.location.line == line && d.symbol == symbol

def totals (f : Findings) : String :=
  "Found " ++ toString (f.count .error) ++ " error(s), " ++ toString (f.count .warning) ++
    " warning(s), " ++ toString (f.count .info) ++ " info(s) in " ++ toString f.filesChecked ++
    " file(s)"

def summary (f : Findings) : String :=
  String.join (f.diagnostics.map fun d => d.paragraph ++ "\n") ++ "\n" ++ f.totals ++ "\n"

end Findings

end ConventionLint.Report
