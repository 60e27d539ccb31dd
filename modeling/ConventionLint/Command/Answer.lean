import ConventionLint.Config.Source
import ConventionLint.Inspection.Run

/-! What a command leaves behind: what it has printed, the files, and a status or the reason why it has
stopped. -/

namespace ConventionLint.Command
open ConventionLint.Storage (Store)

inductive Failure where
  | config (e : Config.LoadError)
  | setUp (e : Inspection.SetupError)
  | inspection (e : Inspection.RunError)
  | storage
  deriving DecidableEq, Repr

structure Answer where
  output : String
  store : Store
  result : Except Failure Nat

/-- The status of a run that has found what it was to look for, or of a question that makes no sense. -/
def failed : Nat := 1

def misused : Nat := 2

def ofLines (lines : List String) : String := String.join (lines.map fun l => l ++ "\n")

def Answer.say (s : Store) (lines : List String) (status : Nat) : Answer :=
  ⟨ofLines lines, s, .ok status⟩

def Answer.fail (s : Store) (e : Failure) : Answer := ⟨"", s, .error e⟩

namespace Failure

def message : Failure → String
  | config (.unreadable p) | config (.malformed p) => "Failed to load config: " ++ p.toString
  | setUp (.registration e) => "Failed to build analyzer: " ++ e.message
  | setUp (.pattern e) => "Failed to build analyzer: " ++ e.message
  | inspection .discovery => "Analysis failed"
  | inspection (.unreadable p) | inspection (.unparsable p) => "Analysis failed: " ++ p.toString
  | storage => "Failed to write"

end Failure

end ConventionLint.Command
