import ConventionLint.Command.Answer
import ConventionLint.Copy.Writing
import ConventionLint.Text.Quoted

/-! Checking and writing copies of known files. -/

namespace ConventionLint.Command
open ConventionLint.Copy (Known Status)
open ConventionLint.Storage (Path Store)

def checkLines (name : String) : Status → List String
  | .missing => ["You don't have a copy of " ++ name]
  | .good => ["Checking existing copy of " ++ name, "Your copy of " ++ name ++ " is good"]
  | .edited =>
    ["Checking existing copy of " ++ name,
     "Your copy of " ++ name ++ " seems to have been edited"]

/-- Any file may be checked; whatever comes out is no failure. -/
def check (s : Store) (p : Path) : Answer :=
  .say s (checkLines p.toString (Copy.status s p)) 0

def write (s : Store) (dir : Path) (name : String) : Answer :=
  match Known.ofName? name with
  | none => .say s ["Don't have file " ++ Text.Quoted.ofString name ++ " to write."] misused
  | some k =>
    let o := k.write s dir
    ⟨ofLines o.lines, o.store, if o.isDone then .ok 0 else .error .storage⟩

end ConventionLint.Command
