import ConventionLint.Config.Basic
import ConventionLint.Storage.Store

/-! Where the configuration of a run comes from: from a file that is named, from the project that the
linted path belongs to, from the directory of the user, or from nowhere. A project ends at the first
directory on the way up that holds a repository. -/

namespace ConventionLint.Config
open ConventionLint.Storage (Path Store)

inductive Source where
  | explicit (p : Path)
  | project (p : Path)
  | global (p : Path)
  | builtIn
  deriving DecidableEq, Repr

namespace Source

def path? : Source → Option Path
  | explicit p | project p | global p => some p
  | builtIn => none

def isGlobal : Source → Bool
  | global _ => true
  | _ => false

def projectNames : List String := ["edx-lint.toml", ".edx-lint.toml"]

def globalName : String := "config.toml"

def startOf (s : Store) (target : Path) : Path :=
  let dir := if s.isFile target then (target.parent?).getD target else target
  if dir.toString.isEmpty then .ofString "." else dir

/-- The way up from the linted path. What does not exist is taken as it is written. -/
def directories (s : Store) (target : Path) : List Path :=
  let start := startOf s target
  ((s.canonical? start).getD start).ancestors

def inDirectory? (s : Store) (dir : Path) : Option Path :=
  (projectNames.map dir.child).find? s.isFile

def endsProject (s : Store) (dir : Path) : Bool := s.contains (dir.child ".git")

def onTheWay? (s : Store) : List Path → Option Path
  | [] => none
  | dir :: above =>
    match inDirectory? s dir with
    | some found => some found
    | none => if endsProject s dir then none else onTheWay? s above

def ofUser? (s : Store) (userDir : Option Path) : Option Path :=
  (userDir.map fun dir => dir.child globalName).filter s.isFile

def find (s : Store) (userDir : Option Path) (target : Path) (named : Option Path) : Source :=
  match named with
  | some p => explicit p
  | none =>
    match onTheWay? s (directories s target) with
    | some p => project p
    | none =>
      match ofUser? s userDir with
      | some p => global p
      | none => builtIn

end Source

inductive LoadError where
  | unreadable (p : Path)
  | malformed (p : Path)
  deriving DecidableEq, Repr

def ofFile (s : Store) (p : Path) : Except LoadError Config :=
  match s.read? p >>= Text.Utf8.decode? with
  | none => .error (.unreadable p)
  | some text =>
    match parse? text with
    | none => .error (.malformed p)
    | some c => .ok c

def load (s : Store) (source : Source) : Except LoadError Config :=
  match source.path? with
  | none => .ok .default
  | some p => ofFile s p

end ConventionLint.Config
