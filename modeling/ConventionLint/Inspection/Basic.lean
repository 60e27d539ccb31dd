import ConventionLint.Check.Registry
import ConventionLint.Check.Run
import ConventionLint.Encoding.Basic
import ConventionLint.Glob.Pattern

/-! An inspection: checkers with a configuration, the root of a project, and which of its files are meant.
Here it is set up and applied to the bytes of one file. -/

namespace ConventionLint
open Check (Checker RegistrationError)
open Storage (Path)

structure Inspection where
  /-- Always absolute. -/
  root : Path
  checkers : List Checker
  exclude : List Glob.Pattern
  only : List Glob.Pattern
  config : Config
  /-- Whether a file that cannot be parsed is an error; otherwise it is passed over. -/
  isStrict : Bool

namespace Inspection

inductive SetupError where
  | registration (e : RegistrationError)
  | pattern (e : Glob.PatternError)
  deriving DecidableEq, Repr

structure Request where
  root : Option Path
  config : Option Config
  checkers : List Checker
  exclude : List String
  only : List String
  isStrict : Bool

namespace Request

def settings (r : Request) : Config := r.config.getD .default

def absoluteRoot (current : Path) (r : Request) : Path :=
  current.join (r.root.getD (.ofString r.settings.files.root))

def excludeTexts (r : Request) : List String :=
  r.exclude ++ (r.config.map fun c => c.files.exclude).getD []

def onlyTexts (r : Request) : List String :=
  r.only ++ (r.config.map fun c => c.files.only).getD []

end Request

def setUp (current : Path) (r : Request) : Except SetupError Inspection :=
  match Check.Registry.validate r.checkers with
  | .error e => .error (.registration e)
  | .ok () =>
    match Glob.Pattern.parseAll r.excludeTexts with
    | .error e => .error (.pattern e)
    | .ok exclude =>
      match Glob.Pattern.parseAll r.onlyTexts with
      | .error e => .error (.pattern e)
      | .ok only => .ok ⟨r.absoluteRoot current, r.checkers, exclude, only, r.settings, r.isStrict⟩

def check (x : Inspection) (path : Path) (source : Text.Bytes) :
    Except Grammar.Failure Check.Result :=
  (Tree.parse (Encoding.decode source).text).map fun t =>
    Check.run x.config x.checkers (.ofTree path x.root t)

def isExcluded (x : Inspection) (path : Path) : Bool :=
  x.exclude.any fun p => p.excludes path.toString

def isIncluded (x : Inspection) (path : Path) : Bool :=
  x.only.isEmpty || x.only.any fun p => p.fits (path.relativeTo x.root).toString

end Inspection

end ConventionLint
