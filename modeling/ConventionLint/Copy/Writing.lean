import ConventionLint.Copy.Known
import ConventionLint.Storage.Sealed
import ConventionLint.Storage.Store

/-! Writing a copy. What has to be done is settled before anything is changed: a copy that has been
edited is moved out of the way, in place of an older one. Then the steps are taken one by one, until one
of them cannot be. -/

namespace ConventionLint.Copy
open ConventionLint.Storage (Path Store)

inductive Status where
  | missing | good | edited
  deriving DecidableEq, Repr

def isIntact? (s : Store) (p : Path) : Option Bool := (s.read? p).map Storage.Sealed.verify

def isIntact (s : Store) (p : Path) : Bool := (isIntact? s p).getD false

/-- What cannot be read counts as edited. -/
def status (s : Store) (p : Path) : Status :=
  if !s.contains p then .missing else if isIntact s p then .good else .edited

inductive Step where
  | say (line : String)
  | remove (p : Path)
  | rename (source target : Path)
  | write (p : Path) (content : Text.Bytes)
  deriving DecidableEq, Repr

def Step.apply? (s : Store) : Step → Option Store
  | .say _ => some s
  | .remove p => s.remove? p
  | .rename source target => s.rename? source target
  | .write p content => s.write? p content

def Step.lines : Step → List String
  | .say line => [line]
  | _ => []

structure Outcome where
  lines : List String
  store : Store
  isDone : Bool
  deriving Repr

def follow (s : Store) : List Step → Outcome
  | [] => ⟨[], s, true⟩
  | step :: steps =>
    match step.apply? s with
    | none => ⟨[], s, false⟩
    | some next =>
      let rest := follow next steps
      ⟨step.lines ++ rest.lines, rest.store, rest.isDone⟩

namespace Known

def target (k : Known) (dir : Path) : Path := dir.child k.name

def backup (k : Known) (dir : Path) : Path := dir.child k.backupName

def keeping (k : Known) (s : Store) (dir : Path) : List Step :=
  .say ("Your copy of " ++ k.name ++ " seems to have been edited, renaming it to " ++ k.backupName) ::
  (if s.contains (k.backup dir) then
    [.say ("A previous " ++ k.backupName ++ " exists, deleting it"), .remove (k.backup dir)]
  else []) ++
  [.rename (k.target dir) (k.backup dir)]

def clearing (k : Known) (s : Store) (dir : Path) : List Step :=
  let saying := Step.say ("Checking existing copy of " ++ k.name)
  match status s (k.target dir) with
  | .missing => []
  | .good => [saying]
  | .edited => saying :: k.keeping s dir

def plan (k : Known) (s : Store) (dir : Path) : List Step :=
  k.clearing s dir ++ [.say ("Writing " ++ k.name), .write (k.target dir) k.content]

def write (k : Known) (s : Store) (dir : Path) : Outcome := follow s (k.plan s dir)

end Known

end ConventionLint.Copy
