import ConventionLint.Ignore.RuleSet
import ConventionLint.Storage.Store
import ConventionLint.Text.Line

/-! The rules for what is in a directory come from its own ignore files and from those of all directories
above it. Rules of nearer directories have more weight, and rules for everyone more than rules of a
repository, which count only inside of it. -/

namespace ConventionLint.Ignore
open ConventionLint.Storage (Key Store Path)

structure Layer where
  depth : Nat
  own : RuleSet
  repository : RuleSet
  excluded : RuleSet
  holdsRepository : Bool
  deriving Repr

namespace Layer

def rulesAt (s : Store) (k : Key) : RuleSet :=
  match s.contentAt? k with
  | some content => .ofContent content
  | none => .none

def firstLine? (s : Store) (p : Path) : Option (List Char) := do
  let content ← s.read? p
  (Text.lines (Text.Utf8.decode content)).head?

/-- The directory with the data that all working copies of a repository share. In a working copy that
was added later a file says where to look. -/
def sharedDirectory? (s : Store) (dir : Key) : Option Path :=
  if (s.contentAt? (dir ++ [".git"])).isNone then some (.ofKey (dir ++ [".git"]))
  else do
    let line ← firstLine? s (.ofKey (dir ++ [".git"]))
    let rest ← Text.dropHead? "gitdir: ".toList line
    let real := Path.ofString (String.ofList rest)
    let shared ← firstLine? s (real.child "commondir")
    let target := Path.ofString (String.ofList shared)
    return if shared.head? = some '.' then real.join target else target

def ofDirectory (s : Store) (withRepositories : Bool) (dir : Key) : Layer :=
  let excluded := (sharedDirectory? s dir).bind fun d => s.read? ((d.child "info").child "exclude")
  { depth := dir.length
    own := rulesAt s (dir ++ [".ignore"])
    repository := if withRepositories then rulesAt s (dir ++ [".gitignore"]) else .none
    excluded := if withRepositories then (excluded.map RuleSet.ofContent).getD .none else .none
    holdsRepository := withRepositories && (s.entry? (dir ++ [".git"])).isSome }

def isFaulty (l : Layer) : Bool := l.own.isFaulty || l.repository.isFaulty || l.excluded.isFaulty

end Layer

def chain (dir : Key) : List Key := ((List.range (dir.length + 1)).map dir.take).reverse

def layers (s : Store) (withRepositories : Bool) (dir : Key) : List Layer :=
  (chain dir).map (Layer.ofDirectory s withRepositories)

def insideRepository : List Layer → List Layer
  | [] => []
  | l :: ls =>
    if l.holdsRepository then [l]
    else match insideRepository ls with
      | [] => []
      | rest => l :: rest

def relative (k : Key) (depth : Nat) : Text.Bytes :=
  Text.Utf8.encode ("/".intercalate (k.drop depth)).toList

def firstVerdict? (rules : Layer → RuleSet) (k : Key) (isDirectory : Bool) (ls : List Layer) :
    Option Verdict :=
  ls.findSome? fun l => (rules l).verdict? (relative k l.depth) isDirectory

def verdict? (ls : List Layer) (k : Key) (isDirectory : Bool) : Option Verdict :=
  (firstVerdict? Layer.own k isDirectory ls).or
    ((firstVerdict? Layer.repository k isDirectory (insideRepository ls)).or
      (firstVerdict? Layer.excluded k isDirectory (insideRepository ls)))

def isIgnored (s : Store) (withRepositories : Bool) (k : Key) : Bool :=
  verdict? (layers s withRepositories k.dropLast) k (s.isDirectoryAt k) == some .ignored

end ConventionLint.Ignore
