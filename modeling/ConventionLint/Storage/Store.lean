import ConventionLint.Storage.Path
import ConventionLint.Text.Utf8

/-! Files and directories. Each has a key, the names on the way to it from the top; the top itself is always there. A
path leads from directory to directory and is read from a current one. A change has an outcome only if it can be
made. -/

namespace ConventionLint.Storage
open ConventionLint.Text (Bytes)

abbrev Key := List String

inductive Entry where
  | file (content : Bytes)
  | directory
  deriving DecidableEq, Repr

structure Store where
  entries : List (Key × Entry)
  current : Key
  deriving Repr

def Path.ofKey (k : Key) : Path := ⟨true, k⟩

namespace Store

def empty : Store := ⟨[], []⟩

def entry? (s : Store) (k : Key) : Option Entry :=
  if k.isEmpty then some .directory else s.entries.lookup k

def isDirectoryAt (s : Store) (k : Key) : Bool := s.entry? k == some .directory

def contentAt? (s : Store) (k : Key) : Option Bytes :=
  match s.entry? k with
  | some (.file content) => some content
  | _ => none

def erase (s : Store) (k : Key) : Store := { s with entries := s.entries.filter fun e => e.1 != k }

def insert (s : Store) (k : Key) (e : Entry) : Store :=
  { s with entries := (s.erase k).entries ++ [(k, e)] }

def makeDirectory (s : Store) (k : Key) : Store :=
  (List.range k.length).foldl (fun s n =>
    let above := k.take (n + 1)
    if (s.entry? above).isSome then s else s.insert above .directory) s

def moveKey (source target : Key) (k : Key) : Key :=
  if source.isPrefixOf k then target ++ k.drop source.length else k

def move (s : Store) (source target : Key) : Store :=
  { s with entries := ((s.erase target).entries).map fun e => (moveKey source target e.1, e.2) }

def step (s : Store) (k : Key) (piece : String) : Option Key :=
  if !s.isDirectoryAt k then none
  else if piece == "" || piece == "." then some k
  else if piece == ".." then some k.dropLast
  else some (k ++ [piece])

/-- The key that a path leads to, whether or not something is there. All before it have to be
directories, and the empty path leads nowhere. -/
def locate? (s : Store) (p : Path) : Option Key :=
  if p.toString.isEmpty then none
  else p.pieces.foldlM s.step (if p.isAbsolute then [] else s.current)

def find? (s : Store) (p : Path) : Option Entry := s.locate? p >>= s.entry?

def contains (s : Store) (p : Path) : Bool := (s.find? p).isSome

def read? (s : Store) (p : Path) : Option Bytes := s.locate? p >>= s.contentAt?

def isFile (s : Store) (p : Path) : Bool := (s.read? p).isSome

def isDirectory (s : Store) (p : Path) : Bool := s.find? p == some .directory

def canonical? (s : Store) (p : Path) : Option Path :=
  (s.locate? p).bind fun k => if (s.entry? k).isSome then some (.ofKey k) else none

def write? (s : Store) (p : Path) (content : Bytes) : Option Store :=
  (s.locate? p).bind fun k =>
    if s.isDirectoryAt k then none else some (s.insert k (.file content))

def append? (s : Store) (p : Path) (more : Bytes) : Option Store :=
  s.write? p ((s.read? p).getD [] ++ more)

def remove? (s : Store) (p : Path) : Option Store :=
  (s.locate? p).bind fun k => (s.contentAt? k).map fun _ => s.erase k

/-- A file may take the place of another one; nothing else may be in the way. -/
def rename? (s : Store) (source target : Path) : Option Store := do
  let a ← s.locate? source
  let b ← s.locate? target
  match s.entry? a, s.entry? b with
  | some _, none => if a.isPrefixOf b then none else some (s.move a b)
  | some (.file _), some (.file _) => some (if a = b then s else s.move a b)
  | _, _ => none

def filesWithin (s : Store) (k : Key) : List Key :=
  (s.entries.filter fun e => k.isPrefixOf e.1 && e.2 != .directory).map Prod.fst

end Store

end ConventionLint.Storage
