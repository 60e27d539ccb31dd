import ConventionLint.Command.Line

/-! The command line program. It takes in the files that a command may need, runs the command on them,
and puts what has changed back into place. -/

namespace ConventionLint.Program
open ConventionLint.Command (Answer Request)
open ConventionLint.Storage (Entry Key Path Store)

def keyOf (path : String) : Key := (Path.ofString path).pieces.filter Path.counts

def fullName (k : Key) : String := (Path.ofKey k).toString

def isRead (name : String) : Bool :=
  let p := Path.ofString name
  p.extension? == some "py" || p.extension? == some "toml" || name.toList.head? == some '.' ||
    name == "exclude"

def readFile (s : Store) (k : Key) : IO Store := do
  let here ← IO.currentDir
  try
    let content ← IO.FS.readBinFile (here / fullName k)
    return (s.makeDirectory k.dropLast).insert k (.file content.toList)
  catch _ => return s

def readBelow : Nat → Store → Key → IO Store
  | 0, s, _ => return s
  | depth + 1, s, k => do
    let here ← IO.currentDir
    let place := here / fullName k
    let kind ← try pure (some (← place.symlinkMetadata).type) catch _ => pure none
    match kind with
    | some .dir =>
      let mut s := s.makeDirectory k
      for entry in ← place.readDir do
        s ← readBelow depth s (k ++ [entry.fileName])
      return s
    | some .file =>
      if isRead (k.getLastD "") then readFile s k
      else return (s.makeDirectory k.dropLast).insert k (.file [])
    | _ => return s

def readAbove (s : Store) (k : Key) : IO Store := do
  let here ← IO.currentDir
  let mut s := s
  for n in List.range k.length do
    let above := k.take n
    s := s.makeDirectory above
    for name in Config.Source.projectNames ++ [".gitignore", ".ignore"] do
      s ← readFile s (above ++ [name])
    let repository := above ++ [".git"]
    if ← (here / fullName repository).pathExists then
      s := s.makeDirectory repository
      s ← readFile s (repository ++ ["info", "exclude"])
  return s

def snapshot (current : Key) (userDir : Path) (r : Request) : IO Store := do
  let s : Store := (Store.mk [] current).makeDirectory current
  let locate (p : Path) : Key := keyOf ((Path.ofKey current).join p).toString
  match r with
  | .lint l =>
    let place ← try pure (keyOf (← IO.FS.realPath (l.path.toString)).toString)
      catch _ => pure (locate l.path)
    let s ← readAbove s place
    let s ← readAbove s current
    let s ← readBelow 256 s place
    let s ← readFile s (locate (userDir.child Config.Source.globalName))
    match l.config with
    | none => return s
    | some p => readFile s (locate p)
  | .check p => readFile s (locate p)
  | .write _ =>
    let mut s := s
    for k in Copy.known do
      for name in [k.name, k.backupName] do
        s ← readFile s (current ++ [name])
    return s
  | _ => return s

/-- Writes what has been added to a file, or all of it if anything else has changed. -/
def putFile (k : Key) (before after : Text.Bytes) : IO Unit := do
  let place := (← IO.currentDir) / fullName k
  if before.isPrefixOf after then
    let h ← IO.FS.Handle.mk place .append
    h.write (ByteArray.mk (after.drop before.length).toArray)
  else IO.FS.writeBinFile place (ByteArray.mk after.toArray)

def putBack (before after : Store) : IO Unit := do
  let here ← IO.currentDir
  for (k, e) in before.entries do
    if e != .directory && (after.contentAt? k).isNone then
      IO.FS.removeFile (here / fullName k)
  for (k, e) in after.entries do
    if let .file content := e then
      if before.entry? k != some e then putFile k ((before.contentAt? k).getD []) content

def userDirectory : IO Path := do
  match ← IO.getEnv "EDX_LINT_CONFIG_DIR" with
  | some dir => return .ofString dir
  | none => return (Path.ofString ((← IO.getEnv "HOME").getD "/")).child ".edx-lint"

def answer (before : Store) (a : Answer) : IO UInt32 := do
  IO.print a.output
  putBack before a.store
  match a.result with
  | .ok status => return UInt32.ofNat status
  | .error e =>
    IO.eprintln ("Error: " ++ e.message)
    return UInt32.ofNat Command.failed

end ConventionLint.Program

open ConventionLint in
def main (arguments : List String) : IO UInt32 := do
  match Command.Request.ofArguments (← IO.getEnv "EDX_LINT_CONFIG") arguments with
  | .error e =>
    IO.eprintln ("error: " ++ e.message)
    return UInt32.ofNat Command.misused
  | .ok r =>
    let current := Program.keyOf (← IO.currentDir).toString
    let userDir ← Program.userDirectory
    let before ← Program.snapshot current userDir r
    Program.answer before (r.run before (some userDir))
