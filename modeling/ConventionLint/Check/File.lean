import ConventionLint.Annotation.Group
import ConventionLint.Inference.Hierarchy
import ConventionLint.Storage.Path

/-! A file as checkers see it: where it is, what its module is called, its parsed text and the
annotations in its comments. -/

namespace ConventionLint.Check
open ConventionLint.Storage (Path Part)

structure File where
  path : Path
  relative : Path
  isTest : Bool
  module : String
  model : Inference.Model
  groups : List Annotation.Group
  deriving Repr

namespace File

def endsWith (s ending : String) : Bool :=
  (Text.dropHead? ending.toList.reverse s.toList.reverse).isSome

def startsWith (s start : String) : Bool := (Text.dropHead? start.toList s.toList).isSome

def isTestName (name : String) : Bool :=
  startsWith name "test_" || endsWith name "_test.py" || endsWith name "_tests.py" ||
    name == "tests.py" || name == "conftest.py"

def isTestPath (p : Path) : Bool :=
  p.parts.contains (.name "tests") || p.parts.contains (.name "test") ||
    p.fileName?.any isTestName

def nameOf? : Part → Option String
  | .name s => some s
  | _ => none

/-- The names on a path without its extension, with dots between them. A package is named by its
directory. -/
def moduleName (relative : Path) : String :=
  let names := relative.withoutExtension.parts.filterMap nameOf?
  ".".intercalate (if names.getLast? == some "__init__" then names.dropLast else names)

def ofTree (path root : Path) (t : Tree) : File :=
  let relative := path.relativeTo root
  ⟨path, relative, isTestPath path, moduleName relative, .ofTree t, Annotation.groupsOf t.text⟩

def tree (f : File) : Tree := f.model.tree

def text (f : File) : List Char := f.model.tree.text

/-- The byte offset of a place. Behind the last line it is the size of the text. -/
def offsetFrom (column : Nat) : Nat → Nat → List (List Char) → Nat
  | before, _, [] => before
  | before, 1, _ => before + (column - 1)
  | before, line, piece :: rest => offsetFrom column (before + Text.Utf8.size piece) (line - 1) rest

def offsetAt (f : File) (line column : Nat) : Nat :=
  if line = 0 then 0 else offsetFrom column 0 line (Text.segments f.text)

end File

end ConventionLint.Check
