import ConventionLint.Text.Cut

/-! Paths as they are written and as they are read. Between the separators of a path stand pieces;
empty pieces and single dots mean nothing, unless a dot begins a relative path. -/

namespace ConventionLint.Storage

structure Path where
  isAbsolute : Bool
  pieces : List String
  deriving DecidableEq, Repr

inductive Part where
  | root | here | up
  | name (s : String)
  deriving DecidableEq, Repr

namespace Path

def piecesOf (cs : List Char) : List String := (Text.splitBy (· == '/') cs).map String.ofList

def ofString (s : String) : Path :=
  match s.toList with
  | '/' :: rest => ⟨true, piecesOf rest⟩
  | cs => ⟨false, piecesOf cs⟩

def toString (p : Path) : String := (if p.isAbsolute then "/" else "") ++ "/".intercalate p.pieces

def counts (piece : String) : Bool := piece != "" && piece != "."

def partOf (piece : String) : Part := if piece == ".." then .up else .name piece

def trimEnd (pieces : List String) : List String :=
  (pieces.reverse.dropWhile fun s => !counts s).reverse

def start (p : Path) : List Part :=
  if p.isAbsolute then [.root] else if p.pieces.head? == some "." then [.here] else []

def parts (p : Path) : List Part := p.start ++ (p.pieces.filter counts).map partOf

def fileName? (p : Path) : Option String :=
  match p.parts.getLast? with
  | some (.name s) => some s
  | _ => none

/-- The part of a name before its last dot and the part after it. A name has no extension if its only
dot is the first character. -/
def splitName (name : String) : String × Option String :=
  let pieces := Text.splitBy (· == '.') name.toList
  let stem := Text.joinWith ['.'] pieces.dropLast
  if stem.isEmpty then (name, none)
  else (String.ofList stem, (pieces.getLast?).map String.ofList)

def extension? (p : Path) : Option String := p.fileName? >>= fun s => (splitName s).2

def withoutExtension (p : Path) : Path :=
  match p.fileName? with
  | none => p
  | some s => ⟨p.isAbsolute, (trimEnd p.pieces).dropLast ++ [(splitName s).1]⟩

def parent? (p : Path) : Option Path :=
  match p.parts.getLast? with
  | none | some .root => none
  | some .here => some ⟨false, []⟩
  | some _ =>
    let above := trimEnd (trimEnd p.pieces).dropLast
    some ⟨p.isAbsolute, if above.isEmpty && p.start == [.here] then ["."] else above⟩

def chain : Nat → Path → List Path
  | 0, _ => []
  | n + 1, p =>
    p :: match p.parent? with
      | none => []
      | some above => chain n above

def ancestors (p : Path) : List Path := chain (p.parts.length + 1) p

def join (p q : Path) : Path :=
  if q.isAbsolute then q
  else if (p.pieces.getLastD "").isEmpty then ⟨p.isAbsolute, p.pieces.dropLast ++ q.pieces⟩
  else ⟨p.isAbsolute, p.pieces ++ q.pieces⟩

def child (p : Path) (name : String) : Path := p.join (ofString name)

def dropPieces : Nat → List String → List String
  | 0, pieces => pieces.dropWhile fun s => !counts s
  | n + 1, pieces => dropPieces n ((pieces.dropWhile fun s => !counts s).drop 1)

def relativeTo? (p base : Path) : Option Path :=
  if base.parts.isEmpty then some p
  else if base.parts.isPrefixOf p.parts then
    some ⟨false, trimEnd (dropPieces (base.pieces.filter counts).length p.pieces)⟩
  else none

def relativeTo (p base : Path) : Path := (p.relativeTo? base).getD p

def isWithin (p base : Path) : Bool := base.parts.isPrefixOf p.parts

end Path

namespace Part

def rank : Part → Nat
  | .root => 0
  | .here => 1
  | .up => 2
  | .name _ => 3

def text : Part → String
  | .name s => s
  | _ => ""

def before (a b : Part) : Bool := a.rank < b.rank || (a.rank == b.rank && a.text < b.text)

end Part

def partsBefore : List Part → List Part → Bool
  | _, [] => false
  | [], _ :: _ => true
  | a :: as, b :: bs => a.before b || (!b.before a && partsBefore as bs)

def Path.before (p q : Path) : Bool := partsBefore p.parts q.parts

end ConventionLint.Storage
