import ConventionLint.Text.Utf8

/-! The patterns of ignore files. They are matched against the bytes of relative paths. A star stays
within one component, two stars alone in a component stand for any number of components, and braces hold
alternatives. A backslash takes the meaning from the next character. -/

namespace ConventionLint.Ignore
open ConventionLint.Text (Bytes)

structure ByteRange where
  first : UInt8
  last : UInt8
  deriving DecidableEq, Repr

inductive Piece where
  | byte (b : UInt8)
  | anyByte
  | anyName
  | leading
  | inner
  | trailing
  | choice (negated : Bool) (ranges : List ByteRange)
  | oneOf (alternatives : List (List Piece))
  deriving Repr

def separator : UInt8 := 47

def anyRest (p : Bytes → Bool) : Bytes → Bool
  | [] => p []
  | b :: bs => p (b :: bs) || anyRest p bs

def anyRestInName (p : Bytes → Bool) : Bytes → Bool
  | [] => p []
  | b :: bs => p (b :: bs) || (b != separator && anyRestInName p bs)

def behindSeparator (p : Bytes → Bool) : Bytes → Bool
  | [] => false
  | b :: bs => (b == separator && p bs) || behindSeparator p bs

mutual

def Piece.fits (p : Bytes → Bool) : Piece → Bytes → Bool
  | .byte c, b :: bs => b == c && p bs
  | .anyByte, b :: bs => b != separator && p bs
  | .anyName, bs => anyRestInName p bs
  | .leading, bs => p bs || behindSeparator p bs
  | .inner, b :: bs => b == separator && (p bs || behindSeparator p bs)
  | .trailing, b :: bs => b == separator && anyRest p bs
  | .choice negated ranges, b :: bs =>
    (ranges.any (fun r => r.first ≤ b && b ≤ r.last) != negated) && p bs
  | .oneOf alternatives, bs => fitsOneOf p alternatives bs
  | _, [] => false

def fitsAll (p : Bytes → Bool) : List Piece → Bytes → Bool
  | [], bs => p bs
  | piece :: pieces, bs => piece.fits (fitsAll p pieces) bs

def fitsOneOf (p : Bytes → Bool) : List (List Piece) → Bytes → Bool
  | [], _ => false
  | pieces :: more, bs => fitsAll p pieces bs || fitsOneOf p more bs

end

structure CharChoice where
  ranges : List (Char × Char)
  isOpen : Bool
  deriving DecidableEq, Repr

def CharChoice.take? (c : Char) (x : CharChoice) : Option CharChoice :=
  match x.ranges.getLast? with
  | some (first, _) =>
    if x.isOpen then
      if c < first then none else some ⟨x.ranges.dropLast ++ [(first, c)], false⟩
    else if c = '-' then some { x with isOpen := true }
    else some ⟨x.ranges ++ [(c, c)], false⟩
  | none => some ⟨[(c, c)], false⟩

def CharChoice.close (x : CharChoice) : List (Char × Char) :=
  if x.isOpen then x.ranges ++ [('-', '-')] else x.ranges

def singles (bs : Bytes) : List ByteRange := bs.map fun b => ⟨b, b⟩

/-- The bytes of a range of characters. Only the last byte of the first character and the first byte of
the last one make a range. -/
def byteRanges : Char × Char → List ByteRange
  | (a, b) =>
    let first := Text.Utf8.encode [a]
    let last := Text.Utf8.encode [b]
    if a = b then singles first
    else singles first.dropLast ++ [⟨first.getLastD 0, last.headD 0⟩] ++ singles last.tail

inductive Bracket where
  | choice (ranges : List (Char × Char)) (rest : List Char)
  | unclosed
  | bad
  deriving DecidableEq, Repr

def readChoice (x : CharChoice) : List Char → Bracket
  | [] => .unclosed
  | c :: cs =>
    if c = ']' ∧ x.ranges ≠ [] then .choice x.close cs
    else match x.take? c with
      | none => .bad
      | some x => readChoice x cs

def readBracket : List Char → Bool × Bracket
  | '!' :: cs => (true, readChoice ⟨[], false⟩ cs)
  | '^' :: cs => (true, readChoice ⟨[], false⟩ cs)
  | cs => (false, readChoice ⟨[], false⟩ cs)

def literal (c : Char) : List Piece := (Text.Utf8.encode [c]).map .byte

structure Open where
  pieces : List Piece
  before : List (List Piece)

structure Reading where
  inner : Open
  outer : List Open
  previous : Option Char
  /-- Whether an opening bracket without a closing one was found; from then on they are literal. -/
  isLiteral : Bool

namespace Reading

def start : Reading := ⟨⟨[], []⟩, [], none, false⟩

def isNested (r : Reading) : Bool := !r.outer.isEmpty

def push (r : Reading) (c : Char) (ps : List Piece) : Reading :=
  { r with inner := { r.inner with pieces := ps.reverse ++ r.inner.pieces }, previous := some c }

def stars (r : Reading) (next : Option Char) : Reading × Bool :=
  let plain := (r.push '*' [.anyName, .anyName], false)
  let endsHere : Bool := next.isNone || (r.isNested && (next == some ',' || next == some '\x7d'))
  if r.inner.pieces.isEmpty then
    if next.isNone || next == some '/' then (r.push (next.getD '*') [.leading], next.isSome) else plain
  else if r.previous != some '/' &&
      !(r.isNested && (r.previous == some ',' || r.previous == some '\x7b')) then plain
  else if endsHere || next == some '/' then
    let piece := match r.inner.pieces.head? with
      | some .leading => Piece.leading
      | some .trailing => .trailing
      | _ => if next == some '/' then .inner else .trailing
    let shorter := { r with inner := { r.inner with pieces := r.inner.pieces.tail } }
    (shorter.push (if next == some '/' then '/' else '*') [piece], next == some '/')
  else plain

def comma (r : Reading) : Reading :=
  if r.isNested then
    { r with
      inner := ⟨[], r.inner.before ++ [r.inner.pieces.reverse]⟩
      previous := some ',' }
  else r.push ',' (literal ',')

def openBrace (r : Reading) : Reading :=
  { r with inner := ⟨[], []⟩, outer := r.inner :: r.outer, previous := some '\x7b' }

def alternatives (all : List (List Piece)) : List Piece :=
  match all.filter fun ps => !ps.isEmpty with
  | [] => []
  | left => [.oneOf left]

def closeBrace? (r : Reading) : Option Reading :=
  match r.outer with
  | [] => none
  | o :: os =>
    let all := r.inner.before ++ [r.inner.pieces.reverse]
    some ({ r with inner := o, outer := os }.push '\x7d' (alternatives all))

end Reading

def readBounded : Nat → Reading → List Char → Option (List Piece)
  | 0, _, _ => none
  | _, r, [] => if r.isNested then none else some r.inner.pieces.reverse
  | n + 1, r, c :: cs =>
    match c with
    | '?' => readBounded n (r.push c [.anyByte]) cs
    | '*' =>
      match cs with
      | '*' :: rest =>
        let (r, taken) := r.stars rest.head?
        readBounded n r (if taken then rest.tail else rest)
      | _ => readBounded n (r.push c [.anyName]) cs
    | '[' =>
      if r.isLiteral then readBounded n (r.push c (literal c)) cs
      else match readBracket cs with
        | (negated, .choice ranges rest) =>
          readBounded n (r.push ']' [.choice negated (ranges.flatMap byteRanges)]) rest
        | (_, .unclosed) =>
          readBounded n ({ r with isLiteral := true }.push c (literal c)) cs
        | (_, .bad) => none
    | '\x7b' => readBounded n r.openBrace cs
    | '\x7d' => r.closeBrace? >>= fun r => readBounded n r cs
    | ',' => readBounded n r.comma cs
    | '\\' =>
      match cs with
      | [] => none
      | d :: rest => readBounded n (r.push d (literal d)) rest
    | c => readBounded n (r.push c (literal c)) cs

def read? (cs : List Char) : Option (List Piece) := readBounded (cs.length + 1) .start cs

def fitsPath (pieces : List Piece) (path : Bytes) : Bool :=
  match pieces with
  | [.leading] => true
  | _ => fitsAll List.isEmpty pieces path

end ConventionLint.Ignore
