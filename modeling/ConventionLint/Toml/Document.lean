import ConventionLint.Toml.Number
import ConventionLint.Toml.Quoted
import ConventionLint.Toml.Table
import ConventionLint.Toml.Value

/-! TOML documents as lists of statements, and the table that they build up. Arrays and braces may
stand in one another up to a fixed depth, and a dotted key has fewer parts than that. -/

namespace ConventionLint.Toml

/-- Keys with so many parts, and values with so many levels, are refused. -/
def depthLimit : Nat := 80

def isBareKeyChar (c : Char) : Bool := c.isAlphanum || c == '_' || c == '-'

def bareKey : Scan (List Char) := do
  let cs ← Scan.takeWhile isBareKeyChar
  if cs.isEmpty then Scan.fail else return cs

def keyPart : Scan String := do
  spaces
  let cs ← Scan.orElse basicString (Scan.orElse literalString bareKey)
  spaces
  return String.ofList cs

structure Key where
  path : List String
  last : String
  deriving DecidableEq, Repr

def key : Scan Key := do
  let parts ← Scan.separated keyPart (Scan.char '.')
  match parts.getLast? with
  | none => Scan.fail
  | some last => if parts.length < depthLimit then return ⟨parts.dropLast, last⟩ else Scan.fail

def boolean : Scan Bool := Scan.orElse
  (do Scan.word "true".toList; return true)
  (do Scan.word "false".toList; return false)

def scalarValue : Scan Value := do
  match ← Scan.peek with
  | some '"' | some '\'' => return .string (String.ofList (← quoted))
  | some 't' | some 'f' => return .boolean (← boolean)
  | _ =>
    match ← Scan.optional datetime with
    | some text => return .datetime (String.ofList text)
    | none =>
      match ← Scan.optional float with
      | some bits => return .float bits
      | none => return .integer (← integer)

def array (value : Scan Value) : Scan Value := do
  let _ ← Scan.char '['
  let item : Scan Value := do
    blankLines
    let v ← value
    blankLines
    return v
  let items ← Scan.separated item (Scan.char ',')
  if !items.isEmpty then
    let _ ← Scan.optional (Scan.char ',')
  blankLines
  let _ ← Scan.char ']'
  return .array items

def assignment (value : Scan Value) : Scan (Key × Value) := do
  let k ← key
  let _ ← Scan.char '='
  spaces
  let v ← value
  return (k, v)

def addAll : Items → List (Key × Value) → Option Items
  | es, [] => some es
  | es, (k, v) :: rest => es.addDotted k.last v k.path >>= fun es => addAll es rest

def inlineTable (value : Scan Value) : Scan Value := do
  let _ ← Scan.char '\x7b'
  let pairs ← Scan.separated (do
    let pair ← assignment value
    spaces
    return pair) (Scan.char ',')
  spaces
  let _ ← Scan.char '\x7d'
  match addAll [] pairs with
  | some es => return .table (Item.freezeEntries es)
  | none => Scan.fail

def valueWithin : Nat → Scan Value
  | 0 => Scan.fail
  | n + 1 => do
    match ← Scan.peek with
    | some '[' => if n = 0 then Scan.fail else array (valueWithin n)
    | some '\x7b' => if n = 0 then Scan.fail else inlineTable (valueWithin n)
    | _ => scalarValue

def value : Scan Value := valueWithin depthLimit

inductive Statement where
  | assign (k : Key) (v : Value)
  | header (k : Key)
  | rowHeader (k : Key)
  | blank

def rowHeader : Scan Statement := do
  Scan.word ['[', '[']
  let k ← key
  Scan.word [']', ']']
  return .rowHeader k

def header : Scan Statement := do
  let _ ← Scan.char '['
  let k ← key
  let _ ← Scan.char ']'
  return .header k

def statement : Scan Statement := do
  match ← Scan.peek with
  | some '[' => Scan.orElse rowHeader header
  | none | some '#' | some '\n' | some '\r' => return .blank
  | _ =>
    let (k, v) ← assignment value
    return .assign k v

def line : Scan Statement := do
  spaces
  let s ← statement
  spaces
  let _ ← Scan.optional comment
  return s

def linesBounded : Nat → Scan (List Statement)
  | 0 => Scan.fail
  | n + 1 => do
    let s ← line
    match ← Scan.peek with
    | none => return [s]
    | some _ =>
      newline
      return s :: (← linesBounded n)

structure Draft where
  root : Items
  header : List String

namespace Draft

def step (d : Draft) : Statement → Option Draft
  | .blank => some d
  | .assign k v =>
    (d.root.updateAt (fun es => es.addDotted k.last v k.path) d.header).map fun root =>
      { d with root }
  | .header k =>
    (d.root.updateAt (Items.openTable k.last) k.path).map fun root => ⟨root, k.path ++ [k.last]⟩
  | .rowHeader k =>
    (d.root.updateAt (Items.addRow k.last) k.path).map fun root => ⟨root, k.path ++ [k.last]⟩

end Draft

def withoutMark : List Char → List Char
  | '\uFEFF' :: rest => rest
  | cs => cs

def parse? (text : List Char) : Option Entries := do
  let cs := withoutMark text
  let (statements, _) ← linesBounded (cs.length + 1) cs
  let d ← statements.foldlM Draft.step ⟨[], []⟩
  return Item.freezeEntries d.root

end ConventionLint.Toml
