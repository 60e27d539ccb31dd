import ConventionLint.Text.Cut
import ConventionLint.Text.Line

/-! Comments that document something by tokens, each with a value. Neighbouring lines of comments make up
one group. A value runs on over the comment lines after it, up to the next token. -/

namespace ConventionLint.Annotation

structure Entry where
  token : String
  value : String
  line : Nat
  deriving DecidableEq, Repr

structure Group where
  line : Nat
  entries : List Entry
  deriving DecidableEq, Repr

namespace Group

def get? (g : Group) (token : String) : Option String :=
  (g.entries.find? fun e => e.token == token).map Entry.value

def contains (g : Group) (token : String) : Bool := g.entries.any fun e => e.token == token

def repeated : List String → List String → List String → List String
  | _, again, [] => again
  | seen, again, t :: ts =>
    if seen.contains t then
      repeated seen (if again.contains t then again else again ++ [t]) ts
    else repeated (t :: seen) again ts

def duplicates (g : Group) : List String := repeated [] [] (g.entries.map Entry.token)

def restrict? (g : Group) (wanted : String → Bool) : Option Group :=
  match g.entries.filter fun e => wanted e.token with
  | [] => none
  | e :: es => some ⟨e.line, e :: es⟩

end Group

def afterMarker? (marker : String) (cs : List Char) : Option (List Char) :=
  (Text.dropHead? marker.toList cs).map Text.trimStart

def isTokenChar (c : Char) : Bool := c.isAlphanum || c == '_'

def tokenLine? (line : List Char) : Option (String × String) := do
  let cs ← afterMarker? "#" (Text.trimStart line)
  let cs ← afterMarker? ".." cs
  let word := cs.takeWhile isTokenChar
  if word.isEmpty then none
  else
    let value ← afterMarker? ":" (Text.trimStart (cs.dropWhile isTokenChar))
    return (".. " ++ String.ofList word ++ ":", String.ofList (Text.trim value))

def continuation (line : List Char) : String :=
  String.ofList (Text.trim ((Text.trimStart line).dropWhile (· == '#')))

def Entry.extend (e : Entry) (more : String) : Entry :=
  if more.isEmpty then e
  else { e with value := if e.value.isEmpty then more else e.value ++ " " ++ more }

def extendLast (more : String) : List Entry → List Entry
  | [] => []
  | [e] => [e.extend more]
  | e :: es => e :: extendLast more es

def isComment (line : List Char) : Bool := (Text.trimStart line).head? == some '#'

def Group.ofEntries? : List Entry → Option Group
  | [] => none
  | e :: es => some ⟨e.line, e :: es⟩

/-- The groups of numbered lines; `found` are the entries of the comment that is being read. -/
def collect (found : List Entry) : List (Nat × List Char) → List Group
  | [] => (Group.ofEntries? found).toList
  | (n, line) :: rest =>
    if isComment line then
      match tokenLine? line with
      | some (token, value) => collect (found ++ [⟨token, value, n⟩]) rest
      | none => collect (extendLast (continuation line) found) rest
    else (Group.ofEntries? found).toList ++ collect [] rest

def groupsOf (text : List Char) : List Group := collect [] (Text.numberedLines text)

def line? (text : List Char) (n : Nat) : Option (List Char) :=
  if n = 0 then none else (Text.lines text)[n - 1]?

def startsWithToken (tokens : List String) (line : List Char) : Bool :=
  match afterMarker? "#" (Text.trimStart line) >>= afterMarker? ".." with
  | some cs => tokens.any fun t => (Text.dropHead? t.toList cs).isSome
  | none => false

def isAnnotated (text : List Char) (n : Nat) (tokens : List String) : Bool :=
  (line? text n).any (startsWithToken tokens)

end ConventionLint.Annotation
