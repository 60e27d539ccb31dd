import ConventionLint.Grammar.Concrete
import ConventionLint.Tree.Outline

/-! From concrete trees to outlines. Wrappers of statements, blocks and parentheses dissolve, and what
stands in a type does not count; every construct without a rule keeps its kind and all that stands in
it. The steps are tied together by a bound on their depth, for which the size of the tree is enough. -/

namespace ConventionLint.Tree
open ConventionLint.Grammar (Concrete Kind Role Span)

namespace Lowering

abbrev Reader := Concrete → List Outline

def written (text : List Char) (c : Concrete) : String :=
  String.ofList (Text.Utf8.slice c.span.start.offset c.span.stop.offset text)

def writtenChild (text : List Char) (c : Concrete) (r : Role) : String :=
  ((c.child? r).map (written text)).getD ""

def unmodelled (c : Concrete) (parts : List Outline) : Outline :=
  .node .other c.span (.other ((c.kind?.map Kind.name).getD "")) parts

def single (r : Reader) (c : Concrete) : Outline := ((r c).getLast?).getD (unmodelled c [])

def placesFrom (next : Nat) (p : α → Bool) : List α → List Nat
  | [] => []
  | a :: as => if p a then next :: placesFrom (next + 1) p as else placesFrom (next + 1) p as

def places (next count : Nat) : List Nat := List.range' next count

def docstring? (text : List Char) (body : Concrete) : Option String := do
  let first ← body.named.head?
  if first.hasKind .expressionStatement then
    let inner ← first.named.head?
    if inner.hasKind .string then
      let token := (written text inner).toList
      let parts ← StringToken.split? token
      if parts.isFormat then none
      else (stringValue? token).map fun v => String.ofList v.1
    else none
  else none

def identifierIn? (c : Concrete) : Option Concrete := c.named.find? fun d => d.hasKind .identifier

def parameterName? (text : List Char) (c : Concrete) : Option String :=
  match c.kind? with
  | some .identifier => some (written text c)
  | some .defaultParameter | some .typedDefaultParameter => (c.child? .name).map (written text)
  | some .typedParameter | some .listSplatPattern | some .dictionarySplatPattern =>
    match identifierIn? c with
    | some name => some (written text name)
    | none => (c.named.head? >>= identifierIn?).map (written text)
  | _ => none

def defaultValue? (c : Concrete) : Option Concrete :=
  match c.kind? with
  | some .defaultParameter | some .typedDefaultParameter => c.child? .value
  | _ => none

def namedIn (c : Concrete) (role : Role) : List Concrete :=
  match c.child? role with
  | some d => d.named
  | none => []

def isAsync (c : Concrete) : Bool :=
  match c.children.head? with
  | some (.token t _) => t == "async"
  | _ => false

def keyword (text : List Char) (r : Reader) (c : Concrete) : Outline :=
  match c.child? .value with
  | some v => .node .keyword c.span
      (.keyword ((c.child? .name).map (written text)) 0) [single r v]
  | none => unmodelled c []

def spread (r : Reader) (c : Concrete) : Outline :=
  .node .keyword c.span (.keyword none 0) [single r (c.named.head?.getD c)]

def classDef (text : List Char) (r : Reader) (c : Concrete) (decorators : List Outline) : Outline :=
  let header := namedIn c .superclasses
  let isBase (d : Concrete) : Bool := !d.hasKind .keywordArgument
  let parts := header.map fun d => if isBase d then single r d else keyword text r d
  .node .classDef c.span
    (.classDef (writtenChild text c .name) (placesFrom decorators.length isBase header)
      (c.child? .body >>= docstring? text))
    (decorators ++ parts ++ (namedIn c .body).flatMap r)

def functionDef (text : List Char) (r : Reader) (c : Concrete) (decorators : List Outline) :
    Outline :=
  let params := namedIn c .parameters
  .node .functionDef c.span
    (.functionDef (writtenChild text c .name) (params.filterMap (parameterName? text))
      (c.child? .body >>= docstring? text) (isAsync c))
    (decorators ++ (params.filterMap defaultValue?).map (single r) ++ (namedIn c .body).flatMap r)

def definition (text : List Char) (r : Reader) (decorators : List Concrete) (c : Concrete) : Outline :=
  let before := decorators.flatMap fun d => d.named.flatMap r
  if c.hasKind .classDefinition then classDef text r c before else functionDef text r c before

def argument (text : List Char) (r : Reader) (c : Concrete) : Outline :=
  match c.kind? with
  | some .keywordArgument => keyword text r c
  | some .dictionarySplat => spread r c
  | _ => single r c

def isKeyword (c : Concrete) : Bool := c.hasKind .keywordArgument || c.hasKind .dictionarySplat

def argumentsOf (c : Concrete) : List Concrete :=
  match c.child? .arguments with
  | some d => if d.hasKind .argumentList then d.named else [d]
  | none => []

def call (text : List Char) (r : Reader) (c : Concrete) : Outline :=
  match c.child? .function with
  | some f =>
    let args := argumentsOf c
    .node .call c.span
      (.call 0 (placesFrom 1 (fun d => !isKeyword d) args) (placesFrom 1 isKeyword args))
      (single r f :: args.map (argument text r))
  | none => unmodelled c []

def access (text : List Char) (r : Reader) (c : Concrete) : Outline :=
  match c.child? .object with
  | some o => .node .attribute c.span (.attribute (writtenChild text c .attribute) 0) [single r o]
  | none => unmodelled c []

/-- The values that a formatted string is interpolated with, not looking at how they are formatted. -/
def interpolated (piece : Concrete) : List Concrete :=
  (piece.named.filter fun d => d.hasKind .interpolation).filterMap fun d => d.child? .expression

/-- A string or neighbouring strings. Pieces that cannot be read count as empty. -/
def string (text : List Char) (r : Reader) (c : Concrete) : Outline :=
  let pieces := if c.hasKind .concatenatedString then c.named else [c]
  let tokens := pieces.map fun d => (written text d).toList
  if tokens.any fun t => (StringToken.split? t).any StringToken.isFormat then
    .node .joinedStr c.span (.other "fstring") ((pieces.flatMap interpolated).map (single r))
  else
    let values := tokens.filterMap stringValue?
    let value := String.ofList (values.flatMap Prod.fst)
    .node .const c.span (.const (if values.any Prod.snd then .bytes value else .str value)) []

def number? (text : List Char) (c : Concrete) : Option Literal :=
  let token := (written text c).toList
  if c.hasKind .integer then (integerValue? token).map fun n => .int n
  else (floatValue? token).map .float

def number (text : List Char) (c : Concrete) : Outline :=
  match number? text c with
  | some l => .node .const c.span (.const l) []
  | none => unmodelled c []

inductive DictPart where
  | entry (key value : Outline)
  | other (parts : List Outline)

namespace DictPart

def outlines : DictPart → List Outline
  | .entry k v => [k, v]
  | .other os => os

def entriesFrom (next : Nat) : List DictPart → List (Nat × Nat)
  | [] => []
  | .entry _ _ :: ps => (next, next + 1) :: entriesFrom (next + 2) ps
  | .other os :: ps => entriesFrom (next + os.length) ps

def read (r : Reader) (c : Concrete) : DictPart :=
  if c.hasKind .pair then
    match c.child? .key, c.child? .value with
    | some k, some v => .entry (single r k) (single r v)
    | _, _ => .other []
  else .other (r c)

end DictPart

def dict (r : Reader) (c : Concrete) : Outline :=
  let parts := c.named.map (DictPart.read r)
  .node .dict c.span (.dict (DictPart.entriesFrom 0 parts)) (parts.flatMap DictPart.outlines)

def sequence (kind : NodeKind) (r : Reader) (c : Concrete) : Outline :=
  .node kind c.span (.elements (places 0 c.named.length)) (c.named.map (single r))

def tokenTexts (c : Concrete) : List String :=
  c.children.filterMap fun d => match d with
    | .token t _ => some t
    | .node .. => none

def compare (r : Reader) (c : Concrete) : Outline :=
  .node .compare c.span (.compare 0 (tokenTexts c) (places 1 (c.named.length - 1)))
    (c.named.map (single r))

def chain : Nat → Concrete → List Concrete × Option Concrete
  | 0, _ => ([], none)
  | n + 1, c =>
    let target := (c.child? .left).toList
    match c.child? .right with
    | none => (target, none)
    | some v =>
      if v.hasKind .assignment then
        let (targets, value) := chain n v
        (target ++ targets, value)
      else (target, some v)

def assign (r : Reader) (c : Concrete) : Outline :=
  let (targets, value) := chain c.size c
  .node .assign c.span
    (.assign (places 0 targets.length) (value.map fun _ => targets.length))
    ((targets ++ value.toList).map (single r))

def importName (text : List Char) (c : Concrete) : ImportName :=
  if c.hasKind .aliasedImport then
    ⟨writtenChild text c .name, (c.child? .newName).map (written text)⟩
  else ⟨written text c, none⟩

def importNode (text : List Char) (c : Concrete) : Outline :=
  .node .imports c.span (.imports (c.named.map (importName text))) []

def wildcard (c : Concrete) : List ImportName :=
  if c.named.any fun d => d.hasKind .wildcardImport then [⟨"*", none⟩] else []

def importSource (text : List Char) (c : Concrete) : String × Nat :=
  if c.hasKind .futureImportStatement then ("__future__", 0)
  else
    let raw := (writtenChild text c .moduleName).toList
    (String.ofList (raw.dropWhile (· == '.')), (raw.takeWhile (· == '.')).length)

def importFrom (text : List Char) (c : Concrete) : Outline :=
  let (module, level) := importSource text c
  let names := c.children.filter fun d => d.role? == some .name
  .node .importFrom c.span
    (.importFrom module level (names.map (importName text) ++ wildcard c)) []

def constant (c : Concrete) (l : Literal) : List Outline := [.node .const c.span (.const l) []]

def step (text : List Char) (r : Reader) (c : Concrete) : List Outline :=
  match c.kind? with
  | none => []
  | some kind =>
    match kind with
    | .expressionStatement | .block => c.named.flatMap r
    | .parenthesizedExpression => (c.named.head?.map (single r)).toList
    | .decoratedDefinition =>
      let decorators := c.named.filter fun d => d.hasKind .decorator
      ((c.child? .definition).map (definition text r decorators)).toList
    | .classDefinition | .functionDefinition => [definition text r [] c]
    | .call => [call text r c]
    | .keywordArgument => [keyword text r c]
    | .identifier => [.node .name c.span (.name (written text c)) []]
    | .attribute => [access text r c]
    | .string | .concatenatedString => [string text r c]
    | .integer | .float => [number text c]
    | .true => constant c (.bool true)
    | .false => constant c (.bool false)
    | .none => constant c .none
    | .ellipsis => constant c .ellipsis
    | .dictionary => [dict r c]
    | .list | .listPattern => [sequence .list r c]
    | .tuple | .expressionList | .patternList | .tuplePattern => [sequence .tuple r c]
    | .set => [sequence .set r c]
    | .comparisonOperator => [compare r c]
    | .assignment => [assign r c]
    | .importStatement => [importNode text c]
    | .importFromStatement | .futureImportStatement => [importFrom text c]
    | _ => [unmodelled c (c.named.flatMap r)]

def bounded (text : List Char) : Nat → Reader
  | 0, _ => []
  | n + 1, c => step text (bounded text n) c

end Lowering

def outline (text : List Char) (program : Concrete) : Outline :=
  .node .module program.span (.module (Lowering.docstring? text program))
    (program.named.flatMap (Lowering.bounded text program.size))

end ConventionLint.Tree
