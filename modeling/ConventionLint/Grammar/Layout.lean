import ConventionLint.Grammar.Token

/-! Layout: where statements end and blocks begin and end. Layout tokens take no room; each stands
where the token or comment before it ends. A block opens only after a colon that ends its line. A
comment keeps a block open as long as it is indented like the block, even if less indented code
follows it. -/

namespace ConventionLint.Grammar

def Token.isComment (t : Token) : Bool := t.lexeme == .comment

def codeIndent : List Token → Nat
  | [] => 0
  | t :: ts => if t.isComment then codeIndent ts else t.lead.getD 0

def layoutToken (lexeme : Lexeme) (p : Position) : Token := ⟨lexeme, ⟨p, p⟩, none⟩

def closeBlocks (p : Position) (code : Nat) (comment : Option Nat) : List Nat → List Token × List Nat
  | [] => ([], [])
  | top :: levels =>
    if code < top ∧ comment.all (· < top) then
      let (closed, left) := closeBlocks p code comment levels
      (layoutToken .dedent p :: closed, left)
    else ([], top :: levels)

/-- `levels` are the indentations of the open blocks, `pending` tells that a statement or block header
has begun, `header` that its last token is a colon, and `last` is where the last token ended. -/
def layoutFrom (levels : List Nat) (pending header : Bool) (last : Position) :
    List Token → List Token
  | [] =>
    (if pending then [layoutToken .newline last] else []) ++ levels.map fun _ => layoutToken .dedent last
  | t :: ts =>
    let resume (levels : List Nat) (pending : Bool) : List Token :=
      if t.isComment then t :: layoutFrom levels pending header t.span.stop ts
      else t :: layoutFrom levels true (t.lexeme == .symbol ":") t.span.stop ts
    match t.lead with
    | none => resume levels pending
    | some indent =>
      let code := codeIndent (t :: ts)
      if pending ∧ header ∧ levels.head?.getD 0 < code then
        layoutToken .indent last :: resume (code :: levels) false
      else
        let ended := if pending then [layoutToken .newline last] else []
        let (closed, left) := closeBlocks last code (if t.isComment then some indent else none) levels
        ended ++ closed ++ resume left false

def layout (ts : List Token) : List Token := layoutFrom [] false false .initial ts

end ConventionLint.Grammar
