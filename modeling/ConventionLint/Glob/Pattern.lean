import ConventionLint.Text.Cut
import ConventionLint.Text.Utf8

/-! Patterns for whole paths. A star stands for any text, separators included; two stars stand for any
number of whole components and take the separator behind them along. Brackets hold a choice of
characters, or with an exclamation mark the characters that are not meant. -/

namespace ConventionLint.Glob

structure CharRange where
  first : Char
  last : Char
  deriving DecidableEq, Repr

def CharRange.covers (r : CharRange) (c : Char) : Bool := r.first ≤ c && c ≤ r.last

inductive Token where
  | char (c : Char)
  | anyChar
  | anyText
  | anyComponents
  | oneOf (ranges : List CharRange)
  | noneOf (ranges : List CharRange)
  deriving DecidableEq, Repr

inductive PatternError where
  | tooManyStars (position : Nat)
  | partOfComponent (position : Nat)
  | unclosedBracket (position : Nat)
  deriving DecidableEq, Repr

namespace PatternError

def position : PatternError → Nat
  | tooManyStars n => n
  | partOfComponent n => n
  | unclosedBracket n => n

def reason : PatternError → String
  | tooManyStars _ => "wildcards are either regular `*` or recursive `**`"
  | partOfComponent _ => "recursive wildcards must form a single path component"
  | unclosedBracket _ => "invalid range pattern"

def message (e : PatternError) : String :=
  "Invalid glob pattern: Pattern syntax error near position " ++ toString e.position ++ ": " ++
    e.reason

end PatternError

def ranges : List Char → List CharRange
  | a :: '-' :: b :: rest => ⟨a, b⟩ :: ranges rest
  | a :: rest => ⟨a, a⟩ :: ranges rest
  | [] => []

/-- The choice of characters behind an opening bracket, with the number of characters that it takes and
what follows it. The first character of the choice may be a bracket itself. -/
def bracket? : List Char → Option (Token × Nat × List Char)
  | '!' :: c :: rest => do
    let (inside, rest) ← Text.cutAt? [']'] rest
    return (.noneOf (ranges (c :: inside)), inside.length + 3, rest)
  | '!' :: [] => none
  | c :: rest => do
    let (inside, rest) ← Text.cutAt? [']'] rest
    return (.oneOf (ranges (c :: inside)), inside.length + 2, rest)
  | [] => none

theorem length_lt_of_bracket? {cs rest : List Char} {t : Token} {n : Nat}
    (h : bracket? cs = some (t, n, rest)) : rest.length < cs.length := by
  unfold bracket? at h
  split at h
  all_goals simp only [Option.bind_eq_bind, Option.bind_eq_some_iff, Option.pure_def, reduceCtorEq,
    Option.some.injEq, Prod.mk.injEq] at h
  all_goals
    obtain ⟨⟨inside, r⟩, hr, -, -, rfl⟩ := h
    have := Text.length_lt_of_cutAt? hr (by simp)
    simp only [List.length_cons]
    omega

def tokensFrom (position : Nat) (atStart : Bool) (cs : List Char) :
    Except PatternError (List Token) :=
  match cs with
  | [] => .ok []
  | '*' :: '*' :: '*' :: _ => .error (.tooManyStars (position + 2))
  | '*' :: '*' :: rest =>
    if atStart then
      match rest with
      | [] => .ok [.anyComponents]
      | '/' :: rest => (tokensFrom (position + 3) true rest).map (.anyComponents :: ·)
      | _ => .error (.partOfComponent (position + 2))
    else .error (.partOfComponent (position - 1))
  | '*' :: rest => (tokensFrom (position + 1) false rest).map (.anyText :: ·)
  | '?' :: rest => (tokensFrom (position + 1) false rest).map (.anyChar :: ·)
  | '[' :: rest =>
    match h : bracket? rest with
    | none => .error (.unclosedBracket position)
    | some (t, n, after) =>
      have := length_lt_of_bracket? h
      (tokensFrom (position + 1 + n) false after).map (t :: ·)
  | c :: rest => (tokensFrom (position + 1) (c == '/') rest).map (.char c :: ·)
termination_by cs.length

structure Pattern where
  text : String
  tokens : List Token
  deriving DecidableEq, Repr

def Pattern.parse (text : String) : Except PatternError Pattern :=
  (tokensFrom 0 true text.toList).map (Pattern.mk text)

def Pattern.parseAll : List String → Except PatternError (List Pattern)
  | [] => .ok []
  | text :: texts => do
    let p ← parse text
    let ps ← parseAll texts
    return p :: ps

def anyRest (p : List Char → Bool) : List Char → Bool
  | [] => p []
  | c :: cs => p (c :: cs) || anyRest p cs

def anyComponentRest (p : List Char → Bool) : List Char → Bool
  | [] => p []
  | c :: cs => (c == '/' && p cs) || anyComponentRest p cs

def Token.admits (c : Char) : Token → Bool
  | .char d => c == d
  | .anyChar => true
  | .oneOf rs => rs.any fun r => r.covers c
  | .noneOf rs => !rs.any fun r => r.covers c
  | .anyText | .anyComponents => false

def matchTokens : List Token → List Char → Bool
  | [], cs => cs.isEmpty
  | .anyText :: ts, cs => anyRest (matchTokens ts) cs
  | .anyComponents :: ts, cs => matchTokens ts cs || anyComponentRest (matchTokens ts) cs
  | t :: ts, c :: cs => t.admits c && matchTokens ts cs
  | _ :: _, [] => false

def Pattern.fits (p : Pattern) (text : String) : Bool := matchTokens p.tokens text.toList

/-- A part of paths that a pattern also stands for: the pattern without its double stars, unless it is
just one byte. -/
def Pattern.core? (p : Pattern) : Option (List Char) :=
  let core := Text.eraseAll ['*', '*'] p.text.toList
  if 1 < Text.Utf8.size core then some core else none

def Pattern.excludes (p : Pattern) (path : String) : Bool :=
  p.fits path || p.core?.any fun core => Text.contains core path.toList

end ConventionLint.Glob
