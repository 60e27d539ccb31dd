import Mathlib.Data.List.Forall2
import ConventionLint.Proofs.Tree.Calls
import ConventionLint.Proofs.Tree.Constant
import ConventionLint.Proofs.Tree.Names
import ConventionLint.Proofs.Tree.Whole

/-! Docstrings and the constants that stand in their places. The docstring of a body is read from its first
statement and not from the nodes which that is lowered to. So it may be a byte string, it is looked for in
neither parentheses nor neighbouring strings, and further expressions in the statement do not matter. -/
namespace ConventionLint.Tree
open ConventionLint.Grammar (Concrete Kind Role Span)

def StringToken.value (token : StringToken) : String :=
  String.ofList (if token.isRaw then token.body else unescape token.body)

theorem stringValueOf (cs : List Char) :
    stringValue? cs = (StringToken.split? cs).map fun t => (t.value.toList,t.isBytes) := by
  unfold stringValue?
  cases StringToken.split? cs with
  | none => rfl
  | some t => simp [StringToken.value]

def Payload.docstring? {ρ : Type} : Payload ρ → Option String
  | .module d | .classDef _ _ d | .functionDef _ _ d _ => d
  | _ => none

theorem docstringOfMap {ρ σ : Type} (f : ρ → σ) (p : Payload ρ) : (p.map f).docstring? = p.docstring? := by
  cases p <;> rfl

theorem docstringOfPayload (t : Tree) (i : NodeId) : t.docstring? i = (t.payload i).docstring? := by
  unfold Tree.docstring?
  cases t.payload i <;> rfl

namespace Lowering
variable {text : List Char} {c d d' e st : Concrete}

def tokenOf (text : List Char) (c : Concrete) : Option StringToken := StringToken.split? (written text c).toList

def Quoted (text : List Char) (st : Concrete) (token : StringToken) : Prop :=
  st.hasKind .expressionStatement ∧ ∃ e ∈ st.named.head?, e.hasKind .string ∧ tokenOf text e = some token

theorem docstringIff {body : Concrete} {s : String} :
    docstring? text body = some s ↔
      ∃ st ∈ body.named.head?, ∃ token, Quoted text st token ∧ token.isFormat = false ∧ s = token.value := by
  unfold docstring? Quoted tokenOf
  simp only [Option.bind_eq_bind,Option.bind_eq_some_iff,Option.mem_def]
  refine exists_congr fun st => and_congr_right fun _ => ?_
  constructor
  · intro found
    split at found
    · next kind =>
      obtain ⟨e,first,found⟩ := Option.bind_eq_some_iff.mp found
      split at found
      · next string =>
        obtain ⟨token,read,found⟩ := Option.bind_eq_some_iff.mp found
        split at found
        · cases found
        · next plain =>
          rw [stringValueOf,read] at found
          exact ⟨token,⟨kind,e,first,string,read⟩,by simpa using plain,by simpa using found.symm⟩
      · cases found
    · cases found
  · rintro ⟨token,⟨kind,e,first,string,read⟩,plain,rfl⟩
    rw [if_pos kind,first,Option.bind_some,if_pos string,read,Option.bind_some,plain,stringValueOf,read]
    simp

def piecesOf (c : Concrete) : List Concrete := if c.hasKind .concatenatedString then c.named else [c]

def isStringLike (c : Concrete) : Bool := c.hasKind .string || c.hasKind .concatenatedString

def IsText (text : List Char) (c : Concrete) : Prop :=
  ∀ p ∈ piecesOf c, ∀ token, tokenOf text p = some token → token.isFormat = false ∧ token.isBytes = false

def joined (text : List Char) (c : Concrete) : String :=
  String.ofList (((piecesOf c).filterMap (tokenOf text)).flatMap fun token => token.value.toList)

theorem stringByTokens (text : List Char) (r : Reader) (c : Concrete) :
    (string text r c).payload =
      let tokens := (piecesOf c).filterMap (tokenOf text)
      if tokens.any StringToken.isFormat then .other "fstring"
      else .const (if tokens.any StringToken.isBytes then .bytes (joined text c) else .str (joined text c)) := by
  have values : ((piecesOf c).map fun d => (written text d).toList).filterMap stringValue? =
      ((piecesOf c).filterMap (tokenOf text)).map fun t => (t.value.toList,t.isBytes) := by
    rw [List.filterMap_map,List.map_filterMap]
    exact List.filterMap_congr fun d _ => stringValueOf _
  have formats : (((piecesOf c).map fun d => (written text d).toList).any
      fun t => (StringToken.split? t).any StringToken.isFormat) =
        ((piecesOf c).filterMap (tokenOf text)).any StringToken.isFormat := by
    rw [List.any_map,List.any_filterMap]
    rfl
  have pieces : (if c.hasKind .concatenatedString then c.named else [c]) = piecesOf c := rfl
  unfold string
  dsimp only
  rw [pieces,formats,values]
  split
  · rfl
  · rw [List.any_map,List.flatMap_map]
    rfl

theorem textIff {r : Reader} {s : String} :
    (string text r c).payload = .const (.str s) ↔ IsText text c ∧ s = joined text c := by
  have all : IsText text c ↔ ∀ token ∈ (piecesOf c).filterMap (tokenOf text),
      token.isFormat = false ∧ token.isBytes = false := by
    rw [List.forall_mem_filterMap]
    rfl
  rw [stringByTokens,all]
  dsimp only
  split
  · next format =>
    obtain ⟨token,mem,own⟩ := List.any_eq_true.mp format
    exact iff_of_false nofun fun isText => Bool.noConfusion (own.symm.trans (isText.1 token mem).1)
  · next plain =>
    split
    · next bytes =>
      obtain ⟨token,mem,own⟩ := List.any_eq_true.mp bytes
      exact iff_of_false nofun fun isText => Bool.noConfusion (own.symm.trans (isText.1 token mem).2)
    · next others =>
      simp only [List.any_eq_true,not_exists,not_and,Bool.not_eq_true] at plain others
      refine ⟨fun same => ⟨fun token mem => ⟨plain token mem,others token mem⟩,?_⟩,fun isText => by rw [isText.2]⟩
      exact (Literal.str.inj (Payload.const.inj same)).symm

inductive Enclosed (d : Concrete) : Concrete → Prop where
  | bare : Enclosed d d
  | parenthesized {c e : Concrete} (kind : c.hasKind .parenthesizedExpression) (only : c.named = [e])
      (within : Enclosed d e) : Enclosed d c

theorem wholeOne (text : List Char) (regular : c.Regular) (operand : c.isOperand) : ∃ o, whole text c = [o] := by
  rw [wholeStep]
  exact stepOne regular operand

theorem wholeParenthesized (text : List Char) (regular : c.Regular) (kind : c.hasKind .parenthesizedExpression) :
    ∃ e, c.named = [e] ∧ e.isOperand ∧ whole text c = whole text e := by
  obtain ⟨e,parts,operand⟩ := regular.fits (beq_iff_eq.mp kind)
  have only : c.named = [e] := by
    rw [Concrete.named,parts]
    exact List.filter_cons_of_pos (operandNamed operand)
  have below : e ∈ c.children := parts ▸ List.mem_singleton_self e
  obtain ⟨o,alone⟩ := wholeOne text (regular.children e below) operand
  refine ⟨e,only,operand,?_⟩
  rw [wholeStep text c]
  unfold step
  rw [beq_iff_eq.mp kind]
  simp [only,single,alone]

theorem undissolved (operand : e.isOperand) (bare : ¬e.hasKind .parenthesizedExpression) :
    ∀ k ∈ dissolving, ¬e.hasKind k := by
  intro k listed kind
  have isOperand : Concrete.isOperandKind k := by
    simpa [Concrete.isOperand,beq_iff_eq.mp kind] using operand
  simp only [dissolving,List.mem_cons,List.not_mem_nil,or_false] at listed
  rcases listed with rfl | rfl | rfl
  · cases isOperand
  · cases isOperand
  · exact bare kind

theorem wholeBare {o : Outline} (regular : e.Regular) (operand : e.isOperand) (alone : whole text e = [o]) :
    ∃ d, Enclosed d e ∧ (∀ k ∈ dissolving, ¬d.hasKind k) ∧ step text (whole text) d = [o] := by
  induction size : e.size using Nat.strongRecOn generalizing e with
  | ind n ih =>
    subst size
    by_cases parenthesized : e.hasKind .parenthesizedExpression
    · obtain ⟨e',only,operand',same⟩ := wholeParenthesized text regular parenthesized
      have part : Part e' e := partNamed (only ▸ List.mem_singleton_self e')
      obtain ⟨d,enclosed,rest⟩ :=
        ih e'.size (partSmaller part) (partRegular regular part) operand' (same ▸ alone) rfl
      exact ⟨d,.parenthesized parenthesized only enclosed,rest⟩
    · exact ⟨e,.bare,undissolved operand parenthesized,by rw [← wholeStep,alone]⟩

theorem enclosedUnique (enclosed : Enclosed d e) (bare : ¬d.hasKind .parenthesizedExpression)
    (enclosed' : Enclosed d' e) (bare' : ¬d'.hasKind .parenthesizedExpression) : d = d' := by
  induction enclosed with
  | bare =>
    cases enclosed' with
    | bare => rfl
    | parenthesized kind => exact absurd kind bare
  | parenthesized kind only _ ih =>
    cases enclosed' with
    | bare => exact absurd kind bare'
    | parenthesized _ only' within => exact ih (by rwa [List.singleton_inj.mp (only.symm.trans only')])

theorem stepString {r : Reader} (like : isStringLike c) : step text r c = [string text r c] := by
  unfold step
  rcases (Bool.or_eq_true _ _).mp like with kind | kind
  · rw [beq_iff_eq.mp kind]
  · rw [beq_iff_eq.mp kind]

theorem stringBare (like : isStringLike d) : ¬d.hasKind .parenthesizedExpression := by
  intro kind
  rcases (Bool.or_eq_true _ _).mp like with string | strings
  · cases Grammar.kindUnique kind string
  · cases Grammar.kindUnique kind strings

theorem textExpression {s : String} (regular : e.Regular) (operand : e.isOperand) :
    (∃ o, whole text e = [o] ∧ o.payload = .const (.str s)) ↔
      ∃ d, Enclosed d e ∧ isStringLike d ∧ IsText text d ∧ s = joined text d := by
  constructor
  · rintro ⟨o,alone,value⟩
    obtain ⟨d,enclosed,bare,own⟩ := wholeBare regular operand alone
    rcases constantSpelled (own ▸ List.mem_singleton_self o) value with ⟨k,listed,kind⟩ | spelled
    · exact absurd kind (bare k listed)
    · cases spelled with
      | string kind same =>
        have isText := textIff.mp (congrArg Outline.payload same)
        exact ⟨d,enclosed,by simpa [isStringLike] using kind,isText⟩
      | number _ same =>
        rcases numberLiteral same with ⟨_,same,_⟩ | ⟨_,same⟩
        · cases same
        · cases same
      | word known => simp at known
  · rintro ⟨d,enclosed,like,isText⟩
    obtain ⟨o,alone⟩ := wholeOne text regular operand
    obtain ⟨d',enclosed',bare,own⟩ := wholeBare regular operand alone
    obtain rfl := enclosedUnique enclosed (stringBare like) enclosed' (bare _ (by decide))
    rw [stepString like] at own
    exact ⟨o,alone,List.singleton_inj.mp own ▸ textIff.mpr isText⟩

/-- The first statements for which the docstring differs from the constant in its place. -/
inductive Astray (text : List Char) (st : Concrete) : Prop where
  | bytes {token : StringToken} (first : Quoted text st token) (plain : token.isFormat = false)
      (bytes : token.isBytes = true)
  | several {token : StringToken} (first : Quoted text st token) (plain : token.isFormat = false)
      (more : st.named.length ≠ 1)
  | neighbours {d e : Concrete} (kind : st.hasKind .expressionStatement) (only : st.named = [e])
      (enclosed : Enclosed d e) (strings : d.hasKind .concatenatedString) (isText : IsText text d)
  | enclosed {d e : Concrete} (kind : st.hasKind .expressionStatement) (only : st.named = [e])
      (outer : e.hasKind .parenthesizedExpression) (enclosed : Enclosed d e) (string : d.hasKind .string)
      (isText : IsText text d)
  | unquoted {e : Concrete} (kind : st.hasKind .expressionStatement) (only : st.named = [e])
      (string : e.hasKind .string) (unread : tokenOf text e = none)

section Statement
variable {token : StringToken} {s : String}

theorem stringPieces (string : e.hasKind .string) : piecesOf e = [e] := by
  refine if_neg fun strings => ?_
  cases Grammar.kindUnique string strings

theorem joinedToken (string : e.hasKind .string) (found : tokenOf text e = some token) :
    joined text e = token.value := by
  simp [joined,stringPieces string,found]

theorem textToken (string : e.hasKind .string) (found : tokenOf text e = some token) :
    IsText text e ↔ token.isFormat = false ∧ token.isBytes = false := by
  simp [IsText,stringPieces string,found]

theorem statementOperands (regular : st.Regular) (kind : st.hasKind .expressionStatement) :
    ∀ e ∈ st.named, e.Regular ∧ e.isOperand := by
  intro e mem
  have child := (List.mem_filter.mp mem).1
  exact ⟨regular.children e child,regular.fits (beq_iff_eq.mp kind) e child⟩

theorem statementWhole (text : List Char) (kind : st.hasKind .expressionStatement) :
    whole text st = st.named.flatMap (whole text) := by
  rw [wholeStep]
  unfold step
  rw [beq_iff_eq.mp kind]

theorem statementLength (text : List Char) (regular : st.Regular) (kind : st.hasKind .expressionStatement) :
    (whole text st).length = st.named.length := by
  have one : ∀ e ∈ st.named, (whole text e).length = 1 := by
    intro e mem
    obtain ⟨own,operand⟩ := statementOperands regular kind e mem
    obtain ⟨o,alone⟩ := wholeOne text own operand
    rw [alone]
    rfl
  rw [statementWhole text kind,List.length_flatMap,List.map_congr_left one]
  simp

theorem statementText (regular : st.Regular) (kind : st.hasKind .expressionStatement) :
    (∃ o, whole text st = [o] ∧ o.payload = .const (.str s)) ↔
      ∃ e, st.named = [e] ∧ ∃ d, Enclosed d e ∧ isStringLike d ∧ IsText text d ∧ s = joined text d := by
  constructor
  · rintro ⟨o,alone,value⟩
    obtain ⟨e,only⟩ : ∃ e, st.named = [e] := by
      rw [← List.length_eq_one_iff,← statementLength text regular kind,alone]
      rfl
    obtain ⟨own,operand⟩ := statementOperands regular kind e (only ▸ List.mem_singleton_self e)
    rw [statementWhole text kind,only,List.flatMap_singleton] at alone
    exact ⟨e,only,(textExpression own operand).mp ⟨o,alone,value⟩⟩
  · rintro ⟨e,only,rest⟩
    obtain ⟨own,operand⟩ := statementOperands regular kind e (only ▸ List.mem_singleton_self e)
    rw [statementWhole text kind,only,List.flatMap_singleton]
    exact (textExpression own operand).mpr rest

theorem quotedFirst (first : Quoted text st token) (plain : token.isFormat = false) :
    ∃ o rest, whole text st = o :: rest ∧
      o.payload = .const (if token.isBytes then .bytes token.value else .str token.value) := by
  obtain ⟨kind,e,head,isString,found⟩ := first
  obtain ⟨rest,parts⟩ := List.head?_eq_some_iff.mp head
  have like : isStringLike e := by simp [isStringLike,isString]
  refine ⟨string text (whole text) e,rest.flatMap (whole text),?_,?_⟩
  · rw [statementWhole text kind,parts,List.flatMap_cons,wholeStep text e,stepString like]
    rfl
  · rw [stringByTokens,joinedToken isString found]
    simp [stringPieces isString,found,plain]

def SameText (text : List Char) (st : Concrete) : Prop :=
  ∀ s, (∃ token, Quoted text st token ∧ token.isFormat = false ∧ s = token.value) ↔
    st.hasKind .expressionStatement ∧ ∃ o, whole text st = [o] ∧ o.payload = .const (.str s)

theorem SameText.quoted (same : SameText text st) (regular : st.Regular) (kind : st.hasKind .expressionStatement)
    (only : st.named = [e]) (enclosed : Enclosed d e) (like : isStringLike d) (isText : IsText text d) :
    e.hasKind .string ∧ ∃ token, tokenOf text e = some token := by
  have said := (statementText regular kind).mpr ⟨e,only,d,enclosed,like,isText,rfl⟩
  obtain ⟨token,⟨_,e,head,isString,found⟩,_⟩ := (same _).mpr ⟨kind,said⟩
  rw [only] at head
  cases head
  exact ⟨isString,token,found⟩

theorem SameText.straight (same : SameText text st) (regular : st.Regular) : ¬ Astray text st := by
  intro astray
  cases astray with
  | @bytes token first plain bytes =>
    obtain ⟨o,rest,parts,value⟩ := quotedFirst first plain
    obtain ⟨_,o',alone,value'⟩ := (same token.value).mp ⟨token,first,plain,rfl⟩
    obtain ⟨rfl,_⟩ := List.cons.inj (parts.symm.trans alone)
    rw [value,if_pos bytes] at value'
    cases value'
  | @several token first plain more =>
    obtain ⟨kind,o,alone,_⟩ := (same token.value).mp ⟨token,first,plain,rfl⟩
    rw [← statementLength text regular kind,alone] at more
    exact more rfl
  | neighbours kind only enclosed strings isText =>
    have ⟨quoted,_⟩ := same.quoted regular kind only enclosed ((Bool.or_eq_true _ _).mpr (.inr strings)) isText
    cases enclosed with
    | bare => cases Grammar.kindUnique strings quoted
    | parenthesized outer => cases Grammar.kindUnique outer quoted
  | enclosed kind only outer enclosed string isText =>
    have ⟨quoted,_⟩ := same.quoted regular kind only enclosed ((Bool.or_eq_true _ _).mpr (.inl string)) isText
    cases Grammar.kindUnique outer quoted
  | @unquoted e kind only string unread =>
    have isText : IsText text e := by simp [IsText,stringPieces string,unread]
    obtain ⟨_,_,found⟩ := same.quoted regular kind only .bare ((Bool.or_eq_true _ _).mpr (.inl string)) isText
    cases unread.symm.trans found

theorem sameText (regular : st.Regular) (straight : ¬ Astray text st) : SameText text st := by
  intro s
  constructor
  · rintro ⟨token,first,plain,rfl⟩
    have noBytes : token.isBytes = false := by
      by_contra bytes
      exact straight (.bytes first plain (by simpa using bytes))
    have one : (whole text st).length = 1 := by
      by_contra more
      exact straight (.several first plain (by rwa [← statementLength text regular first.1]))
    obtain ⟨o,rest,parts,value⟩ := quotedFirst first plain
    rw [parts,List.length_cons,Nat.add_eq_right,List.length_eq_zero_iff] at one
    rw [noBytes,if_neg Bool.false_ne_true] at value
    exact ⟨first.1,o,one ▸ parts,value⟩
  · rintro ⟨kind,said⟩
    obtain ⟨e,only,d,enclosed,like,isText,rfl⟩ := (statementText regular kind).mp said
    rcases (Bool.or_eq_true _ _).mp like with string | strings
    · cases enclosed with
      | bare =>
        cases found : tokenOf text e with
        | none => exact absurd (.unquoted kind only string found) straight
        | some token =>
          obtain ⟨plain,_⟩ := (textToken string found).mp isText
          exact ⟨token,⟨kind,e,by rw [only]; rfl,string,found⟩,plain,joinedToken string found⟩
      | parenthesized outer only' within =>
        exact absurd (.enclosed kind only outer (.parenthesized outer only' within) string isText) straight
    · exact absurd (.neighbours kind only enclosed strings isText) straight

theorem astrayIff (regular : st.Regular) : SameText text st ↔ ¬ Astray text st :=
  ⟨fun same => same.straight regular,sameText regular⟩

end Statement

def isBody (c : Concrete) : Bool := c.hasKind .module || c.hasKind .classDefinition || c.hasKind .functionDefinition

def statements (c : Concrete) : List Concrete := if c.hasKind .module then c.named else namedIn c .body

theorem statementsPart (mem : d ∈ statements c) : Part d c := by
  unfold statements at mem
  split at mem
  · exact partNamed mem
  · exact partNamedIn mem

def documentation? (text : List Char) (c : Concrete) : Option String :=
  if c.hasKind .module then docstring? text c else c.child? .body >>= docstring? text

theorem documentationIff {s : String} :
    documentation? text c = some s ↔
      ∃ st ∈ (statements c).head?, ∃ token, Quoted text st token ∧ token.isFormat = false ∧ s = token.value := by
  unfold documentation? statements namedIn
  split
  · exact docstringIff
  · cases c.child? .body with
    | none => simp
    | some b => exact docstringIff

def Documented (text : List Char) (program : Concrete) (k : NodeKind) (s : Span) (p : Payload Nat)
    (os : List Outline) : Prop :=
  k.isDefinition → ∃ c before, Inside program c ∧ isBody c ∧ s = c.span ∧
    p.docstring? = documentation? text c ∧ os = before ++ (statements c).flatMap (whole text)

theorem admitsDocumented {program : Concrete} (text : List Char) (regular : program.Regular) :
    Admits text (Inside program) (Documented text program) (whole text) where
  parts _ _ := insidePart
  plain _ _ _ _ _ other _ _ := by
    rw [Documented,other]
    exact nofun
  name _ _ _ := nofun
  call _ _ _ := hasCall (fun _ _ _ _ => nofun) fun _ => nofun
  definition c ds d h defines := by
    obtain ⟨within,defined⟩ := insideDefined h defines
    have kind := definedKind regular defined
    have ⟨body,other⟩ : isBody d ∧ ¬ d.hasKind .module := by
      rcases kind with kind | kind
      · simp [isBody,Concrete.hasKind,kind]
      · simp [isBody,Concrete.hasKind,kind]
    unfold definition
    dsimp only
    split
    · exact fun _ => ⟨d,_,within,body,rfl,(if_neg other).symm,by rw [statements,if_neg other]⟩
    · exact fun _ => ⟨d,_,within,body,rfl,(if_neg other).symm,by rw [statements,if_neg other]⟩
  assign _ _ _ := nofun
  imports _ _ _ := nofun
  importFrom _ _ _ := nofun

end Lowering

def Shows (t : Tree) (j : NodeId) : Outline → Prop
  | .node k s p _ => t.kind j = k ∧ t.span j = s ∧ ∃ f, t.payload j = p.map f

open Lowering

section Nodes
variable {t : Tree} {i : NodeId} {parent : Option NodeId} {k : NodeKind} {s : Span} {p : Payload Nat}

theorem literalShown {j : NodeId} {o : Outline} {l : Literal} (shows : Shows t j o) :
    t.literal? j = some l ↔ o.payload = .const l := by
  cases o with
  | node k s p cs =>
    obtain ⟨_,_,f,data⟩ := shows
    rw [Tree.literal?,data,Outline.payload]
    cases p <;> simp [Payload.map]

theorem storedShows {j : NodeId} {o : Outline} (stored : Outline.Stored t.nodes.toList parent j o) : Shows t j o := by
  cases o with
  | node k s p cs =>
    have own := nodeOfStored (Outline.storedNode stored)
    exact ⟨congrArg Node.kind own,congrArg Node.span own,_,congrArg Node.payload own⟩

theorem numbersAppend (next : NodeId) (os ps : List Outline) :
    Outline.numbers next (os ++ ps) = Outline.numbers next os ++ Outline.numbers (next + Outline.sizeAll os) ps := by
  induction os generalizing next with
  | nil => rfl
  | cons o os ih => simp only [List.cons_append,Outline.numbers,Outline.sizeAll,ih,Nat.add_assoc]

theorem partsShown (before os after : List Outline)
    (stored : Outline.Stored t.nodes.toList parent i (.node k s p (before ++ os ++ after))) :
    ∃ js, js <:+: t.children i ∧ List.Forall₂ (Shows t) js os := by
  refine ⟨Outline.numbers (i + 1 + Outline.sizeAll before) os,?_,?_⟩
  · rw [childrenOfStored stored,numbersAppend,numbersAppend]
    exact List.infix_append _ _ _
  · induction os generalizing before with
    | nil => exact .nil
    | cons o os ih =>
      have here : before ++ (o :: os) ++ after = before ++ o :: (os ++ after) := by simp
      have next : before ++ o :: os ++ after = before ++ [o] ++ os ++ after := by simp
      refine .cons (storedShows (Outline.storedChild (here ▸ stored))) ?_
      have rest := ih (before ++ [o]) (next ▸ stored)
      rwa [Outline.sizeAllAppend,Outline.sizeAll,Outline.sizeAll,Nat.add_zero,← Nat.add_assoc] at rest

end Nodes

structure IsBodyOf (text : List Char) (t : Tree) (i : NodeId) (c : Concrete) : Prop where
  inside : ∃ program, Grammar.parse text = .ok program ∧ Inside program c
  body : isBody c
  span : t.span i = c.span

section Frame
variable {text : List Char} {t : Tree} {i : NodeId}

theorem bodyStored (parsed : Tree.parse text = .ok t) (frame : i = root ∨ (t.kind i).isDefinition) :
    ∃ parent k c p before, IsBodyOf text t i c ∧ c.Regular ∧ t.docstring? i = documentation? text c ∧
      Outline.Stored t.nodes.toList parent i
        (.node k c.span p (before ++ (statements c).flatMap (whole text))) := by
  obtain ⟨program,ok,rfl⟩ := outlineOfParse parsed
  have regular := Grammar.programIsRegular ok
  rcases frame with rfl | definition
  · have isModule : program.hasKind .module := by
      obtain ⟨_,_,rfl,_⟩ := Grammar.parsedRegular ok
      rfl
    have stored := storedTop text (outline text program)
    generalize ofOutline text (outline text program) = t at stored ⊢
    rw [outlineWhole] at stored
    obtain ⟨_,span,f,data⟩ := storedShows stored
    refine ⟨none,.module,program,.module (Lowering.docstring? text program),[],
      ⟨⟨program,ok,.inl rfl⟩,by simp [isBody,isModule],span⟩,regular,?_,?_⟩
    · rw [docstringOfPayload,data,docstringOfMap,documentation?,if_pos isModule]
      rfl
    · rw [List.nil_append,statements,if_pos isModule]
      exact stored
  · have every := outlineEveryWhole (admitsDocumented text regular) (.inl rfl)
    have inside : i < (ofOutline text (outline text program)).size := by
      refine insideOfKind fun other => ?_
      rw [other] at definition
      cases definition
    obtain ⟨parent,k,s,p,cs,stored,own⟩ := everyPlace every inside
    obtain ⟨kind,span,f,data⟩ := storedShows stored
    obtain ⟨c,before,within,body,rfl,doc,rfl⟩ := own (kind ▸ definition)
    refine ⟨parent,k,c,p,before,⟨⟨program,ok,within⟩,body,span⟩,insideRegular regular within,?_,stored⟩
    rw [docstringOfPayload,data,docstringOfMap,doc]

/-- What the docstring of a module, a class or a function is, and where it is another one than the constant
that the first statement of its body is lowered to. -/
theorem docstringByFirst (parsed : Tree.parse text = .ok t) (frame : i = root ∨ (t.kind i).isDefinition) :
    ∃ c, IsBodyOf text t i c ∧ (statements c = [] → t.docstring? i = none) ∧
      ∀ st ∈ (statements c).head?, ∃ js, js <:+: t.children i ∧ List.Forall₂ (Shows t) js (whole text st) ∧
        (∀ s, t.docstring? i = some s ↔
          ∃ token, Quoted text st token ∧ token.isFormat = false ∧ s = token.value) ∧
        (∀ token, Quoted text st token → token.isFormat = false → ∃ j ∈ js.head?,
          t.literal? j = some (if token.isBytes then .bytes token.value else .str token.value)) ∧
        ((∀ s, t.docstring? i = some s ↔
          st.hasKind .expressionStatement ∧ ∃ j, js = [j] ∧ t.literal? j = some (.str s)) ↔ ¬ Astray text st) := by
  obtain ⟨parent,k,c,p,before,made,regular,doc,stored⟩ := bodyStored parsed frame
  refine ⟨c,made,fun empty => ?_,fun st first => ?_⟩
  · rw [doc]
    refine Option.eq_none_iff_forall_not_mem.mpr fun s said => ?_
    obtain ⟨st,mem,_⟩ := documentationIff.mp said
    rw [empty] at mem
    cases mem
  · obtain ⟨rest,parts⟩ := List.head?_eq_some_iff.mp first
    rw [parts,List.flatMap_cons,← List.append_assoc] at stored
    obtain ⟨js,within,shown⟩ := partsShown before (whole text st) (rest.flatMap (whole text)) stored
    have said (s : String) : t.docstring? i = some s ↔
        ∃ token, Quoted text st token ∧ token.isFormat = false ∧ s = token.value := by
      rw [doc,documentationIff,first]
      simp
    refine ⟨js,within,shown,said,fun token quoted plain => ?_,?_⟩
    · obtain ⟨o,os,nodes,value⟩ := quotedFirst quoted plain
      rw [nodes] at shown
      cases shown with
      | cons shows _ => exact ⟨_,rfl,(literalShown shows).mpr value⟩
    · have constant (s : String) : (∃ j, js = [j] ∧ t.literal? j = some (.str s)) ↔
          ∃ o, whole text st = [o] ∧ o.payload = .const (.str s) := by
        constructor
        · rintro ⟨j,rfl,value⟩
          obtain ⟨o,_,shows,rest,nodes⟩ := List.forall₂_cons_left_iff.mp shown
          cases List.forall₂_nil_left_iff.mp rest
          exact ⟨o,nodes,(literalShown shows).mp value⟩
        · rintro ⟨o,nodes,value⟩
          rw [nodes] at shown
          obtain ⟨j,_,shows,rest,rfl⟩ := List.forall₂_cons_right_iff.mp shown
          cases List.forall₂_nil_right_iff.mp rest
          exact ⟨j,rfl,(literalShown shows).mpr value⟩
      simp only [said,constant]
      exact astrayIff (partRegular regular (statementsPart (List.mem_of_head? first)))

end Frame

theorem bytesDocument : ∃ t, Tree.parse "b'x'\n".toList = .ok t ∧ t.docstring? root = some "x" ∧
    ∃ c st, IsBodyOf "b'x'\n".toList t root c ∧ st ∈ (statements c).head? ∧ Astray "b'x'\n".toList st := by
  obtain ⟨t,parsed,facts⟩ := okOfMap (x := Tree.parse "b'x'\n".toList) (f := fun t => decide (
    t.docstring? root = some "x" ∧ ∀ j ∈ t.children root, t.literal? j ≠ some (.str "x"))) (b := true)
    (by decide +kernel)
  obtain ⟨said,noText⟩ := of_decide_eq_true facts
  obtain ⟨c,made,empty,first⟩ := docstringByFirst parsed (.inl rfl)
  cases head : (statements c).head? with
  | none =>
    rw [empty (List.head?_eq_none_iff.mp head)] at said
    cases said
  | some st =>
    obtain ⟨js,within,_,_,_,agree⟩ := first st head
    refine ⟨t,parsed,said,c,st,made,head,?_⟩
    by_contra straight
    obtain ⟨_,j,rfl,value⟩ := (agree.mpr straight "x").mp said
    exact noText j (within.subset (List.mem_singleton_self j)) value

end ConventionLint.Tree
