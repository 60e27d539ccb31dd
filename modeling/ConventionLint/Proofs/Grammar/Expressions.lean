import ConventionLint.Grammar.CasePattern
import ConventionLint.Grammar.Expression
import ConventionLint.Grammar.TypeForm
import ConventionLint.Proofs.Grammar.Places

/-! Expressions, types and patterns lie where their tokens lie. -/
namespace ConventionLint.Grammar

def Reads (S : Sites) (r : Reader) : Prop := ∀ g, Keeps S (r g)

namespace Keeps
open ConventionLint.Grammar.Parser
variable {S : Sites} {r : Reader}

theorem anyName : Keeps S anyName := by
  refine peeked fun s c s' hs ok => ?_
  generalize next : s.tokens.head?.map Token.lexeme = l at ok
  split at ok
  · exact identifier hs next ok
  · exact fail s c s' hs ok

theorem name : Keeps S name := by
  refine peeked fun s c s' hs ok => ?_
  generalize next : s.tokens.head?.map Token.lexeme = l at ok
  split at ok
  · split at ok
    · exact fail s c s' hs ok
    · exact identifier hs next ok
  · exact fail s c s' hs ok

theorem liesPatternBelow {cs : List Concrete} {k : Kind} {r : Option Role} {s : Span} {d : Concrete}
    (keep : ∀ ds, Concrete.toPatterns? cs = some ds → Lies S cs → Lies S ds)
    (found : (Concrete.toPatterns? cs).map (.node k r s) = some d) {k' : Kind}
    (other : k ≠ .identifier) (h : Lies S (Concrete.node k' r s cs)) : Lies S d := by
  obtain ⟨ds,below,rfl⟩ := Option.map_eq_some_iff.mp found
  have ⟨own,_,inside⟩ := liesNode.mp h
  exact liesForm other ⟨own,keep ds below inside⟩

mutual

theorem liesPattern (c : Concrete) : ∀ d, c.toPattern? = some d → Lies S c → Lies S d := by
  intro d found h
  cases c with
  | token t s => simp [Concrete.toPattern?] at found
  | node k r s cs =>
    have same := liesNode.mp h
    unfold Concrete.toPattern? at found
    split at found
    all_goals try exact Option.some.inj found ▸ h
    all_goals try exact liesPatternBelow (liesPatterns cs) found nofun h
    · split at found
      all_goals cases found
      all_goals exact liesForm nofun ⟨same.1,same.2.2⟩
    · cases found

theorem liesPatterns (cs : List Concrete) :
    ∀ ds, Concrete.toPatterns? cs = some ds → Lies S cs → Lies S ds := by
  intro ds found h
  cases cs with
  | nil =>
    cases found
    exact h
  | cons c cs =>
    have ⟨first,rest⟩ := liesCons.mp h
    obtain ⟨p,ps,hp,hps,rfl⟩ := Concrete.toPatternsCons found
    exact liesCons.mpr ⟨liesPattern c p hp first,liesPatterns cs ps hps rest⟩

end

theorem targetItem (reads : Reads S r) : Keeps S (targetItem r) := by
  refine (reads _).bind fun e he => ?_
  split
  · exact .pure (liesPattern e _ ‹_› he)
  · exact throw

theorem loopTarget (reads : Reads S r) : Keeps S (loopTarget r) := by
  refine here.bind fun _ start => (commaList (targetItem reads)).bind fun x hx => ?_
  obtain ⟨items,comma⟩ := x
  dsimp only
  split
  · exact .pure (liesCons.mp hx.1).1
  · exact get.bind fun _ hs => .pure (liesForm nofun ⟨⟨start,hs.2⟩,hx.1⟩)

theorem atLoopClause : Keeps S atLoopClause := by
  refine peek.bind fun _ _ => peekSecond.bind fun _ _ => ?_
  split <;> exact .pure trivial

theorem loopClause (reads : Reads S r) : Keeps S (loopClause r) := by
  refine node nofun (accept.bind fun _ _ => keyword.bind fun _ _ => (loopTarget reads).bind fun _ ht => ?_)
  refine keyword.bind fun _ _ => (commaList (reads _)).bind fun _ hx => .pure ?_
  exact liesCons.mpr ⟨liesWithRole ht,liesMap (fun _ => liesWithRole) hx.1⟩

theorem conditionClause (reads : Reads S r) : Keeps S (conditionClause r) :=
  node nofun (keyword.bind fun _ _ => (reads _).bind fun _ h => .pure (liesCons.mpr ⟨h,liesNil⟩))

theorem comprehensionClauses (reads : Reads S r) : Keeps S (comprehensionClauses r) := by
  refine (loopClause reads).bind fun _ h => .bind (.many ?_) fun _ hs => .pure (liesCons.mpr ⟨h,hs⟩)
  refine atLoopClause.bind fun _ _ => .ite ?_ ?_
  · exact present (loopClause reads)
  · exact whenNext (conditionClause reads)

theorem orEmpty {c : Prop} [Decidable c] {p : Parser Concrete} {g : Concrete → Concrete} {α : Type}
    [Located α] {f : List Concrete → Parser α} (hp : Keeps S p) (hg : ∀ a, Lies S a → Lies S (g a))
    (hf : ∀ cs, Lies S cs → Keeps S (f cs)) :
    Keeps S (if c then p >>= fun a => Pure.pure [g a] >>= f else Pure.pure [] >>= f) :=
  .ite (hp.bind fun a h => .bind (.pure (liesSingle (hg a h))) hf) (.bind (.pure liesNil) hf)

theorem afterComma {p : Parser Concrete} {ends : Parser Bool} (he : Keeps S ends) (hp : Keeps S p) :
    Keeps S (Parser.many do
      if ← Parser.accept (.symbol ",") then
        if ← ends then return some none else return some (some (← p))
      else return none) := by
  refine many (accept.bind fun _ _ => .ite (he.bind fun _ _ => .ite ?_ ?_) (.pure liesNone))
  · exact .pure (liesSome.mpr liesNone)
  · exact hp.bind fun _ h => .pure (liesSome.mpr (liesSome.mpr h))

theorem expressionList {stops : Option Lexeme → Bool} (reads : Reads S r) :
    Keeps S (expressionList r stops) := by
  refine here.bind fun _ start => (commaList (reads _)).bind fun x hx => ?_
  obtain ⟨items,comma⟩ := x
  dsimp only
  split
  · exact .pure (liesCons.mp hx.1).1
  · exact get.bind fun _ hs => .pure (liesForm nofun ⟨⟨start,hs.2⟩,hx.1⟩)

theorem expressions (reads : Reads S r) : Keeps S (expressions r) := expressionList reads

theorem yieldExpression (reads : Reads S r) : Keeps S (yieldExpression r) := by
  refine node nofun (keyword.bind fun _ _ => accept.bind fun _ _ => .ite ?_ (peek.bind fun _ _ => .ite ?_ ?_))
  · exact single (reads _)
  · exact single (expressions reads)
  · exact .pure liesNil

theorem expressionOrYield (reads : Reads S r) : Keeps S (expressionOrYield r) :=
  isNext.bind fun _ _ => .ite (yieldExpression reads) (expressions reads)

theorem formatSpecifier {hole : Kind → Parser Concrete} (hh : Keeps S (hole .formatExpression)) :
    Keeps S (formatSpecifier hole) := by
  refine node nofun (expect.bind fun _ _ => many ?_)
  exact whenNext hh

theorem holeBounded {k : Kind} (other : k ≠ .identifier) (reads : Reads S r) (n : Nat) :
    Keeps S (holeBounded r n k) := by
  induction n generalizing k with
  | zero => exact fail
  | succ n ih =>
    refine node other (expect.bind fun _ _ => (expressionOrYield reads).bind fun _ hv => ?_)
    refine accept.bind fun _ _ => isNext.bind fun _ _ => orEmpty (leaf nofun) (fun _ => id) fun _ hc => ?_
    refine isNext.bind fun _ _ => orEmpty (formatSpecifier (ih nofun)) (fun _ => id) fun _ hf => ?_
    refine expect.bind fun _ _ => .pure ?_
    exact liesAppend.mpr ⟨liesCons.mpr ⟨liesWithRole hv,hc⟩,hf⟩

theorem stringLiteral (reads : Reads S r) : Keeps S (stringLiteral r) := by
  refine node nofun (expect.bind fun _ _ => .bind (.many ?_) fun _ hs => expect.bind fun _ _ => .pure hs)
  refine isNext.bind fun _ _ => .ite (get.bind fun _ _ => ?_) (.pure liesNone)
  exact present (holeBounded (by nofun) reads _)

theorem strings (reads : Reads S r) : Keeps S (strings r) := by
  refine (stringLiteral reads).bind fun _ first => isNext.bind fun _ _ => .ite ?_ (.pure first)
  refine extend nofun first (many ?_)
  exact whenNext (stringLiteral reads)

theorem starred (reads : Reads S r) : Keeps S (starred r) :=
  node nofun (symbol.bind fun _ _ => single (reads _))

theorem doubleStarred (reads : Reads S r) : Keeps S (doubleStarred r) :=
  node nofun (symbol.bind fun _ _ => single (reads _))

theorem element (reads : Reads S r) : Keeps S (element r) :=
  isNext.bind fun _ _ => .ite (starred reads)
    (isNext.bind fun _ _ => .ite (yieldExpression reads) (reads _))

theorem elementsAfter (reads : Reads S r) {first : Concrete} {closing : String} (h : Lies S first) :
    Keeps S (elementsAfter r first closing) :=
  (afterComma isNext (element reads)).bind fun _ hs =>
    .pure ⟨liesCons.mpr ⟨h,liesPresent hs⟩,trivial⟩

theorem closed {w : String} {k : Kind} {start : Position} {cs : List Concrete} (other : k ≠ .identifier)
    (hs : S start) (below : Lies S cs) :
    Keeps S (do
      let _ ← Parser.symbol w
      return Concrete.node k none ⟨start,(← MonadState.get).last⟩ cs) :=
  symbol.bind fun _ _ => get.bind fun _ h => .pure (liesForm other ⟨⟨hs,h.2⟩,below⟩)

theorem parenthesized (reads : Reads S r) : Keeps S (parenthesized r) := by
  refine here.bind fun _ hs => symbol.bind fun _ _ => isNext.bind fun _ _ => .ite (closed nofun hs liesNil) ?_
  refine (element reads).bind fun _ first => atLoopClause.bind fun _ _ => .ite ?_ ?_
  · exact (comprehensionClauses reads).bind fun _ rest =>
      closed nofun hs (liesCons.mpr ⟨liesWithRole first,rest⟩)
  · refine (elementsAfter reads first).bind fun x hx => ?_
    exact .ite (closed nofun hs hx.1) (closed nofun hs hx.1)

theorem bracketed (reads : Reads S r) : Keeps S (bracketed r) := by
  refine here.bind fun _ hs => symbol.bind fun _ _ => isNext.bind fun _ _ => .ite (closed nofun hs liesNil) ?_
  refine (element reads).bind fun _ first => atLoopClause.bind fun _ _ => .ite ?_ ?_
  · exact (comprehensionClauses reads).bind fun _ rest =>
      closed nofun hs (liesCons.mpr ⟨liesWithRole first,rest⟩)
  · exact (elementsAfter reads first).bind fun x hx => closed nofun hs hx.1

theorem pairAfter (reads : Reads S r) {key : Concrete} (h : Lies S key) :
    Keeps S (pairAfter r key) :=
  extend nofun (liesWithRole h) (symbol.bind fun _ _ => (reads _).bind fun _ hv =>
    .pure (liesSingle (liesWithRole hv)))

theorem dictionaryEntry (reads : Reads S r) : Keeps S (dictionaryEntry r) :=
  isNext.bind fun _ _ => .ite (doubleStarred reads) ((reads _).bind fun _ h => pairAfter reads h)

theorem dictionaryAfter (reads : Reads S r) {first : Concrete} (h : Lies S first) :
    Keeps S (dictionaryAfter r first) :=
  (afterComma isNext (dictionaryEntry reads)).bind fun _ hs => .pure (liesCons.mpr ⟨h,liesPresent hs⟩)

theorem braced (reads : Reads S r) : Keeps S (braced r) := by
  refine here.bind fun _ hs => symbol.bind fun _ _ => isNext.bind fun _ _ => .ite (closed nofun hs liesNil) ?_
  refine isNext.bind fun _ _ => .ite ?_ ?_
  · exact (doubleStarred reads).bind fun _ h => (dictionaryAfter reads h).bind fun _ all => closed nofun hs all
  refine (element reads).bind fun _ first => isNext.bind fun _ _ => .ite ?_ ?_
  · refine (pairAfter reads first).bind fun _ hp => atLoopClause.bind fun _ _ => .ite ?_ ?_
    · exact (comprehensionClauses reads).bind fun _ rest =>
        closed nofun hs (liesCons.mpr ⟨liesWithRole hp,rest⟩)
    · exact (dictionaryAfter reads hp).bind fun _ all => closed nofun hs all
  · refine atLoopClause.bind fun _ _ => .ite ?_ ?_
    · exact (comprehensionClauses reads).bind fun _ rest =>
        closed nofun hs (liesCons.mpr ⟨liesWithRole first,rest⟩)
    · exact (elementsAfter reads first).bind fun x hx => closed nofun hs hx.1

theorem keywordArgument (reads : Reads S r) : Keeps S (keywordArgument r) := by
  refine node nofun (anyName.bind fun _ hn => symbol.bind fun _ _ => (reads _).bind fun _ hv => .pure ?_)
  exact liesCons.mpr ⟨liesWithRole hn,liesSingle (liesWithRole hv)⟩

theorem argument (reads : Reads S r) : Keeps S (argument r) := by
  refine peek.bind fun _ _ => peekSecond.bind fun _ _ => ?_
  split
  · exact starred reads
  · exact doubleStarred reads
  · exact keywordArgument reads
  · exact reads _

theorem arguments (reads : Reads S r) : Keeps S (arguments r) := by
  refine here.bind fun _ hs => symbol.bind fun _ _ => isNext.bind fun _ _ => .ite (closed nofun hs liesNil) ?_
  refine (argument reads).bind fun _ first => atLoopClause.bind fun _ _ => .ite ?_ ?_
  · exact (comprehensionClauses reads).bind fun _ rest =>
      closed nofun hs (liesCons.mpr ⟨liesWithRole first,rest⟩)
  · exact (afterComma isNext (argument reads)).bind fun _ all =>
      closed nofun hs (liesCons.mpr ⟨first,liesPresent all⟩)

theorem subscriptItem (reads : Reads S r) : Keeps S (subscriptItem r) := by
  have bound : Keeps S (do
      if startsExpression (← Parser.peek) then return [← r.full] else return [] :
        Parser (List Concrete)) :=
    peek.bind fun _ _ => .ite (single (reads _)) (.pure liesNil)
  refine here.bind fun _ start => bound.bind fun lower hl => accept.bind fun _ _ => .ite ?_ ?_
  · refine bound.bind fun _ hu => accept.bind fun _ _ => branch ?_ bound (.pure liesNil)
    exact fun _ ht => get.bind fun _ hs => .pure
      (liesForm nofun ⟨⟨start,hs.2⟩,liesAppend.mpr ⟨liesAppend.mpr ⟨hl,hu⟩,ht⟩⟩)
  · split
    · exact .pure (liesCons.mp hl).1
    · exact fail

theorem trailer (reads : Reads S r) {e : Concrete} (h : Lies S e) : Keeps S (trailer r e) := by
  refine peek.bind fun _ _ => ?_
  split
  · refine map (fun _ => liesSome.mpr) (extend nofun (liesWithRole h) (take.bind fun _ _ => ?_))
    exact anyName.bind fun _ hn => .pure (liesSingle (liesWithRole hn))
  · refine map (fun _ => liesSome.mpr) (extend nofun (liesWithRole h) (take.bind fun _ _ => ?_))
    exact (commaList (subscriptItem reads)).bind fun x hx => symbol.bind fun _ _ => .pure hx.1
  · refine map (fun _ => liesSome.mpr) (extend nofun (liesWithRole h) ?_)
    exact (arguments reads).bind fun _ ha => .pure (liesSingle (liesWithRole ha))
  · exact .pure liesNone

theorem plainAtom (reads : Reads S r) : Keeps S (plainAtom r) := by
  refine peek.bind fun _ _ => ?_
  split
  case h_4 => exact name
  case h_7 => exact strings reads
  case h_9 => exact parenthesized reads
  case h_10 => exact bracketed reads
  case h_11 => exact braced reads
  case h_12 => exact fail
  all_goals exact leaf nofun

theorem splatTarget (reads : Reads S r) : Keeps S (splatTarget r) := by
  refine (plainAtom reads).bind fun first hf => get.bind fun s hs => ?_
  have start : Lies S (if isSplatTarget first then some (first,s) else none) := by
    split
    · exact liesSome.mpr ⟨hf,hs⟩
    · exact liesNone
  refine .bind (α := Concrete × Option (Concrete × Stream)) (.grow ?_ ⟨hf,start⟩) fun x hx => ?_
  · rintro ⟨e,best⟩ ⟨he,hb⟩
    refine (trailer reads he).bind fun o ho => ?_
    split
    · exact .pure liesNone
    · refine get.bind fun t ht => .pure (liesSome.mpr ⟨liesSome.mp ho,?_⟩)
      split
      · exact liesSome.mpr ⟨liesSome.mp ho,ht⟩
      · exact hb
  · obtain ⟨e,best⟩ := x
    dsimp only
    split
    · have ⟨he,ht⟩ := liesSome.mp hx.2
      exact (set ht).bind fun _ _ => .pure he
    · exact fail

theorem splat (reads : Reads S r) : Keeps S (splat r) :=
  node nofun (symbol.bind fun _ _ => single (splatTarget reads))

theorem atom (reads : Reads S r) : Keeps S (atom r) :=
  isNext.bind fun _ _ => branch (fun _ => grow fun _ => trailer reads) (splat reads) (plainAtom reads)

theorem parameterPattern (reads : Reads S r) : Keeps S (parameterPattern r) := by
  refine (reads _).bind fun e he => ?_
  split
  · exact .ite (.pure (liesPattern e _ ‹_› he)) throw
  · exact throw

theorem annotated (reads : Reads S r) {typed : Bool} {p : Concrete} (h : Lies S p) :
    Keeps S (annotated r typed p) := by
  refine isNext.bind fun _ _ => .ite (extend nofun h (take.bind fun _ _ => ?_)) (.pure h)
  exact single (reads _)

theorem starredParameter {typed : Bool} {star : String} {k : Kind} (other : k ≠ .identifier)
    (reads : Reads S r) : Keeps S (starredParameter r typed star k) := by
  refine (node other (symbol.bind fun _ _ => ?_)).bind fun _ h => annotated reads h
  exact single anyName

theorem namedParameter (reads : Reads S r) {typed : Bool} : Keeps S (namedParameter r typed) := by
  refine anyName.bind fun _ hn => isNext.bind fun _ _ => .ite ?_ (isNext.bind fun _ _ => .ite ?_ ?_)
  · refine take.bind fun _ _ => (reads _).bind fun _ ht => accept.bind fun _ _ => .ite ?_ ?_
    · refine (reads _).bind fun _ hv => get.bind fun _ hs => .pure (liesForm nofun ⟨?_,?_⟩)
      · exact ⟨(liesSpan hn).1,hs.2⟩
      · exact liesCons.mpr ⟨liesWithRole hn,liesCons.mpr ⟨ht,liesSingle (liesWithRole hv)⟩⟩
    · refine get.bind fun _ hs => .pure (liesForm nofun ⟨?_,liesCons.mpr ⟨hn,liesSingle ht⟩⟩)
      exact ⟨(liesSpan hn).1,hs.2⟩
  · refine extend nofun (liesWithRole hn) (take.bind fun _ _ => ?_)
    exact (reads _).bind fun _ hv => .pure (liesSingle (liesWithRole hv))
  · exact .pure hn

theorem parameter (reads : Reads S r) {typed : Bool} : Keeps S (parameter r typed) := by
  refine peek.bind fun _ _ => ?_
  split
  · exact leaf nofun
  · refine peekSecond.bind fun _ _ => ?_
    split
    · exact starredParameter nofun reads
    · exact leaf nofun
  · exact starredParameter nofun reads
  · refine (parameterPattern reads).bind fun _ hp => isNext.bind fun _ _ => .ite ?_ (.pure hp)
    refine extend nofun (liesWithRole hp) (take.bind fun _ _ => ?_)
    exact (reads _).bind fun _ hv => .pure (liesSingle (liesWithRole hv))
  · exact namedParameter reads

theorem parametersUpTo (reads : Reads S r) {typed : Bool} {closing : String} :
    Keeps S (parametersUpTo r typed closing) :=
  isNext.bind fun _ _ => .ite (.pure liesNil)
    ((commaList (parameter reads)).bind fun _ hx => .pure hx.1)

theorem functionParameters (reads : Reads S r) : Keeps S (functionParameters r) :=
  node nofun (symbol.bind fun _ _ => (parametersUpTo reads).bind fun _ h => symbol.bind fun _ _ => .pure h)

theorem lambdaParameters (reads : Reads S r) : Keeps S (lambdaParameters r) :=
  isNext.bind fun _ _ => .ite (.pure liesNil)
    ((node (by nofun) (parametersUpTo reads)).bind fun _ h => .pure (liesSingle (liesWithRole h)))

theorem typeParameters (reads : Reads S r) : Keeps S (typeParameters r) :=
  node nofun (symbol.bind fun _ _ => (commaList (reads _)).bind fun _ hx => symbol.bind fun _ _ => .pure hx.1)

theorem typeHead (reads : Reads S r) : Keeps S (typeHead r) := by
  have splat : Keeps S (Parser.node .splatType do let _ ← Parser.take; return [← Parser.anyName]) :=
    node nofun (take.bind fun _ _ => single anyName)
  refine node nofun (peek.bind fun _ _ => peekSecond.bind fun _ _ => ?_)
  split
  · exact splat.bind fun _ h => .pure (liesSingle h)
  · exact splat.bind fun _ h => .pure (liesSingle h)
  · refine .ite fail (name.bind fun _ hb => .bind (.extend nofun hb ?_) fun _ h => .pure (liesSingle h))
    exact single (typeParameters reads)
  · exact single (reads _)

theorem wrapType {first : Concrete} {k : Kind} {p : Parser (List Concrete)} (other : k ≠ .identifier)
    (hf : Lies S first) (hp : Keeps S p) : Keeps S (wrapType first k p) :=
  (extend other hf hp).bind fun _ h => .pure (liesForm nofun ⟨liesSpan h,liesSingle h⟩)

theorem typeTail (reads : Reads S r) {bounded : Bool} {t : Concrete} (h : Lies S t) :
    Keeps S (typeTail r bounded t) := by
  refine peek.bind fun _ _ => ?_
  split
  · refine map (fun _ => liesSome.mpr) (wrapType nofun h (take.bind fun _ _ => ?_))
    exact single (typeHead reads)
  · refine map (fun _ => liesSome.mpr) (wrapType nofun h (take.bind fun _ _ => ?_))
    exact single anyName
  · refine .ite (map (fun _ => liesSome.mpr) (wrapType nofun h (take.bind fun _ _ => ?_))) (.pure liesNone)
    exact single (reads _)
  · exact .pure liesNone

theorem typeForm (reads : Reads S r) {bounded : Bool} : Keeps S (typeForm r bounded) :=
  (typeHead reads).bind fun _ h => grow (fun _ => typeTail reads) h

theorem signed (reads : Reads S r) : Keeps S (signed r) := by
  have sign {k : Kind} (other : k ≠ .identifier) : Keeps S (Parser.node k do
      let _ ← Parser.take
      return [← r (.operand Strength.power)]) :=
    node other (take.bind fun _ _ => single (reads _))
  refine peek.bind fun _ _ => ?_
  split
  · exact sign nofun
  · exact sign nofun
  · exact sign nofun
  · exact peekSecond.bind fun _ _ => .ite (sign nofun) (atom reads)
  · exact atom reads

theorem operand (reads : Reads S r) {strength : Nat} : Keeps S (operand r strength) := by
  refine (signed reads).bind fun _ h => grow (fun _ hl => peek.bind fun _ _ => ?_) h
  split
  · split
    · refine .ite (.pure liesNone) (map (fun _ => liesSome.mpr) (extend nofun (liesWithRole hl) ?_))
      refine take.bind fun _ _ => (reads _).bind fun _ hr => ?_
      exact .pure (liesSingle (liesWithRole hr))
    · exact .pure liesNone
  · exact .pure liesNone

theorem comparisonOperator : Keeps S comparisonOperator? := by
  have make {start : Position} (hs : S start) (text : String) : Keeps S (do
      return some (Concrete.token text ⟨start,(← MonadState.get).last⟩) : Parser (Option Concrete)) :=
    get.bind fun _ h => .pure (liesSome.mpr (liesToken.mpr ⟨hs,h.2⟩))
  refine here.bind fun _ hs => peek.bind fun _ _ => ?_
  split
  · exact .ite (take.bind fun _ _ => make hs _) (.pure liesNone)
  · exact take.bind fun _ _ => make hs _
  · exact take.bind fun _ _ => accept.bind fun _ _ => .ite (make hs _) (make hs _)
  · refine peekSecond.bind fun _ _ => .ite ?_ (.pure liesNone)
    exact take.bind fun _ _ => take.bind fun _ _ => make hs _
  · exact .pure liesNone

theorem comparison (reads : Reads S r) : Keeps S (comparison r) := by
  refine (reads _).bind fun left hl => .bind (α := List (List Concrete)) (.many ?_) fun _ hr => ?_
  · refine comparisonOperator.bind fun o ho => ?_
    split
    · exact (reads _).bind fun _ h =>
        .pure (liesSome.mpr (liesCons.mpr ⟨liesSome.mp ho,liesSingle h⟩))
    · exact .pure liesNone
  · refine .ite (.pure hl) (get.bind fun _ hs => .pure (liesForm nofun ⟨⟨(liesSpan hl).1,hs.2⟩,?_⟩))
    exact liesCons.mpr ⟨hl,liesFlatten hr⟩

theorem lambda (reads : Reads S r) {body : Parser Concrete} (hb : Keeps S body) :
    Keeps S (lambda r body) := by
  refine node nofun (keyword.bind fun _ _ => (lambdaParameters reads).bind fun _ hp => ?_)
  refine symbol.bind fun _ _ => hb.bind fun _ h => .pure ?_
  exact liesAppend.mpr ⟨hp,liesSingle (liesWithRole h)⟩

theorem namedExpression (reads : Reads S r) : Keeps S (namedExpression r) := by
  refine node nofun (name.bind fun _ hn => symbol.bind fun _ _ => (reads _).bind fun _ hv => .pure ?_)
  exact liesCons.mpr ⟨liesWithRole hn,liesSingle (liesWithRole hv)⟩

theorem expressionHead (reads : Reads S r) : Keeps S (expressionHead r) := by
  refine peek.bind fun _ _ => peekSecond.bind fun _ _ => ?_
  split
  · exact lambda reads (reads _)
  · exact node nofun (take.bind fun _ _ => single (reads _))
  · exact .ite (comparison reads) (namedExpression reads)
  · exact comparison reads

theorem weaken (reads : Reads S r) {strength : Nat} {left : Concrete} (h : Lies S left) :
    Keeps S (weaken r strength left) := by
  have joined (p : Nat) : Keeps S (do
      if p < strength then return none
      else some <$> Parser.extend .booleanOperator (left.withRole .left) do
        let _ ← Parser.take
        return [(← r (.expression (p + 1))).withRole .right] : Parser (Option Concrete)) := by
    refine .ite (.pure liesNone) (map (fun _ => liesSome.mpr) (extend nofun (liesWithRole h) ?_))
    exact take.bind fun _ _ => (reads _).bind fun _ hr => .pure (liesSingle (liesWithRole hr))
  refine peek.bind fun _ _ => ?_
  split
  · exact joined _
  · exact joined _
  · refine .ite (.pure liesNone) (map (fun _ => liesSome.mpr) (extend nofun h (take.bind fun _ _ => ?_)))
    refine (node (by nofun) ?_).bind fun _ ht => .pure (liesSingle (liesWithRole ht))
    exact single (reads _)
  · refine .ite (.pure liesNone) (map (fun _ => liesSome.mpr) (extend nofun h (take.bind fun _ _ => ?_)))
    refine (reads _).bind fun _ hc => keyword.bind fun _ _ => (reads _).bind fun _ he => ?_
    exact .pure (liesCons.mpr ⟨hc,liesSingle he⟩)
  · exact .pure liesNone

theorem expression (reads : Reads S r) {strength : Nat} : Keeps S (expression r strength) :=
  (expressionHead reads).bind fun _ h => grow (fun _ => weaken reads) h

theorem clauseExpression (reads : Reads S r) : Keeps S (clauseExpression r) :=
  isNext.bind fun _ _ => .ite (lambda reads (reads _)) (reads _)

theorem dottedName : Keeps S dottedName := by
  refine node nofun (anyName.bind fun _ h => .bind (.many ?_) fun _ hs => .pure (liesCons.mpr ⟨h,hs⟩))
  refine accept.bind fun _ _ => .ite ?_ (.pure liesNone)
  exact present anyName

theorem patternsUpTo (reads : Reads S r) {closing : String} : Keeps S (patternsUpTo r closing) :=
  accept.bind fun _ _ => .ite (.pure liesNil)
    ((commaList (reads _)).bind fun _ hx => symbol.bind fun _ _ => .pure hx.1)

theorem number : Keeps S number := by
  refine peek.bind fun _ _ => ?_
  split
  · exact leaf nofun
  · exact leaf nofun
  · exact fail

theorem numberPattern : Keeps S numberPattern := by
  refine here.bind fun _ start => accept.bind fun _ _ => number.bind fun _ first => ?_
  refine peek.bind fun _ _ => ?_
  split
  · refine .ite (take.bind fun _ _ => number.bind fun _ second => ?_) (.pure (liesSingle first))
    refine get.bind fun _ hs => .pure (liesSingle (liesForm nofun ⟨⟨start,hs.2⟩,?_⟩))
    exact liesCons.mpr ⟨first,liesSingle second⟩
  · exact .pure (liesSingle first)

theorem splatPattern {star : String} : Keeps S (splatPattern star) :=
  node nofun (symbol.bind fun _ _ => accept.bind fun _ _ => .ite (.pure liesNil)
    (single anyName))

theorem simplePattern (reads : Reads S r) : Keeps S (simplePattern r) := by
  refine peek.bind fun _ _ => ?_
  split
  · exact single splatPattern
  · exact single splatPattern
  · exact single (node nofun (take.bind fun _ _ => patternsUpTo reads))
  · exact single (node nofun (take.bind fun _ _ => patternsUpTo reads))
  · exact numberPattern
  · exact numberPattern
  · exact numberPattern
  · exact single (strings reads)
  · exact single (leaf nofun)
  · exact single (leaf nofun)
  · exact single (leaf nofun)
  · refine .ite fail (peekSecond.bind fun _ _ => peekSecond.bind fun _ _ => .ite ?_ ?_)
    · exact take.bind fun _ _ => .pure liesNil
    · refine dottedName.bind fun _ h => isNext.bind fun _ _ => .ite ?_ (.pure (liesSingle h))
      exact single (extend nofun h (take.bind fun _ _ => patternsUpTo reads))
  · exact fail

theorem unionOf {start : Position} {first : List Concrete} {one : Parser (List Concrete)}
    (hs : S start) (hf : Lies S first) (ho : Keeps S one) : Keeps S (unionOf start first one) := by
  refine .bind (α := List (List Concrete)) (.many ?_) fun _ rest => .ite (.pure hf) ?_
  · exact accept.bind fun _ _ => .ite (ho.bind fun _ h => .pure (liesSome.mpr h)) (.pure liesNone)
  · refine get.bind fun _ h => .pure (liesSingle (liesForm nofun ⟨⟨hs,h.2⟩,?_⟩))
    exact liesAppend.mpr ⟨hf,liesFlatten rest⟩

theorem mappingPattern (reads : Reads S r) {one : Parser (List Concrete)} (ho : Keeps S one) :
    Keeps S (mappingPattern r one) := by
  refine node nofun (symbol.bind fun _ _ => accept.bind fun _ _ => .ite (.pure liesNil) ?_)
  refine (commaList (α := List Concrete) ?_).bind fun x hx =>
    symbol.bind fun _ _ => .pure (liesFlatten hx.1)
  refine peek.bind fun _ _ => ?_
  split
  · exact single splatPattern
  · exact single splatPattern
  · refine here.bind fun _ hs => ho.bind fun _ hf => (unionOf hs hf ho).bind fun _ hk => ?_
    refine symbol.bind fun _ _ => (reads _).bind fun _ hv => .pure ?_
    exact liesAppend.mpr ⟨liesMap (fun _ => liesWithRole) hk,liesSingle (liesWithRole hv)⟩

theorem alternativeBounded (reads : Reads S r) (n : Nat) : Keeps S (alternativeBounded r n) := by
  induction n with
  | zero => exact fail
  | succ n ih => exact isNext.bind fun _ _ => .ite (single (mappingPattern reads ih)) (simplePattern reads)

theorem alternative (reads : Reads S r) : Keeps S (alternative r) :=
  get.bind fun _ _ => alternativeBounded reads _

theorem keywordPattern (reads : Reads S r) : Keeps S (keywordPattern r) := by
  refine node nofun (anyName.bind fun _ hn => symbol.bind fun _ _ => here.bind fun _ hs => ?_)
  refine (alternative reads).bind fun _ hf => (unionOf hs hf (alternative reads)).bind fun _ hv => ?_
  exact .pure (liesCons.mpr ⟨hn,hv⟩)

theorem casePattern (reads : Reads S r) : Keeps S (casePattern r) := by
  refine here.bind fun _ start => (node (by nofun) ?_).bind fun _ h => grow (fun _ hp => ?_) h
  · refine peek.bind fun _ _ => peekSecond.bind fun _ _ => ?_
    split
    · exact single (keywordPattern reads)
    · exact (alternative reads).bind fun _ hf => unionOf start hf (alternative reads)
  · refine accept.bind fun _ _ => .ite ?_ (.pure liesNone)
    refine anyName.bind fun _ hn => get.bind fun _ hs => .pure (liesSome.mpr ?_)
    have own : S _ ∧ S _ := ⟨start,hs.2⟩
    exact liesForm nofun ⟨own,liesSingle (liesForm nofun ⟨own,liesCons.mpr ⟨hp,liesSingle hn⟩⟩)⟩

end Keeps

end ConventionLint.Grammar
