import ConventionLint.Grammar.Compound
import ConventionLint.Proofs.Grammar.Expressions

/-! Statements lie where their tokens lie. -/
namespace ConventionLint.Grammar

namespace Keeps
open ConventionLint.Grammar.Parser
variable {S : Sites} {r : Reader}

theorem targetOf {items : List Concrete} {comma : Bool} {span : Span} (hi : Lies S items)
    (hs : span.Within S) : Keeps S (targetOf items comma span) := by
  unfold Grammar.targetOf
  split
  · exact fail
  · have all := liesPatterns items _ ‹_› hi
    exact .ite (.pure (liesForm nofun ⟨hs,all⟩)) (.pure (liesWithRole (liesCons.mp all).1))
  · exact .pure (liesForm nofun ⟨hs,liesPatterns items _ ‹_› hi⟩)

theorem assignmentAfter (reads : Reads S r) (n : Nat) {start : Position} {items : List Concrete}
    {comma : Bool} (hs : S start) (hi : Lies S items) :
    Keeps S (assignmentAfter r n start items comma) := by
  induction n generalizing start items comma with
  | zero => exact .pure liesNone
  | succ n ih =>
    refine get.bind fun s h => ?_
    have own : Span.Within S ⟨start,s.last⟩ := ⟨hs,h.2⟩
    extract_lets span value
    have keepsValue : Keeps S value := by
      refine isNext.bind fun _ _ => .ite ?_ ?_
      · exact (yieldExpression reads).bind fun _ hy => .pure (liesWithRole hy)
      refine here.bind fun _ hf => (commaList (reads _)).bind fun x hx => ?_
      refine (ih hf hx.1).bind fun o ho => ?_
      obtain ⟨es,c⟩ := x
      dsimp only
      split
      · exact .pure (liesWithRole (liesSome.mp ho))
      · split
        · exact .pure (liesWithRole (liesCons.mp hx.1).1)
        · exact get.bind fun _ ht => .pure (liesForm nofun ⟨⟨hf,ht.2⟩,hx.1⟩)
    have assigned {k : Kind} {cs : List Concrete} (other : k ≠ .identifier) (below : Lies S cs) : Keeps S (do
        return some (Concrete.node k none ⟨start,(← MonadState.get).last⟩ cs) :
        Parser (Option Concrete)) :=
      get.bind fun _ ht => .pure (liesSome.mpr (liesForm other ⟨⟨hs,ht.2⟩,below⟩))
    refine peek.bind fun _ _ => ?_
    split
    · refine (targetOf hi own).bind fun _ ht => take.bind fun _ _ => keepsValue.bind fun _ hv => ?_
      exact assigned nofun (liesCons.mpr ⟨ht,liesSingle hv⟩)
    · refine (targetOf hi own).bind fun _ ht => take.bind fun _ _ => (reads _).bind fun _ hy => ?_
      refine accept.bind fun _ _ => .ite (keepsValue.bind fun _ hv => ?_) ?_
      · exact assigned nofun (liesCons.mpr ⟨ht,liesCons.mpr ⟨hy,liesSingle hv⟩⟩)
      · exact assigned nofun (liesCons.mpr ⟨ht,liesSingle hy⟩)
    · refine .ite ((targetOf hi own).bind fun _ ht => take.bind fun _ _ => ?_) (.pure liesNone)
      exact keepsValue.bind fun _ hv => assigned nofun (liesCons.mpr ⟨ht,liesSingle hv⟩)
    · exact .pure liesNone

theorem expressionStatement (reads : Reads S r) : Keeps S (expressionStatement r) := by
  refine node nofun (isNext.bind fun _ _ => .ite (single (yieldExpression reads)) ?_)
  refine here.bind fun _ hs => (commaList (reads _)).bind fun x hx => get.bind fun _ _ => ?_
  refine (assignmentAfter reads _ hs hx.1).bind fun o ho => ?_
  split
  · exact .pure (liesSingle (liesSome.mp ho))
  · exact .pure hx.1

theorem wholeExpressionStatement (reads : Reads S r) : Keeps S (wholeExpressionStatement r) :=
  (expressionStatement reads).bind fun _ h => peek.bind fun _ _ => .ite (.pure h) fail

theorem importedName : Keeps S importedName := by
  refine dottedName.bind fun _ h => isNext.bind fun _ _ => .ite ?_ (.pure h)
  refine extend nofun (liesWithRole h) (take.bind fun _ _ => anyName.bind fun _ ha => ?_)
  exact .pure (liesSingle (liesWithRole ha))

theorem importList {stops : Option Lexeme → Bool} : Keeps S (importList stops) :=
  (commaList importedName).bind fun _ hx => .pure (liesMap (fun _ => liesWithRole) hx.1)

theorem importStatement : Keeps S importStatement := node nofun (keyword.bind fun _ _ => importList)

theorem importDots : Keeps S importDots := by
  refine node nofun (.bind (α := List Unit) (.many ?_) fun _ _ => .pure liesNil)
  refine accept.bind fun _ _ => .ite (.pure (liesSome.mpr trivial)) ?_
  exact accept.bind fun _ _ => .ite (.pure (liesSome.mpr trivial)) (.pure liesNone)

theorem moduleName : Keeps S moduleName := by
  refine peek.bind fun _ _ => ?_
  split
  · exact dottedName
  · refine .ite (node nofun (importDots.bind fun _ hd => peek.bind fun _ _ => ?_)) fail
    split
    · refine .ite (.pure (liesSingle hd)) (dottedName.bind fun _ hn => ?_)
      exact .pure (liesCons.mpr ⟨hd,liesSingle hn⟩)
    · exact .pure (liesSingle hd)
  · exact fail

theorem importedNames : Keeps S importedNames := by
  refine keyword.bind fun _ _ => peek.bind fun _ _ => ?_
  split
  · exact single (leaf nofun)
  · exact take.bind fun _ _ => importList.bind fun _ h => symbol.bind fun _ _ => .pure h
  · exact importList

theorem importFromStatement : Keeps S importFromStatement := by
  refine here.bind fun _ start => keyword.bind fun _ _ => peek.bind fun _ _ => ?_
  refine peekSecond.bind fun _ _ => ?_
  split
  · refine take.bind fun _ _ => importedNames.bind fun _ h => get.bind fun _ hs => ?_
    exact .pure (liesForm nofun ⟨⟨start,hs.2⟩,h⟩)
  · refine moduleName.bind fun _ hm => importedNames.bind fun _ h => get.bind fun _ hs => ?_
    exact .pure (liesForm nofun ⟨⟨start,hs.2⟩,liesCons.mpr ⟨liesWithRole hm,h⟩⟩)

theorem printStatement (reads : Reads S r) : Keeps S (printStatement r) := by
  refine node nofun (keyword.bind fun _ _ => isNext.bind fun _ _ => .ite ?_ ?_)
  · refine (node (by nofun) (take.bind fun _ _ => single (reads _))).bind fun _ h => ?_
    refine .bind (α := List (Option Concrete)) (.many ?_) fun _ hs => ?_
    · refine accept.bind fun _ _ => .ite (peek.bind fun _ _ => .ite ?_ ?_) (.pure liesNone)
      · exact .pure (liesSome.mpr liesNone)
      · exact (reads _).bind fun _ h => .pure (liesSome.mpr (liesSome.mpr h))
    · exact .pure (liesCons.mpr ⟨h,liesPresent hs⟩)
  · exact (commaList (reads _)).bind fun _ hx => .pure hx.1

theorem execStatement (reads : Reads S r) : Keeps S (execStatement r) := by
  refine node nofun (keyword.bind fun _ _ => isNext.bind fun _ _ => branch ?_ (stringLiteral reads) name)
  refine fun _ hc => accept.bind fun _ _ => .ite ?_ (.pure (liesSingle hc))
  exact (commaSeparated (reads _)).bind fun _ hs => .pure (liesCons.mpr ⟨hc,hs⟩)

theorem typeAliasStatement (reads : Reads S r) : Keeps S (typeAliasStatement r) := by
  refine (node (by nofun) ?_).bind fun _ h => peek.bind fun _ _ => .ite (.pure h) fail
  refine keyword.bind fun _ _ => (reads _).bind fun _ hl => symbol.bind fun _ _ => ?_
  refine (reads _).bind fun _ hr => .pure ?_
  exact liesCons.mpr ⟨liesWithRole hl,liesSingle (liesWithRole hr)⟩

theorem raiseStatement (reads : Reads S r) : Keeps S (raiseStatement r) := by
  refine node nofun (keyword.bind fun _ _ => peek.bind fun _ _ => orEmpty (expressions reads) (fun _ => id) ?_)
  refine fun _ hr => accept.bind fun _ _ => .ite ?_ (.pure hr)
  exact (reads _).bind fun _ h => .pure (liesAppend.mpr ⟨hr,liesSingle h⟩)

theorem simpleStatement (reads : Reads S r) : Keeps S (simpleStatement r) := by
  have names : Keeps S (do
      let _ ← Parser.take
      Parser.commaSeparated Parser.anyName) := take.bind fun _ _ => commaSeparated anyName
  refine peek.bind fun _ _ => ?_
  split
  · exact importStatement
  · exact importFromStatement
  · refine peekSecond.bind fun _ _ => .ite (printStatement reads) ?_
    exact either (wholeExpressionStatement reads) (printStatement reads)
  · exact either (wholeExpressionStatement reads) (execStatement reads)
  · exact either (typeAliasStatement reads) (expressionStatement reads)
  · exact node nofun (take.bind fun _ _ => commaSeparated (reads _))
  · refine node nofun (take.bind fun _ _ => peek.bind fun _ _ => .ite ?_ (.pure liesNil))
    exact single (expressions reads)
  · exact node nofun (take.bind fun _ _ => single (expressions reads))
  · exact raiseStatement reads
  · exact leaf nofun
  · exact leaf nofun
  · exact leaf nofun
  · exact node nofun names
  · exact node nofun names
  · exact expressionStatement reads

theorem statementLine (reads : Reads S r) : Keeps S (statementLine r) := by
  refine (simpleStatement reads).bind fun _ h => .bind (α := List (Option Concrete)) (.many ?_) ?_
  · refine accept.bind fun _ _ => .ite (isNext.bind fun _ _ => .ite ?_ ?_) (.pure liesNone)
    · exact .pure (liesSome.mpr liesNone)
    · exact (simpleStatement reads).bind fun _ h => .pure (liesSome.mpr (liesSome.mpr h))
  · exact fun _ hs => expect.bind fun _ _ => .pure (liesCons.mpr ⟨h,liesPresent hs⟩)

theorem body (reads : Reads S r) : Keeps S (body r) :=
  symbol.bind fun _ _ => (reads _).bind fun _ h => .pure (liesWithRole h)

theorem elseClause (reads : Reads S r) : Keeps S (elseClause r) :=
  isNext.bind fun _ _ => .ite (single (node nofun (take.bind fun _ _ => single (body reads)))) (.pure liesNil)

theorem ifStatement (reads : Reads S r) : Keeps S (ifStatement r) := by
  refine node nofun (keyword.bind fun _ _ => (reads _).bind fun _ hc => (body reads).bind fun _ hb => ?_)
  refine .bind (.many ?_) fun _ ho => (elseClause reads).bind fun _ he => .pure ?_
  · refine whenNext (node nofun ?_)
    refine take.bind fun _ _ => (reads _).bind fun _ hc => (body reads).bind fun _ hb => .pure ?_
    exact liesCons.mpr ⟨hc,liesSingle hb⟩
  · exact liesAppend.mpr ⟨liesCons.mpr ⟨hc,liesCons.mpr ⟨hb,ho⟩⟩,he⟩

theorem whileStatement (reads : Reads S r) : Keeps S (whileStatement r) := by
  refine node nofun (keyword.bind fun _ _ => (reads _).bind fun _ hc => (body reads).bind fun _ hb => ?_)
  exact (elseClause reads).bind fun _ he => .pure (liesCons.mpr ⟨hc,liesCons.mpr ⟨hb,he⟩⟩)

theorem asyncMark : Keeps S asyncMark := by
  refine here.bind fun _ start => accept.bind fun _ _ => .ite ?_ (.pure liesNil)
  exact get.bind fun _ hs => .pure (liesSingle (liesToken.mpr ⟨start,hs.2⟩))

theorem forStatement (reads : Reads S r) : Keeps S (forStatement r) := by
  refine node nofun (asyncMark.bind fun _ hm => keyword.bind fun _ _ => (loopTarget reads).bind fun _ ht => ?_)
  refine keyword.bind fun _ _ => (expressions reads).bind fun _ hi => (body reads).bind fun _ hb => ?_
  refine (elseClause reads).bind fun _ he => .pure (liesAppend.mpr ⟨hm,liesCons.mpr ⟨liesWithRole ht,?_⟩⟩)
  exact liesCons.mpr ⟨liesWithRole hi,liesCons.mpr ⟨hb,he⟩⟩

theorem exceptClause (reads : Reads S r) : Keeps S (exceptClause r) := by
  refine here.bind fun _ start => keyword.bind fun _ _ => get.bind fun _ _ => ?_
  extract_lets grouped finish
  have finished {k : Kind} {cs : List Concrete} (other : k ≠ .identifier) (below : Lies S cs) :
      Keeps S (finish k cs) :=
    (body reads).bind fun _ hh => get.bind fun _ hs =>
      .pure (liesForm other ⟨⟨start,hs.2⟩,liesAppend.mpr ⟨below,liesSingle hh⟩⟩)
  refine .ite (take.bind fun _ _ => (reads _).bind fun _ h => finished nofun (liesSingle h)) ?_
  refine isNext.bind fun _ _ => .ite (finished nofun liesNil) ((reads _).bind fun _ hc => ?_)
  refine accept.bind fun _ _ => .ite ((reads _).bind fun _ hn => ?_) ?_
  · exact finished nofun (liesCons.mpr ⟨liesWithRole hc,liesSingle (liesWithRole hn)⟩)
  · exact finished nofun (liesSingle (liesWithRole hc))

theorem finallyClause (reads : Reads S r) : Keeps S (finallyClause r) :=
  isNext.bind fun _ _ => .ite (single (node nofun (take.bind fun _ _ => single (body reads)))) (.pure liesNil)

theorem tryStatement (reads : Reads S r) : Keeps S (tryStatement r) := by
  refine node nofun (keyword.bind fun _ _ => (body reads).bind fun _ hb => .bind (.many ?_) fun _ hh => .ite ?_ ?_)
  · exact whenNext (exceptClause reads)
  · refine (finallyClause reads).bind fun _ hf => ?_
    split
    · exact fail
    · exact .pure (liesCons.mpr ⟨hb,hf⟩)
  · refine (elseClause reads).bind fun _ he => (finallyClause reads).bind fun _ hf => .pure ?_
    exact liesAppend.mpr ⟨liesAppend.mpr ⟨liesCons.mpr ⟨hb,hh⟩,he⟩,hf⟩

theorem withItem (reads : Reads S r) : Keeps S (withItem r) :=
  node nofun ((reads _).bind fun _ h => .pure (liesSingle (liesWithRole h)))

theorem enclosedItems (reads : Reads S r) : Keeps S (enclosedItems r) := by
  refine (node (by nofun) ?_).bind fun _ h => isNext.bind fun _ _ => .ite (.pure h) fail
  refine symbol.bind fun _ _ => (commaList (withItem reads)).bind fun _ hx => ?_
  exact symbol.bind fun _ _ => .ite fail (.pure hx.1)

theorem openItems (reads : Reads S r) : Keeps S (openItems r) :=
  node nofun ((commaList (withItem reads)).bind fun _ hx => .pure hx.1)

theorem withStatement (reads : Reads S r) : Keeps S (withStatement r) := by
  refine node nofun (asyncMark.bind fun _ hm => keyword.bind fun _ _ => isNext.bind fun _ _ => ?_)
  refine branch ?_ (either (enclosedItems reads) (openItems reads)) (openItems reads)
  refine fun _ hc => (body reads).bind fun _ hb => .pure ?_
  exact liesAppend.mpr ⟨hm,liesCons.mpr ⟨hc,liesSingle hb⟩⟩

theorem typeParametersIfAny (reads : Reads S r) : Keeps S (typeParametersIfAny r) :=
  isNext.bind fun _ _ => .ite (single (typeParameters reads)) (.pure liesNil)

theorem functionDefinition (reads : Reads S r) : Keeps S (functionDefinition r) := by
  refine node nofun (asyncMark.bind fun _ hm => keyword.bind fun _ _ => anyName.bind fun _ hn => ?_)
  refine (typeParametersIfAny reads).bind fun _ hg => (functionParameters reads).bind fun _ hp => ?_
  refine accept.bind fun _ _ => orEmpty (reads _) (fun _ => id) fun _ hr => ?_
  refine (body reads).bind fun _ hb => ?_
  refine .pure (liesAppend.mpr ⟨liesAppend.mpr ⟨liesAppend.mpr ⟨hm,?_⟩,?_⟩,liesSingle hb⟩)
  · exact liesCons.mpr ⟨liesWithRole hn,hg⟩
  · exact liesCons.mpr ⟨liesWithRole hp,hr⟩

theorem classDefinition (reads : Reads S r) : Keeps S (classDefinition r) := by
  refine node nofun (keyword.bind fun _ _ => anyName.bind fun _ hn => ?_)
  refine (typeParametersIfAny reads).bind fun _ hg => isNext.bind fun _ _ => ?_
  refine orEmpty (arguments reads) (fun _ => liesWithRole) fun _ ha => (body reads).bind fun _ hb => ?_
  refine .pure (liesAppend.mpr ⟨liesAppend.mpr ⟨?_,ha⟩,liesSingle hb⟩)
  exact liesCons.mpr ⟨liesWithRole hn,hg⟩

theorem definition (reads : Reads S r) : Keeps S (definition r) :=
  isNext.bind fun _ _ => .ite (classDefinition reads) (functionDefinition reads)

theorem decoratedDefinition (reads : Reads S r) : Keeps S (decoratedDefinition r) := by
  refine node nofun (.bind (.many ?_) fun _ hd => (definition reads).bind fun _ h => .pure ?_)
  · refine whenNext (node nofun ?_)
    exact take.bind fun _ _ => (reads _).bind fun _ h => expect.bind fun _ _ => .pure (liesSingle h)
  · exact liesAppend.mpr ⟨hd,liesSingle (liesWithRole h)⟩

theorem caseClause (reads : Reads S r) : Keeps S (caseClause r) := by
  refine node nofun (keyword.bind fun _ _ => (commaList (reads _)).bind fun x hx => isNext.bind fun _ _ => ?_)
  refine orEmpty (node nofun (take.bind fun _ _ => single (reads _))) (fun _ => id) fun _ hg => ?_
  refine (body reads).bind fun _ hb => .pure ?_
  exact liesAppend.mpr ⟨liesAppend.mpr ⟨hx.1,hg⟩,liesSingle hb⟩

theorem matchBlock (reads : Reads S r) : Keeps S (matchBlock r) := by
  refine accept.bind fun _ _ => .ite (node nofun ?_) (node nofun (expect.bind fun _ _ => .pure liesNil))
  refine .bind (.many ?_) fun _ h => expect.bind fun _ _ => .pure h
  exact whenNext (caseClause reads)

theorem matchStatement (reads : Reads S r) : Keeps S (matchStatement r) := by
  refine node nofun (keyword.bind fun _ _ => (commaList (reads _)).bind fun x hx => symbol.bind fun _ _ => ?_)
  refine (matchBlock reads).bind fun _ h => .pure ?_
  exact liesAppend.mpr ⟨hx.1,liesSingle (liesWithRole h)⟩

theorem statements (reads : Reads S r) : Keeps S (statements r) := by
  refine peek.bind fun _ _ => peekSecond.bind fun _ _ => ?_
  split
  · exact single (ifStatement reads)
  · exact single (forStatement reads)
  · exact single (whileStatement reads)
  · exact single (tryStatement reads)
  · exact single (withStatement reads)
  · exact single (functionDefinition reads)
  · exact single (classDefinition reads)
  · exact single (decoratedDefinition reads)
  · exact single (functionDefinition reads)
  · exact single (forStatement reads)
  · exact single (withStatement reads)
  · exact either (single (matchStatement reads)) (statementLine reads)
  · exact statementLine reads

theorem suite (reads : Reads S r) : Keeps S (suite r) := by
  refine peek.bind fun _ _ => ?_
  split
  · refine take.bind fun _ _ => node nofun (.bind (α := List (List Concrete)) (.many ?_) fun _ h => ?_)
    · refine isNext.bind fun _ _ => .ite (.pure liesNone) ?_
      exact present (statements reads)
    · exact expect.bind fun _ _ => .pure (liesFlatten h)
  · exact node nofun (take.bind fun _ _ => .pure liesNil)
  · exact node nofun (statementLine reads)

end Keeps

end ConventionLint.Grammar
