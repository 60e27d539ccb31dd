import ConventionLint.Grammar.Program
import ConventionLint.Proofs.Grammar.RegularExpressions

/-! Statements and whole programs have the parts that their kinds have. -/
namespace ConventionLint.Grammar
open Concrete

def GivesRegular (p : Parser Concrete) : Prop := Always p Regular

def GivesRegulars (p : Parser (List Concrete)) : Prop := Always p fun cs => ∀ c ∈ cs, c.Regular

namespace GivesRegular
open ConventionLint.Grammar.Parser
open Always (after)
open Each (one cons append)
open GivesPart (word)
variable {r : Reader}

theorem part {p : Parser Concrete} (hp : GivesPart p) : GivesRegular p := hp.imp fun _ h => h.regular

theorem made {k : Kind} {p : Parser Concrete} (hp : Always p (Made k)) : GivesRegular p :=
  hp.imp fun _ h => h.regular

theorem parts {p : Parser (List Concrete)} (hp : GivesParts p) : GivesRegulars p :=
  hp.imp fun _ h c mem => (h c mem).regular

theorem node {k : Kind} {p : Parser (List Concrete)} (free : ∀ cs, Fits cs k) (hp : GivesRegulars p) :
    GivesRegular (node k p) :=
  made (.made (hp.imp fun cs h => ⟨free cs,h⟩))

theorem targetOf {items : List Concrete} {comma : Bool} {span : Span} (parts : ∀ c ∈ items, c.Part) :
    Always (targetOf items comma span) fun t => ∃ d : Concrete, t = d.withRole .left ∧ d.Part := by
  unfold Grammar.targetOf
  split
  · exact .fail
  · have all := GivesPart.partPatterns items _ ‹_› parts
    refine .ite (.pure ⟨.node .patternList none span _,rfl,.node rfl all⟩) (.pure ⟨_,rfl,?_⟩)
    exact all _ List.mem_cons_self
  · exact .pure ⟨.node .patternList none span _,rfl,.node rfl (GivesPart.partPatterns items _ ‹_› parts)⟩

structure Value (c : Concrete) : Prop where
  operand : c.isOperand
  regular : c.Regular

theorem Value.withRole {c : Concrete} (h : Value c) (role : Role) : Value (c.withRole role) :=
  ⟨operandWithRole h.operand role,h.regular.withRole role⟩

theorem valueOfPart {c : Concrete} (part : c.Part) : Value c := ⟨part.operand,part.regular⟩

theorem assignmentAfter (reads : ReadsRegular r) (n : Nat) {start : Position} {items : List Concrete}
    {comma : Bool} (parts : ∀ c ∈ items, c.Part) :
    Always (assignmentAfter r n start items comma) fun o => ∀ c, o = some c → Value c := by
  induction n generalizing start items comma with
  | zero => exact .nothing
  | succ n ih =>
    refine after fun s => ?_
    extract_lets span value
    have valued : Always value fun t => ∃ d : Concrete, t = d.withRole .right ∧ Value d := by
      refine after fun _ => .ite ?_ ?_
      · exact (GivesPart.yieldExpression reads).bind fun y part => .pure ⟨y,rfl,valueOfPart part⟩
      refine after fun _ => (Always.commaList (reads.expression _)).bind fun x below => ?_
      refine (ih below).bind fun o further => ?_
      obtain ⟨es,c⟩ := x
      dsimp only
      split
      · exact .pure ⟨_,rfl,further _ rfl⟩
      · split
        · exact .pure ⟨_,rfl,valueOfPart (below _ List.mem_cons_self)⟩
        · exact after fun t => .pure ⟨.node .expressionList none ⟨_,t.last⟩ es,rfl,valueOfPart (.node rfl below)⟩
    have assigned {d : Concrete} {cs : List Concrete} (target : d.Part) (fits : Assigned cs)
        (below : ∀ c ∈ cs, c.Regular) : Always (do
          return some (Concrete.node .assignment none ⟨start,(← MonadState.get).last⟩
            (d.withRole .left :: cs)) : Parser (Option Concrete)) fun o => ∀ c, o = some c → Value c := by
      refine after fun _ => .pure ?_
      rintro _ ⟨⟩
      exact ⟨rfl,.node ⟨d,cs,rfl,target.operand,fits⟩ (cons (target.withRole _).regular below)⟩
    refine after fun _ => ?_
    split
    · refine (targetOf parts).bind fun _ ⟨d,same,target⟩ => after fun _ => valued.bind fun _ ⟨v,same',part⟩ => ?_
      subst same same'
      exact assigned target (.valued [] (List.forall_mem_nil _) part.operand) (one (part.withRole _).regular)
    · refine (targetOf parts).bind fun _ ⟨d,same,target⟩ => after fun _ => ?_
      subst same
      refine (reads.typeForm _).bind fun t type => after fun _ => .ite ?_ ?_
      · refine valued.bind fun _ ⟨v,same',part⟩ => ?_
        subst same'
        exact assigned target (.valued [t] (one type.fresh) part.operand)
          (cons type.regular (one (part.withRole _).regular))
      · exact assigned target (.declared type.fresh) (one type.regular)
    · refine .ite ?_ .nothing
      refine (targetOf parts).bind fun _ ⟨d,same,target⟩ => after fun _ => valued.bind fun _ ⟨v,same',part⟩ => ?_
      subst same same'
      refine after fun _ => .pure ?_
      rintro _ ⟨⟩
      refine ⟨rfl,.node trivial (cons (target.withRole _).regular (one ?_))⟩
      exact (part.withRole _).regular
    · exact .nothing

theorem expressionStatement (reads : ReadsRegular r) : GivesRegular (expressionStatement r) := by
  have whole {p : Parser (List Concrete)} (hp : Always p fun cs => ∀ c ∈ cs, Value c) :
      GivesRegular (Parser.node .expressionStatement p) :=
    made (.made (hp.imp fun _ h => ⟨fun c mem => (h c mem).operand,fun c mem => (h c mem).regular⟩))
  refine whole (after fun _ => .ite ?_ (after fun _ => ?_))
  · exact (Always.single (GivesPart.yieldExpression reads)).imp fun _ h c mem => valueOfPart (h c mem)
  refine (Always.commaList (reads.expression _)).bind fun x items => after fun _ => ?_
  refine (assignmentAfter reads _ items).bind fun o found => ?_
  split
  · exact .pure (one (found _ rfl))
  · exact .pure fun c mem => valueOfPart (items c mem)

theorem wholeExpressionStatement (reads : ReadsRegular r) : GivesRegular (wholeExpressionStatement r) :=
  (expressionStatement reads).bind fun _ regular => after fun _ => .ite (.pure regular) .fail

def Plain (c : Concrete) : Prop := c.Regular ∧ c.Silent

theorem plain {k : Kind} {c : Concrete} (h : Bare k c) : Plain c := ⟨h.regular,h.silent⟩

theorem plainRole {c : Concrete} (h : Plain c) (role : Role) : Plain (c.withRole role) :=
  ⟨h.1.withRole role,h.2.withRole role⟩

theorem plainNode {k : Kind} {s : Span} {cs : List Concrete} (free : Fits cs k) (other : k ≠ .call)
    (all : ∀ c ∈ cs, Plain c) : Plain (.node k none s cs) :=
  ⟨.node free fun c mem => (all c mem).1,.node other fun c mem => (all c mem).2⟩

theorem importedName : Always importedName Plain := by
  refine GivesPart.dottedName.bind fun _ name => after fun _ => .ite ?_ (.pure (plain name))
  refine .bind (P := fun cs => ∀ c ∈ cs, Plain c) (after fun _ => ?_) fun _ more => after fun _ => .pure ?_
  · exact GivesPart.anyName.bind fun _ new => .pure (one (plainRole (plain new) _))
  · exact plainNode trivial nofun (cons (plainRole (plain name) _) more)

theorem importList {stops : Option Lexeme → Bool} : Always (importList stops) fun cs => ∀ c ∈ cs, Plain c := by
  refine (Always.commaList importedName).bind fun x names => .pure fun c mem => ?_
  obtain ⟨d,inside,rfl⟩ := List.mem_map.mp mem
  exact plainRole (names d inside) _

theorem importStatement : GivesRegular importStatement := by
  refine made (k := .importStatement) (.made (after fun _ => importList.imp fun _ names => ?_))
  exact ⟨fun c mem => (names c mem).2,fun c mem => (names c mem).1⟩

theorem importDots : Always importDots (Bare .importPrefix) :=
  after fun _ => .bind (P := fun cs => cs = []) (after fun _ => .pure rfl) fun _ none => after fun _ =>
    .pure (none ▸ ⟨⟨.node rfl trivial (List.forall_mem_nil _),⟨rfl,rfl⟩⟩,.node (by decide) (List.forall_mem_nil _)⟩)

theorem moduleName : Always moduleName Plain := by
  refine after fun _ => ?_
  split
  · exact GivesPart.dottedName.imp fun _ => plain
  · refine .ite (after fun _ => .bind (P := fun cs => ∀ c ∈ cs, Plain c) ?_ fun _ all => after fun _ => ?_) .fail
    · refine importDots.bind fun _ dots => after fun _ => ?_
      have alone := one (plain dots)
      split
      · refine .ite (.pure alone) (GivesPart.dottedName.bind fun _ name => .pure ?_)
        exact cons (plain dots) (one (plain name))
      · exact .pure alone
    · exact .pure (plainNode trivial nofun all)
  · exact .fail

theorem importedNames : Always importedNames fun cs => ∀ c ∈ cs, Plain c := by
  refine after fun _ => after fun _ => ?_
  split
  · exact .single ((Always.leaf (k := .wildcardImport) trivial nofun rfl).imp fun _ => plain)
  · exact after fun _ => importList.bind fun _ names => after fun _ => .pure names
  · exact importList

theorem importFromStatement : GivesRegular importFromStatement := by
  refine after fun _ => after fun _ => after fun _ => after fun _ => ?_
  split
  · refine after fun _ => importedNames.bind fun _ names => after fun _ => .pure ?_
    exact .node (fun c mem => (names c mem).2) fun c mem => (names c mem).1
  · refine moduleName.bind fun _ source => importedNames.bind fun _ names => after fun _ => .pure ?_
    have all := cons (plainRole source .moduleName) names
    exact .node (fun c mem => (all c mem).2) fun c mem => (all c mem).1

theorem printStatement (reads : ReadsRegular r) : GivesRegular (printStatement r) := by
  refine node (fun _ => trivial) (after fun _ => after fun _ => .ite ?_ ?_)
  · refine (node (k := .chevron) (fun _ => trivial) (after fun _ => parts (.single (reads.expression _)))).bind
      fun _ stream => ?_
    refine .bind (.many (Q := fun o => ∀ c, o = some c → c.Regular) ?_) fun _ rest => ?_
    · exact after fun _ => .ite (after fun _ => .ite .ended (.another (part (reads.expression _)))) .nothing
    · exact .pure (cons stream (Always.presentAll rest))
  · exact (Always.commaList (reads.expression _)).bind fun _ items => .pure fun c mem => (items c mem).regular

theorem execStatement (reads : ReadsRegular r) : GivesRegular (execStatement r) := by
  have ranged (code : Concrete) (regular : code.Regular) : GivesRegulars (do
      if ← accept (.word "in") then
        let scope ← Parser.commaSeparated r.full
        return code :: scope
      else return [code]) := by
    refine after fun _ => .ite ?_ (.pure (one regular))
    refine (Always.commaSeparated (reads.expression _)).bind fun _ scope => .pure (cons regular fun c mem => ?_)
    exact (scope c mem).regular
  refine node (fun _ => trivial) (after fun _ => after fun _ => .ite ?_ ?_)
  · exact (GivesPart.stringLiteral reads).bind fun code made => ranged code made.regular
  · exact GivesPart.name.bind fun code word => ranged code word.regular

theorem typeAliasStatement (reads : ReadsRegular r) : GivesRegular (typeAliasStatement r) := by
  refine (node (k := .typeAliasStatement) (fun _ => trivial) ?_).bind fun _ regular => after fun _ =>
    .ite (.pure regular) .fail
  refine after fun _ => (reads.typeForm _).bind fun _ left => after fun _ => ?_
  refine (reads.typeForm _).bind fun _ right => .pure (cons (left.regular.withRole _) (one ?_))
  exact right.regular.withRole _

theorem raiseStatement (reads : ReadsRegular r) : GivesRegular (raiseStatement r) := by
  refine node (fun _ => trivial) (after fun _ => after fun _ => .orEmpty (Q := Part)
    (GivesPart.expressions reads) (fun _ => id) fun raised first => after fun _ => .ite ?_ ?_)
  · refine (reads.expression _).bind fun _ source => .pure ?_
    exact append (fun c mem => (first c mem).regular) (one source.regular)
  · exact .pure fun c mem => (first c mem).regular

theorem leaf {k : Kind} (fits : Fits [] k) (other : k ≠ .call) (idle : isBindingKind k = false) :
    GivesRegular (leaf k) :=
  (Always.leaf fits other idle).imp fun _ bare => bare.regular

theorem simpleStatement (reads : ReadsRegular r) : GivesRegular (simpleStatement r) := by
  have names {k : Kind} (free : ∀ cs, Fits cs k) : GivesRegular (Parser.node k do
      let _ ← take
      Parser.commaSeparated Parser.anyName) :=
    node free (after fun _ => (Always.commaSeparated GivesPart.anyName).imp fun _ all c mem =>
      (all c mem).regular)
  refine after fun _ => ?_
  split
  · exact importStatement
  · exact importFromStatement
  · refine after fun _ => .ite (printStatement reads) ?_
    exact .either (wholeExpressionStatement reads) (printStatement reads)
  · exact .either (wholeExpressionStatement reads) (execStatement reads)
  · exact .either (typeAliasStatement reads) (expressionStatement reads)
  · exact node (fun _ => trivial) (after fun _ => parts (Always.commaSeparated (reads.expression _)))
  · refine node (fun _ => trivial) (after fun _ => after fun _ => .ite ?_ .empty)
    exact parts (.single (GivesPart.expressions reads))
  · exact node (fun _ => trivial) (after fun _ => parts (.single (GivesPart.expressions reads)))
  · exact raiseStatement reads
  · exact leaf trivial nofun rfl
  · exact leaf trivial nofun rfl
  · exact leaf trivial nofun rfl
  · exact names fun _ => trivial
  · exact names fun _ => trivial
  · exact expressionStatement reads

theorem statementLine (reads : ReadsRegular r) : GivesRegulars (statementLine r) := by
  refine (simpleStatement reads).bind fun _ first => (Always.separated (simpleStatement reads)).bind ?_
  exact fun _ rest => after fun _ => .pure (cons first (Always.presentAll rest))

theorem body (reads : ReadsRegular r) : Always (body r) fun c =>
    ∃ b : Concrete, c = b.withRole .body ∧ b.Made .block :=
  after fun _ => reads.suite.bind fun b made => .pure ⟨b,rfl,made⟩

theorem regularBody (reads : ReadsRegular r) : GivesRegular (Grammar.body r) :=
  (body reads).imp fun _ ⟨_,same,made⟩ => same ▸ made.regular.withRole _

theorem elseClause (reads : ReadsRegular r) : GivesRegulars (elseClause r) :=
  after fun _ => .ite (.single (node (fun _ => trivial) (after fun _ => .single (regularBody reads)))) .empty

theorem finallyClause (reads : ReadsRegular r) : GivesRegulars (finallyClause r) :=
  after fun _ => .ite (.single (node (fun _ => trivial) (after fun _ => .single (regularBody reads)))) .empty

theorem ifStatement (reads : ReadsRegular r) : GivesRegular (ifStatement r) := by
  have guarded : GivesRegulars (do
      let condition ← r.full
      return [condition,← Grammar.body r]) :=
    (reads.expression _).bind fun _ condition => (regularBody reads).bind fun _ b =>
      .pure (cons condition.regular (one b))
  refine node (fun _ => trivial) (after fun _ => (reads.expression _).bind fun _ condition => ?_)
  refine (regularBody reads).bind fun _ b => .bind (.many (Q := Regular) ?_) fun _ others => ?_
  · exact .whenNext (node (fun _ => trivial) (after fun _ => guarded))
  · exact (elseClause reads).bind fun _ last => .pure (append (cons condition.regular (cons b others)) last)

theorem whileStatement (reads : ReadsRegular r) : GivesRegular (whileStatement r) := by
  refine node (fun _ => trivial) (after fun _ => (reads.expression _).bind fun _ condition => ?_)
  exact (regularBody reads).bind fun _ b => (elseClause reads).bind fun _ last =>
    .pure (cons condition.regular (cons b last))

theorem asyncMark : Always asyncMark fun cs => ∀ c ∈ cs, c.isNamed = false ∧ c.Regular :=
  after fun _ => after fun _ => .ite (after fun _ => .pure (one ⟨rfl,.token⟩)) .empty

theorem forStatement (reads : ReadsRegular r) : GivesRegular (forStatement r) := by
  refine node (fun _ => trivial) (asyncMark.bind fun _ mark => after fun _ => ?_)
  refine (GivesPart.loopTarget reads).bind fun _ target => after fun _ => ?_
  refine (GivesPart.expressions reads).bind fun _ iterable => (regularBody reads).bind fun _ b => ?_
  refine (elseClause reads).bind fun _ last => .pure (append (fun c mem => (mark c mem).2) ?_)
  exact cons (target.withRole _).regular (cons (iterable.withRole _).regular (cons b last))

theorem exceptClause (reads : ReadsRegular r) : GivesRegular (exceptClause r) := by
  have finished {k : Kind} {start : Position} {cs : List Concrete} (free : ∀ cs, Fits cs k)
      (below : ∀ c ∈ cs, c.Regular) : GivesRegular (do
        let handler ← Grammar.body r
        return .node k none ⟨start,(← get).last⟩ (cs ++ [handler])) :=
    (regularBody reads).bind fun _ b => after fun _ => .pure (.node (free _) (append below (one b)))
  refine after fun _ => after fun _ => after fun _ => .ite ?_ (after fun _ => .ite ?_ ?_)
  · refine after fun _ => (reads.expression _).bind fun _ caught => ?_
    exact finished (fun _ => trivial) (one caught.regular)
  · exact finished (fun _ => trivial) (List.forall_mem_nil _)
  · refine (reads.expression _).bind fun _ caught => after fun _ => .ite ?_ ?_
    · refine (reads.expression _).bind fun _ name => finished (fun _ => trivial) ?_
      exact cons (caught.withRole _).regular (one (name.withRole _).regular)
    · exact finished (fun _ => trivial) (one (caught.withRole _).regular)

theorem tryStatement (reads : ReadsRegular r) : GivesRegular (tryStatement r) := by
  refine node (fun _ => trivial) (after fun _ => (regularBody reads).bind fun _ tried => ?_)
  refine .bind (.many (Q := Regular) (.whenNext (exceptClause reads))) fun _ handlers => .ite ?_ ?_
  · refine (finallyClause reads).bind fun _ final => ?_
    split
    · exact .fail
    · exact .pure (cons tried final)
  · refine (elseClause reads).bind fun _ otherwise => (finallyClause reads).bind fun _ final => ?_
    exact .pure (append (append (cons tried handlers) otherwise) final)

theorem withItem (reads : ReadsRegular r) : GivesRegular (withItem r) :=
  node (fun _ => trivial) ((reads.expression _).bind fun _ part => .pure (one (part.withRole _).regular))

theorem enclosedItems (reads : ReadsRegular r) : GivesRegular (enclosedItems r) := by
  refine (node (k := .withClause) (fun _ => trivial) (after fun _ => ?_)).bind fun _ regular => after fun _ =>
    .ite (.pure regular) .fail
  exact (Always.commaList (withItem reads)).bind fun _ items => after fun _ => .ite .fail (.pure items)

theorem openItems (reads : ReadsRegular r) : GivesRegular (openItems r) :=
  node (fun _ => trivial) ((Always.commaList (withItem reads)).bind fun _ items => .pure items)

theorem withStatement (reads : ReadsRegular r) : GivesRegular (withStatement r) := by
  refine node (fun _ => trivial) (asyncMark.bind fun mark marks => after fun _ => after fun _ => ?_)
  have finish (clause : Concrete) (regular : clause.Regular) : GivesRegulars (do
      return mark ++ [clause,← Grammar.body r]) :=
    (regularBody reads).bind fun _ b => .pure (append (fun c mem => (marks c mem).2) (cons regular (one b)))
  refine .ite (Always.bind (P := Regular) ?_ finish) ((openItems reads).bind finish)
  exact .either (enclosedItems reads) (openItems reads)

theorem typeParametersIfAny (reads : ReadsRegular r) : Always (typeParametersIfAny r) fun cs =>
    ∀ c ∈ cs, c.Inert .typeParameter :=
  after fun _ => .ite (.single (GivesPart.typeParameters reads)) .empty

theorem headings {mark generic : List Concrete} {name : Concrete}
    (marks : ∀ c ∈ mark, c.isNamed = false ∧ c.Regular) (plain : name.Bare .identifier)
    (types : ∀ c ∈ generic, c.Inert .typeParameter) :
    (∀ c ∈ mark ++ name.withRole .name :: generic, c.Heading) ∧
      ∀ c ∈ mark ++ name.withRole .name :: generic, c.Regular := by
  have bare (c : Concrete) (token : c.isNamed = false) : c.Heading := by
    cases c with
    | token => exact ⟨.inl rfl,.inl .token⟩
    | node => cases token
  have named : (name.withRole .name).Heading := by
    cases name with
    | token => exact ⟨.inl rfl,.inl .token⟩
    | node => exact ⟨.inr ⟨rfl,plain.fresh.1⟩,.inl (plain.silent.withRole .name)⟩
  refine ⟨append (fun c mem => bare c (marks c mem).1) ?_,append (fun c mem => (marks c mem).2) ?_⟩
  · exact cons named fun c mem => ⟨.inl (types c mem).fresh.2,.inr (types c mem).fresh⟩
  · exact cons (plain.regular.withRole _) fun c mem => (types c mem).regular

theorem functionDefinition (reads : ReadsRegular r) :
    Always (functionDefinition r) (Made .functionDefinition) := by
  refine .made (asyncMark.bind fun _ mark => after fun _ => GivesPart.anyName.bind fun _ name => ?_)
  refine (typeParametersIfAny reads).bind fun _ generic => (GivesPart.functionParameters reads).bind fun _ ps => ?_
  refine after fun _ => .orEmpty (reads.typeForm _) (fun _ => id) fun _ result => ?_
  refine (body reads).bind fun _ ⟨b,same,block⟩ => .pure ?_
  subst same
  obtain ⟨heads,front⟩ := headings mark name generic
  refine ⟨⟨_,_,_,b,rfl,heads,ps.fresh,fun c mem => (result c mem).fresh,block.fresh⟩,?_⟩
  refine append (append front (cons (ps.regular.withRole _) ?_)) (one (block.regular.withRole _))
  exact fun c mem => (result c mem).regular

theorem classDefinition (reads : ReadsRegular r) : Always (classDefinition r) (Made .classDefinition) := by
  have unmarked : ∀ c ∈ ([] : List Concrete), c.isNamed = false ∧ c.Regular := List.forall_mem_nil _
  refine .made (after fun _ => GivesPart.anyName.bind fun n name => ?_)
  refine (typeParametersIfAny reads).bind fun generic types => after fun _ => .ite ?_ ?_
  all_goals obtain ⟨heads,front⟩ := headings unmarked name types
  · refine (GivesPart.arguments reads).bind fun bases taken => ?_
    refine .bind (P := fun cs => cs = [bases.withRole .superclasses]) (.pure rfl) fun _ only => ?_
    refine (body reads).bind fun _ ⟨b,same,block⟩ => .pure ?_
    subst only same
    refine ⟨⟨_,_,b,rfl,heads,.listed taken.2,block.fresh⟩,append (append front ?_) ?_⟩
    · exact one (taken.1.withRole _).regular
    · exact one (block.regular.withRole _)
  · refine .bind (P := fun cs => cs = []) (.pure rfl) fun _ only => ?_
    refine (body reads).bind fun _ ⟨b,same,block⟩ => .pure ?_
    subst only same
    refine ⟨⟨_,[],b,rfl,heads,.none,block.fresh⟩,append (append front (List.forall_mem_nil _)) ?_⟩
    exact one (block.regular.withRole _)

theorem definition (reads : ReadsRegular r) : Always (definition r) fun c =>
    c.Regular ∧ (c.Fresh .classDefinition ∨ c.Fresh .functionDefinition) :=
  after fun _ => .ite ((classDefinition reads).imp fun _ made => ⟨made.regular,.inl made.fresh⟩)
    ((functionDefinition reads).imp fun _ made => ⟨made.regular,.inr made.fresh⟩)

theorem decoratedDefinition (reads : ReadsRegular r) : GivesRegular (decoratedDefinition r) := by
  have decorator : Always (Parser.node .decorator do
      let _ ← take
      let e ← r.full
      let _ ← expect .newline
      return [e]) (Made .decorator) :=
    .made (after fun _ => (reads.expression _).bind fun _ part => after fun _ =>
      .pure ⟨one part.idle,one part.regular⟩)
  refine made (k := .decoratedDefinition) (.made ?_)
  refine .bind (.many (Q := Made .decorator) (.whenNext decorator)) fun ds all => ?_
  refine (definition reads).bind fun d ⟨regular,kind⟩ => .pure ⟨?_,?_⟩
  · exact ⟨ds,d,rfl,fun c mem => (all c mem).fresh,kind⟩
  · exact append (fun c mem => (all c mem).regular) (one (regular.withRole _))

theorem caseClause (reads : ReadsRegular r) : GivesRegular (caseClause r) := by
  refine node (fun _ => trivial) (after fun _ => (Always.commaList reads.casePattern).bind fun _ patterns => ?_)
  refine after fun _ => .orEmpty (Q := Part) (GivesPart.node rfl (after fun _ => .single (reads.expression _)))
    (fun _ => id) fun _ guard => ?_
  refine (regularBody reads).bind fun _ b => .pure (append (append ?_ ?_) (one b))
  · exact fun c mem => (patterns c mem).regular
  · exact fun c mem => (guard c mem).regular

theorem matchBlock (reads : ReadsRegular r) : GivesRegular (matchBlock r) := by
  refine after fun _ => .ite (node (fun _ => trivial) ?_) (node (fun _ => trivial) (after fun _ => .empty))
  refine .bind (.many (Q := Regular) (.whenNext (caseClause reads))) fun _ cases => ?_
  exact after fun _ => .pure cases

theorem matchStatement (reads : ReadsRegular r) : GivesRegular (matchStatement r) := by
  refine node (fun _ => trivial) (after fun _ => (Always.commaList (reads.expression _)).bind fun _ subjects => ?_)
  refine after fun _ => (matchBlock reads).bind fun _ block => .pure ?_
  exact append (fun c mem => (subjects c mem).regular) (one (block.withRole _))

theorem statements (reads : ReadsRegular r) : GivesRegulars (statements r) := by
  refine after fun _ => after fun _ => ?_
  split
  · exact .single (ifStatement reads)
  · exact .single (forStatement reads)
  · exact .single (whileStatement reads)
  · exact .single (tryStatement reads)
  · exact .single (withStatement reads)
  · exact .single (made (functionDefinition reads))
  · exact .single (made (classDefinition reads))
  · exact .single (decoratedDefinition reads)
  · exact .single (made (functionDefinition reads))
  · exact .single (forStatement reads)
  · exact .single (withStatement reads)
  · exact .either (.single (matchStatement reads)) (statementLine reads)
  · exact statementLine reads

theorem suite (reads : ReadsRegular r) : Always (suite r) (Made .block) := by
  have block {p : Parser (List Concrete)} (hp : GivesRegulars p) : Always (Parser.node .block p) (Made .block) :=
    .made (hp.imp fun _ below => ⟨trivial,below⟩)
  refine after fun _ => ?_
  split
  · refine after fun _ => block (.bind (.many (Q := fun cs => ∀ c ∈ cs, c.Regular) ?_) fun _ all => ?_)
    · exact after fun _ => .ite .nothing (.present (statements reads))
    · exact after fun _ => .pure (List.forall_mem_flatten.mpr all)
  · exact block (after fun _ => .empty)
  · exact block (statementLine reads)

end GivesRegular

theorem stepRegular {r : Reader} (reads : ReadsRegular r) : ReadsRegular (step r) where
  expression _ := GivesPart.expression reads
  operand _ := GivesPart.operand reads
  clause := GivesPart.clauseExpression reads
  typeForm _ := GivesPart.typeForm reads
  casePattern := GivesPart.casePattern reads
  suite := GivesRegular.suite reads

theorem boundedRegular (n : Nat) : ReadsRegular (readBounded n) := by
  induction n with
  | zero => exact ⟨fun _ => .fail,fun _ => .fail,.fail,fun _ => .fail,.fail,.fail⟩
  | succ n ih => exact stepRegular ih

theorem programRegular {r : Reader} (reads : ReadsRegular r) : GivesRegulars (programStatements r) := by
  refine .bind (.many (Q := fun cs => ∀ c ∈ cs, c.Regular) (Always.after fun _ => ?_)) fun _ all =>
    .pure (List.forall_mem_flatten.mpr all)
  split
  · exact .nothing
  · exact .present (GivesRegular.statements reads)

theorem parsedRegular {text : List Char} {program : Concrete} (ok : parse text = .ok program) :
    ∃ span body, program = .node .module none span body ∧ ∀ c ∈ body, c.Regular := by
  unfold parse at ok
  dsimp only at ok
  split at ok
  · rename_i body s read
    cases ok
    exact ⟨_,_,rfl,programRegular (boundedRegular _) _ _ _ read⟩
  · cases ok

theorem programIsRegular {text : List Char} {program : Concrete} (ok : parse text = .ok program) :
    program.Regular := by
  obtain ⟨_,_,rfl,below⟩ := parsedRegular ok
  exact .node trivial below

end ConventionLint.Grammar
