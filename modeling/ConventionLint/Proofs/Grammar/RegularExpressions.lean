import ConventionLint.Grammar.CasePattern
import ConventionLint.Grammar.Expression
import ConventionLint.Grammar.TypeForm
import ConventionLint.Proofs.Grammar.Regular

/-! Expressions, types, parameters and patterns have the parts that their kinds have. -/
namespace ConventionLint.Grammar
open Concrete

namespace GivesPart
open ConventionLint.Grammar.Parser
open Always (after)
open Each (one cons append)
variable {r : Reader}

theorem anyName : Always anyName (Bare .identifier) := by
  refine after fun _ => ?_
  split
  · exact .leaf rfl nofun rfl
  · exact .fail

theorem name : Always name (Bare .identifier) := by
  refine after fun _ => ?_
  split
  · exact .ite .fail (.leaf rfl nofun rfl)
  · exact .fail

theorem word {k : Kind} {c : Concrete} (h : Bare k c)
    (operand : isOperandKind k = true) : c.Part :=
  Inert.part h.toInert operand

theorem bare {k : Kind} {p : Parser Concrete} (hp : Always p (Bare k))
    (operand : isOperandKind k = true) : GivesPart p :=
  hp.imp fun _ h => word h operand

theorem made {k : Kind} {p : Parser Concrete} (hp : Always p (Inert k))
    (operand : isOperandKind k = true) : GivesPart p :=
  hp.imp fun _ h => h.part operand

theorem withRoles {cs : List Concrete} (parts : ∀ c ∈ cs, c.Part) (role : Role) :
    ∀ c ∈ cs.map (Concrete.withRole role), c.Part := by
  intro c mem
  obtain ⟨d,inside,rfl⟩ := List.mem_map.mp mem
  exact (parts d inside).withRole role

theorem listed {k : Kind} {p : Parser Concrete} {stops : Option Lexeme → Bool} (loose : isLoose k = true)
    (hp : GivesPart p) : GivesPart (do
      let start ← here
      let (items,comma) ← Parser.commaList p stops
      match items, comma with
      | [item], false => return item
      | _, _ => return .node k none ⟨start,(← get).last⟩ items) := by
  refine after fun _ => (Always.commaList hp).bind fun x parts => ?_
  obtain ⟨items,comma⟩ := x
  dsimp only at parts ⊢
  split
  · exact .pure (parts _ List.mem_cons_self)
  · exact laid loose parts

mutual

theorem partPattern (c : Concrete) : ∀ d, c.toPattern? = some d → c.Part → d.Part := by
  intro d found part
  cases c with
  | token t s => simp [Concrete.toPattern?] at found
  | node k r s cs =>
    have inner {k' : Kind} (operands : ∀ c ∈ cs, c.isOperand)
        (found : (Concrete.toPatterns? cs).map (.node k' r s) = some d) (loose : isLoose k' = true) :
        d.Part := by
      obtain ⟨ds,below,rfl⟩ := Option.map_eq_some_iff.mp found
      refine .node loose (partPatterns cs ds below fun c mem => ?_)
      exact ⟨part.toSettled.children c mem,operands c mem⟩
    have fits := part.regular.fits rfl
    unfold Concrete.toPattern? at found
    split at found
    all_goals try exact Option.some.inj found ▸ part
    · split at found
      all_goals cases found
      all_goals exact ⟨.node rfl trivial part.toSettled.children,rfl⟩
    · obtain ⟨e,same,operand⟩ := fits
      refine inner ?_ found rfl
      rw [show cs = [e] from same]
      exact one operand
    · exact inner fits found rfl
    · exact inner fits found rfl
    · cases found

theorem partPatterns (cs : List Concrete) :
    ∀ ds, Concrete.toPatterns? cs = some ds → (∀ c ∈ cs, c.Part) → ∀ d ∈ ds, d.Part := by
  intro ds found parts
  cases cs with
  | nil =>
    cases found
    exact nofun
  | cons c cs =>
    obtain ⟨first,rest⟩ := List.forall_mem_cons.mp parts
    obtain ⟨p,ps,hp,hps,rfl⟩ := Concrete.toPatternsCons found
    exact cons (partPattern c p hp first) (partPatterns cs ps hps rest)

end

theorem targetItem (reads : ReadsRegular r) : GivesPart (targetItem r) := by
  refine (reads.operand _).bind fun e part => ?_
  split
  · exact .pure (partPattern e _ ‹_› part)
  · exact .throw

theorem loopTarget (reads : ReadsRegular r) : GivesPart (loopTarget r) := listed rfl (targetItem reads)

theorem loopClause (reads : ReadsRegular r) : GivesPart (loopClause r) := by
  refine node rfl (after fun _ => after fun _ => (loopTarget reads).bind fun _ target => after fun _ => ?_)
  refine (Always.commaList reads.clause).bind fun x parts => .pure ?_
  exact cons (target.withRole _) (withRoles parts _)

theorem conditionClause (reads : ReadsRegular r) : GivesPart (conditionClause r) :=
  node rfl (after fun _ => .single reads.clause)

theorem comprehensionClauses (reads : ReadsRegular r) : GivesParts (comprehensionClauses r) := by
  refine (loopClause reads).bind fun _ first => .bind (.many (Q := Part) ?_) fun _ rest =>
    .pure (cons first rest)
  exact after fun _ => .ite (.present (loopClause reads)) (.whenNext (conditionClause reads))

theorem expressionList {stops : Option Lexeme → Bool} (reads : ReadsRegular r) :
    GivesPart (expressionList r stops) := listed rfl (reads.expression _)

theorem expressions (reads : ReadsRegular r) : GivesPart (expressions r) := expressionList reads

theorem yieldExpression (reads : ReadsRegular r) : GivesPart (yieldExpression r) := by
  refine node rfl (after fun _ => after fun _ => .ite ?_ (after fun _ => .ite ?_ ?_))
  · exact .single (reads.expression _)
  · exact .single (expressions reads)
  · exact .empty

theorem expressionOrYield (reads : ReadsRegular r) : GivesPart (expressionOrYield r) :=
  after fun _ => .ite (yieldExpression reads) (expressions reads)

theorem formatSpecifier {hole : Kind → Parser Concrete}
    (hh : Always (hole .formatExpression) (Inert .formatExpression)) :
    Always (formatSpecifier hole) (Inert .formatSpecifier) := by
  refine .inert rfl (after fun _ => (Always.many (Q := Inert .formatExpression) (.whenNext hh)).imp ?_)
  exact fun _ holes => ⟨trivial,fun c mem => (holes c mem).toSettled⟩

theorem holeParts {k : Kind} (hole : k = .interpolation ∨ k = .formatExpression) {value : Concrete}
    {converted format : List Concrete} (part : value.Part) (marks : ∀ c ∈ converted, c.Bare .typeConversion)
    (formats : ∀ c ∈ format, c.Inert .formatSpecifier) :
    Fits (value.withRole .expression :: converted ++ format) k ∧
      ∀ c ∈ value.withRole .expression :: converted ++ format, c.Settled := by
  refine ⟨?_,append (cons ?_ ?_) ?_⟩
  · rcases hole with rfl | rfl
    · refine ⟨value,converted ++ format,rfl,part.operand,fun c mem => ?_⟩
      rcases List.mem_append.mp mem with here | here
      · exact .inl (marks c here).silent
      · exact .inr (formats c here).fresh
    · trivial
  · exact (part.withRole _).toSettled
  · exact fun c mem => (marks c mem).toSettled
  · exact fun c mem => (formats c mem).toSettled

theorem holeBounded (reads : ReadsRegular r) (n : Nat) (k : Kind)
    (hole : k = .interpolation ∨ k = .formatExpression) : Always (holeBounded r n k) (Inert k) := by
  induction n generalizing k with
  | zero => exact .fail
  | succ n ih =>
    have other : isBindingKind k = false := by
      rcases hole with rfl | rfl
      · rfl
      · rfl
    refine .inert other (after fun _ => (expressionOrYield reads).bind fun _ part => after fun _ => ?_)
    refine after fun _ => .orEmpty (.leaf trivial nofun rfl) (fun _ => id) fun _ marks => ?_
    refine after fun _ => .orEmpty (formatSpecifier (ih _ (.inr rfl))) (fun _ => id) fun _ formats => ?_
    exact after fun _ => .pure (holeParts hole part marks formats)

theorem stringLiteral (reads : ReadsRegular r) : Always (stringLiteral r) (Inert .string) := by
  refine .inert rfl (after fun _ => .bind (.many (Q := Inert .interpolation) ?_) fun _ holes => ?_)
  · exact after fun _ => .ite (after fun _ => .present (holeBounded reads _ _ (.inl rfl))) .nothing
  · exact after fun _ => .pure ⟨fun c mem => (holes c mem).fresh,fun c mem => (holes c mem).toSettled⟩

theorem strings (reads : ReadsRegular r) : GivesPart (strings r) := by
  refine (stringLiteral reads).bind fun _ first => after fun _ => .ite ?_ (.pure (first.part rfl))
  refine made (.inertFurther rfl first.toSettled ?_) rfl
  refine (Always.many (Q := Inert .string) (.whenNext (stringLiteral reads))).imp fun _ more => ⟨?_,?_⟩
  · exact cons first.fresh (fun c mem => (more c mem).fresh)
  · exact fun c mem => (more c mem).toSettled

theorem starred (reads : ReadsRegular r) : GivesPart (starred r) :=
  node rfl (after fun _ => .single (reads.expression _))

theorem doubleStarred (reads : ReadsRegular r) : GivesPart (doubleStarred r) := by
  refine made (.inert rfl (after fun _ => (reads.expression _).bind fun e part => .pure ?_)) rfl
  exact ⟨⟨e,rfl,part.operand⟩,one part.toSettled⟩

theorem element (reads : ReadsRegular r) : GivesPart (element r) :=
  after fun _ => .ite (starred reads) (after fun _ => .ite (yieldExpression reads) (reads.expression _))

theorem elementsAfter (reads : ReadsRegular r) {first : Concrete} {closing : String} (h : first.Part) :
    Always (elementsAfter r first closing) fun x =>
      (∀ c ∈ x.1, c.Part) ∧ (x.2 = false → x.1 = [first]) := by
  refine (Always.separated (element reads)).bind fun rest more => .pure ⟨?_,fun alone => ?_⟩
  · exact cons h (Always.presentAll more)
  · cases rest with
    | nil => rfl
    | cons o os => cases alone

theorem parenthesized (reads : ReadsRegular r) : GivesPart (parenthesized r) := by
  refine after fun start => after fun _ => after fun _ => .ite (closed rfl nofun) ?_
  refine (element reads).bind fun first part => after fun _ => .ite ?_ ?_
  · exact (comprehensionClauses reads).bind fun _ rest => closed rfl (cons (part.withRole _) rest)
  · refine (elementsAfter reads part).bind fun ⟨items,comma⟩ ⟨parts,alone⟩ => ?_
    cases comma with
    | true => exact closed rfl parts
    | false =>
      refine after fun _ => after fun _ => .pure ⟨.node rfl ⟨first,alone rfl,part.operand⟩ ?_,rfl⟩
      exact fun c mem => (parts c mem).toSettled

theorem bracketed (reads : ReadsRegular r) : GivesPart (bracketed r) := by
  refine after fun _ => after fun _ => after fun _ => .ite (closed rfl nofun) ?_
  refine (element reads).bind fun _ part => after fun _ => .ite ?_ ?_
  · exact (comprehensionClauses reads).bind fun _ rest => closed rfl (cons (part.withRole _) rest)
  · exact (elementsAfter reads part).bind fun x parts => closed rfl parts.1

theorem pairAfter (reads : ReadsRegular r) {key : Concrete} (h : key.Part) : GivesPart (pairAfter r key) := by
  refine made (.inertFurther rfl (h.withRole _).toSettled ?_) rfl
  refine after fun _ => (reads.expression _).bind fun value part => .pure ⟨?_,?_⟩
  · exact ⟨key,value,rfl,h.operand,part.operand⟩
  · exact one (part.withRole _).toSettled

theorem dictionaryEntry (reads : ReadsRegular r) : GivesPart (dictionaryEntry r) :=
  after fun _ => .ite (doubleStarred reads) ((reads.expression _).bind fun _ part => pairAfter reads part)

theorem dictionaryAfter (reads : ReadsRegular r) {first : Concrete} (h : first.Part) :
    GivesParts (dictionaryAfter r first) :=
  (Always.separated (dictionaryEntry reads)).bind fun _ more => .pure (cons h (Always.presentAll more))

theorem braced (reads : ReadsRegular r) : GivesPart (braced r) := by
  refine after fun _ => after fun _ => after fun _ => .ite (closed rfl nofun) (after fun _ => .ite ?_ ?_)
  · exact (doubleStarred reads).bind fun _ part =>
      (dictionaryAfter reads part).bind fun _ parts => closed rfl parts
  refine (element reads).bind fun _ first => after fun _ => .ite ?_ ?_
  · refine (pairAfter reads first).bind fun _ pair => after fun _ => .ite ?_ ?_
    · exact (comprehensionClauses reads).bind fun _ rest => closed rfl (cons (pair.withRole _) rest)
    · exact (dictionaryAfter reads pair).bind fun _ parts => closed rfl parts
  · refine after fun _ => .ite ?_ ?_
    · exact (comprehensionClauses reads).bind fun _ rest => closed rfl (cons (first.withRole _) rest)
    · exact (elementsAfter reads first).bind fun x parts => closed rfl parts.1

theorem keywordArgument (reads : ReadsRegular r) : GivesPart (keywordArgument r) := by
  refine made (.inert rfl (anyName.bind fun n word => after fun _ => (reads.expression _).bind fun v part => ?_)) rfl
  refine .pure ⟨⟨n,v,rfl,word.silent,part.operand⟩,cons (word.toSettled.withRole _) ?_⟩
  exact one (part.withRole _).toSettled

theorem argument (reads : ReadsRegular r) : GivesPart (argument r) := by
  refine after fun _ => after fun _ => ?_
  split
  · exact starred reads
  · exact doubleStarred reads
  · exact keywordArgument reads
  · exact reads.expression _

theorem arguments (reads : ReadsRegular r) : Always (arguments r) fun c =>
    c.Settled ∧ (c.Fresh .argumentList ∨ c.Fresh .generatorExpression) := by
  have closes {k : Kind} {w : String} {start : Position} {cs : List Concrete} (loose : isLoose k = true)
      (kind : k = .argumentList ∨ k = .generatorExpression) (parts : ∀ c ∈ cs, c.Part) : Always (do
        let _ ← symbol w
        return Concrete.node k none ⟨start,(← get).last⟩ cs) fun c =>
          c.Settled ∧ (c.Fresh .argumentList ∨ c.Fresh .generatorExpression) := by
    refine after fun _ => after fun _ => .pure ⟨(Part.node loose parts).toSettled,?_⟩
    exact kind.imp (fun same => ⟨congrArg some same,rfl⟩) fun same => ⟨congrArg some same,rfl⟩
  refine after fun _ => after fun _ => after fun _ => .ite (closes rfl (.inl rfl) nofun) ?_
  refine (argument reads).bind fun _ first => after fun _ => .ite ?_ ?_
  · exact (comprehensionClauses reads).bind fun _ rest =>
      closes rfl (.inr rfl) (cons (first.withRole _) rest)
  · exact (Always.separated (argument reads)).bind fun _ more =>
      closes rfl (.inl rfl) (cons first (Always.presentAll more))

theorem subscriptItem (reads : ReadsRegular r) : GivesPart (subscriptItem r) := by
  have bound : GivesParts (do
      if startsExpression (← Parser.peek) then return [← r.full] else return [] : Parser (List Concrete)) :=
    after fun _ => .ite (.single (reads.expression _)) .empty
  refine after fun _ => bound.bind fun lower hl => after fun _ => .ite ?_ ?_
  · refine bound.bind fun _ hu => after fun _ => .ite ?_ ?_
    · exact bound.bind fun _ ht => laid rfl (append (append hl hu) ht)
    · exact .bind (.empty (Q := Part)) fun _ ht => laid rfl (append (append hl hu) ht)
  · split
    · exact .pure (hl _ List.mem_cons_self)
    · exact .fail

theorem further {k : Kind} {c : Concrete} {p : Parser (List Concrete)} (h : GivesPart (Parser.extend k c p)) :
    GrowsPart (some <$> Parser.extend k c p) := Always.further h

theorem trailer (reads : ReadsRegular r) {e : Concrete} (h : e.Part) : GrowsPart (trailer r e) := by
  refine after fun _ => ?_
  split
  · refine further (made (.inertFurther rfl (h.withRole _).toSettled ?_) rfl)
    refine after fun _ => anyName.bind fun a word => .pure ⟨⟨e,a,rfl,h.operand,word.silent⟩,?_⟩
    exact one (word.toSettled.withRole _)
  · refine further (extend rfl (h.withRole _) (after fun _ => ?_))
    exact (Always.commaList (subscriptItem reads)).bind fun _ parts => after fun _ => .pure parts
  · refine further (made (.inertFurther rfl (h.withRole _).toSettled ?_) rfl)
    refine (arguments reads).bind fun as taken => .pure ⟨⟨e,as,rfl,h.operand,?_⟩,?_⟩
    · rcases taken.2 with fresh | fresh
      · exact operandOfKind fresh.1 rfl
      · exact operandOfKind fresh.1 rfl
    · exact one (taken.1.withRole _)
  · exact .nothing

theorem plainAtom (reads : ReadsRegular r) : GivesPart (plainAtom r) := by
  refine after fun _ => ?_
  split
  case h_4 => exact bare name rfl
  case h_7 => exact strings reads
  case h_9 => exact parenthesized reads
  case h_10 => exact bracketed reads
  case h_11 => exact braced reads
  case h_12 => exact .fail
  all_goals exact bare (.leaf rfl nofun rfl) rfl

theorem splatTarget (reads : ReadsRegular r) : GivesPart (splatTarget r) := by
  refine (plainAtom reads).bind fun first part => after fun s => ?_
  -- both what has been read and the best target in it are parts
  refine .bind (P := fun x : Concrete × Option (Concrete × Stream) =>
    x.1.Part ∧ ∀ b, x.2 = some b → b.1.Part) (.grow ?_ ⟨part,?_⟩) fun x parts => ?_
  · intro x parts
    refine (trailer reads parts.1).bind fun o grown => ?_
    split
    · exact .nothing
    · refine after fun t => .pure ?_
      rintro _ ⟨⟩
      refine ⟨grown _ rfl,fun b best => ?_⟩
      split at best
      · cases best
        exact grown _ rfl
      · exact parts.2 b best
  · intro b best
    split at best
    · cases best
      exact part
    · cases best
  · obtain ⟨e,found⟩ := x
    dsimp only
    split
    · exact after fun _ => .pure (parts.2 _ rfl)
    · exact .fail

theorem splat (reads : ReadsRegular r) : GivesPart (splat r) :=
  node rfl (after fun _ => .single (splatTarget reads))

theorem atom (reads : ReadsRegular r) : GivesPart (atom r) := by
  have trailed (c : Concrete) (h : c.Part) : GivesPart (Parser.grow (Grammar.trailer r) c) :=
    .grow (fun _ => trailer reads) h
  exact after fun _ => .ite ((splat reads).bind trailed) ((plainAtom reads).bind trailed)

theorem parameterPattern (reads : ReadsRegular r) : GivesPart (parameterPattern r) := by
  refine (reads.operand _).bind fun e part => ?_
  split
  · exact .ite (.pure (partPattern e _ ‹_› part)) .throw
  · exact .throw

theorem withType (reads : ReadsRegular r) {p : Concrete} (h : p.Part) : GivesPart (
    Parser.extend .typedParameter p do
      let _ ← take
      return [← r (.typeForm false)]) := by
  refine made (.inertFurther rfl h.toSettled (after fun _ => (reads.typeForm _).bind fun _ type => ?_)) rfl
  exact .pure ⟨trivial,one type.toSettled⟩

theorem annotated (reads : ReadsRegular r) {typed : Bool} {p : Concrete} (h : p.Part) :
    GivesPart (annotated r typed p) :=
  after fun _ => .ite (withType reads h) (.pure h)

theorem starredParameter (reads : ReadsRegular r) {typed : Bool} {star : String} {k : Kind}
    (loose : isLoose k = true) : GivesPart (starredParameter r typed star k) :=
  (node loose (after fun _ => .single (bare anyName rfl))).bind fun _ part => annotated reads part

theorem withDefault (reads : ReadsRegular r) {n : Concrete} (h : n.Part) : GivesPart (do
    Parser.extend .defaultParameter (n.withRole .name) do
      let _ ← take
      return [(← r.full).withRole .value]) := by
  refine made (.inertFurther rfl (h.withRole _).toSettled ?_) rfl
  refine after fun _ => (reads.expression _).bind fun v part => .pure ⟨⟨[n.withRole .name],v,rfl,?_,?_⟩,?_⟩
  · exact one (roleOther nofun)
  · exact part.operand
  · exact one (part.withRole _).toSettled

theorem namedParameter (reads : ReadsRegular r) {typed : Bool} : GivesPart (namedParameter r typed) := by
  refine anyName.bind fun n plain => after fun _ => .ite ?_ (after fun _ => .ite ?_ ?_)
  · refine after fun _ => (reads.typeForm _).bind fun t type => after fun _ => .ite ?_ ?_
    · refine (reads.expression _).bind fun v part => after fun _ => .pure ⟨.node rfl ?_ ?_,rfl⟩
      · refine ⟨[n.withRole .name,t],v,rfl,cons (roleOther nofun) ?_,part.operand⟩
        exact one (by simp [type.fresh.2])
      · refine cons (plain.toSettled.withRole _) (cons type.toSettled ?_)
        exact one (part.withRole _).toSettled
    · refine after fun _ => .pure ⟨.node rfl trivial (cons plain.toSettled ?_),rfl⟩
      exact one type.toSettled
  · exact withDefault reads (word plain rfl)
  · exact .pure (word plain rfl)

theorem parameter (reads : ReadsRegular r) {typed : Bool} : GivesPart (parameter r typed) := by
  refine after fun _ => ?_
  split
  · exact bare (.leaf trivial nofun rfl) rfl
  · refine after fun _ => ?_
    split
    · exact starredParameter reads rfl
    · exact bare (.leaf trivial nofun rfl) rfl
  · exact starredParameter reads rfl
  · exact (parameterPattern reads).bind fun _ part => after fun _ =>
      .ite (withDefault reads part) (.pure part)
  · exact namedParameter reads

theorem annotatedForm (reads : ReadsRegular r) {typed : Bool} {p n : Concrete} (marked : Marked p n) :
    Always (Grammar.annotated r typed p) IsParameter := by
  refine after fun _ => .ite ?_ (.pure (.named (.marked marked)))
  refine .bind (P := fun ts => ∃ t : Concrete, ts = [t] ∧ t.Fresh .type) ?_ ?_
  · exact after fun _ => (reads.typeForm _).bind fun t type => .pure ⟨t,rfl,type.fresh⟩
  · rintro _ ⟨t,rfl,type⟩
    exact after fun _ => .pure (.named (.typed rfl rfl marked (beq_iff_eq.mpr type.1)))

theorem starredForm (reads : ReadsRegular r) {typed : Bool} {star : String} {k : Kind}
    (splat : k = .listSplatPattern ∨ k = .dictionarySplatPattern) :
    Always (Grammar.starredParameter r typed star k) IsParameter := by
  refine .bind (P := fun p => ∃ n, Marked p n) ?_ fun p ⟨n,marked⟩ => annotatedForm reads marked
  refine after fun _ => .bind (P := fun cs => ∃ n : Concrete, cs = [n] ∧ n.hasKind .identifier) ?_ ?_
  · exact after fun _ => anyName.bind fun n word => .pure ⟨n,rfl,beq_iff_eq.mpr word.fresh.1⟩
  · rintro _ ⟨n,rfl,name⟩
    refine after fun _ => .pure ⟨n,.starred ?_ rfl name⟩
    rcases splat with rfl | rfl
    · exact .inl rfl
    · exact .inr rfl

theorem defaultForm {n : Concrete} (named : n.isNamed = true) : Always (do
    Parser.extend .defaultParameter (n.withRole .name) do
      let _ ← take
      return [(← r.full).withRole .value])
    fun c => c.hasKind .defaultParameter ∧ c.child? .name = some (n.withRole .name) :=
  after fun _ => after fun _ => .pure ⟨rfl,List.find?_cons_of_pos (beq_iff_eq.mpr (roleOfNode named .name))⟩

theorem namedForm (reads : ReadsRegular r) {typed : Bool} :
    Always (Grammar.namedParameter r typed) IsParameter := by
  refine anyName.bind fun n plain => ?_
  have name : n.hasKind .identifier := beq_iff_eq.mpr plain.fresh.1
  have title : n.isNamed = true := freshNamed plain.fresh
  have inRole : (n.withRole .name).hasKind .identifier := hasKindWithRole.trans name
  refine after fun _ => .ite ?_ (after fun _ => .ite ?_ (.pure (.named (.marked (.bare name)))))
  · refine after fun _ => (reads.typeForm _).bind fun t type => after fun _ => .ite ?_ ?_
    · refine after fun v => after fun _ => .pure (.named (.default (.inr rfl) ?_ inRole))
      exact List.find?_cons_of_pos (beq_iff_eq.mpr (roleOfNode title .name))
    · exact after fun _ => .pure (.named (.typed rfl rfl (.bare name) (beq_iff_eq.mpr type.fresh.1)))
  · exact (defaultForm title).imp fun c form => .named (.default (.inl form.1) form.2 inRole)

theorem patternForm : Always (Grammar.parameterPattern r) fun p => p.hasKind .tuplePattern := by
  refine after fun e => ?_
  split
  · split
    · exact .pure ‹_›
    · exact .throw
  · exact .throw

theorem parameterForm (reads : ReadsRegular r) {typed : Bool} :
    Always (Grammar.parameter r typed) IsParameter := by
  refine after fun _ => ?_
  split
  · exact nodeFresh.imp fun c mark => .separator (.inl (beq_iff_eq.mpr mark.1))
  · refine after fun _ => ?_
    split
    · exact starredForm reads (.inl rfl)
    · exact nodeFresh.imp fun c mark => .separator (.inr (beq_iff_eq.mpr mark.1))
  · exact starredForm reads (.inr rfl)
  · refine patternForm.bind fun p pattern => after fun _ => .ite ?_ (.pure (.unpacked (.pattern pattern)))
    refine (defaultForm (namedOfKind pattern)).imp fun c form => .unpacked ?_
    exact .default form.1 form.2 (hasKindWithRole.trans pattern)
  · exact namedForm reads

theorem parametersUpTo (reads : ReadsRegular r) {typed : Bool} {closing : String} :
    Always (parametersUpTo r typed closing) fun cs => ∀ c ∈ cs, c.Part ∧ c.IsParameter :=
  after fun _ => .ite .empty
    ((Always.commaList ((parameter reads).both (parameterForm reads))).bind fun _ parts => .pure parts)

theorem functionParameters (reads : ReadsRegular r) : Always (functionParameters r) (Inert .parameters) :=
  .inert rfl (after fun _ => (parametersUpTo reads).bind fun _ parts => after fun _ =>
    .pure ⟨fun c mem => (parts c mem).2,fun c mem => (parts c mem).1.toSettled⟩)

theorem lambdaParameters (reads : ReadsRegular r) : GivesParts (lambdaParameters r) := by
  have parts : GivesParts (Grammar.parametersUpTo r false ":") :=
    (parametersUpTo reads).imp fun _ parts c mem => (parts c mem).1
  exact after fun _ => .ite .empty ((node rfl parts).bind fun _ part => .pure (one (part.withRole _)))

theorem typeParameters (reads : ReadsRegular r) : Always (typeParameters r) (Inert .typeParameter) :=
  .inert rfl (after fun _ => (Always.commaList (reads.typeForm _)).bind fun _ types => after fun _ =>
    .pure ⟨trivial,fun c mem => (types c mem).toSettled⟩)

theorem typed {p : Parser (List Concrete)} (hp : GivesParts p) : Always (Parser.node .type p) (Inert .type) :=
  .inert rfl (Always.imp hp fun _ parts => ⟨trivial,fun c mem => (parts c mem).toSettled⟩)

theorem typeHead (reads : ReadsRegular r) : Always (typeHead r) (Inert .type) := by
  have splat : GivesPart (Parser.node .splatType do let _ ← Parser.take; return [← Parser.anyName]) :=
    node rfl (after fun _ => .single (bare anyName rfl))
  refine typed (after fun _ => after fun _ => ?_)
  split
  · exact .single splat
  · exact .single splat
  · refine .ite .fail (name.bind fun _ plain => .single (extend rfl (word plain rfl) ?_))
    exact .single (made (typeParameters reads) rfl)
  · exact .single (reads.expression _)

theorem wrapType {first : Concrete} {k : Kind} {p : Parser (List Concrete)} (free : ∀ cs, Fits cs k)
    (other : isBindingKind k = false) (h : first.Settled) (hp : Always p fun cs => ∀ c ∈ cs, c.Settled) :
    Always (wrapType first k p) (Inert .type) :=
  (Always.inertFurther other h (hp.imp fun _ below => ⟨free _,below⟩)).bind fun _ inner =>
    .pure ⟨.node rfl trivial (one inner.toSettled),⟨rfl,rfl⟩⟩

theorem typeTail (reads : ReadsRegular r) {bounded : Bool} {t : Concrete} (h : t.Inert .type) :
    Always (typeTail r bounded t) fun o => ∀ c, o = some c → c.Inert .type := by
  have wrapped {k : Kind} {k' : Kind} {p : Parser Concrete} (free : ∀ cs, Fits cs k)
      (other : isBindingKind k = false) (hp : Always p (Inert k')) : Always (some <$> Grammar.wrapType t k do
        let _ ← Parser.take
        return [← p]) fun o => ∀ c, o = some c → c.Inert .type :=
    .further (wrapType free other h.toSettled (after fun _ => .single (hp.imp fun _ made => made.toSettled)))
  refine after fun _ => ?_
  split
  · exact wrapped (fun _ => trivial) rfl (typeHead reads)
  · exact wrapped (fun _ => trivial) rfl (anyName.imp fun _ plain => plain.toInert)
  · exact .ite (wrapped (fun _ => trivial) rfl (reads.typeForm _)) .nothing
  · exact .nothing

theorem typeForm (reads : ReadsRegular r) {bounded : Bool} : Always (typeForm r bounded) (Inert .type) :=
  (typeHead reads).bind fun _ type => .grow (fun _ => typeTail reads) type

theorem signed (reads : ReadsRegular r) : GivesPart (signed r) := by
  have sign {k : Kind} (loose : isLoose k = true) : GivesPart (Parser.node k do
      let _ ← Parser.take
      return [← r (.operand Strength.power)]) :=
    node loose (after fun _ => .single (reads.operand _))
  refine after fun _ => ?_
  split
  · exact sign rfl
  · exact sign rfl
  · exact sign rfl
  · exact after fun _ => .ite (sign rfl) (atom reads)
  · exact atom reads

theorem operand (reads : ReadsRegular r) {strength : Nat} : GivesPart (operand r strength) := by
  refine (signed reads).bind fun _ part => .grow (fun _ left => after fun _ => ?_) part
  split
  · split
    · refine .ite .nothing (further (extend rfl (left.withRole _) (after fun _ => ?_)))
      exact (reads.operand _).bind fun _ right => .pure (one (right.withRole _))
    · exact .nothing
  · exact .nothing

theorem comparisonOperator : Always comparisonOperator? fun o => ∀ c, o = some c →
    c.isNamed = false ∧ c.Settled := by
  have make {start : Position} (text : String) : Always (do
      return some (Concrete.token text ⟨start,(← MonadState.get).last⟩) : Parser (Option Concrete)) fun o =>
        ∀ c, o = some c → c.isNamed = false ∧ c.Settled :=
    after fun _ => .pure fun _ same => Option.some.inj same ▸ ⟨rfl,⟨.token,.token⟩⟩
  refine after fun _ => after fun _ => ?_
  split
  · exact .ite (after fun _ => make _) .nothing
  · exact after fun _ => make _
  · exact after fun _ => after fun _ => .ite (make _) (make _)
  · exact after fun _ => .ite (after fun _ => after fun _ => make _) .nothing
  · exact .nothing

theorem comparison (reads : ReadsRegular r) : GivesPart (comparison r) := by
  -- an operator leaves a bare token between the operands
  let among (c : Concrete) : Prop := (c.isNamed = true → c.isOperand) ∧ c.Settled
  have amongPart {c : Concrete} (part : c.Part) : among c := ⟨fun _ => part.operand,part.toSettled⟩
  refine (reads.operand _).bind fun left first => .bind (P := fun os => ∀ o ∈ os, ∀ c ∈ o, among c) ?_ ?_
  · refine .many (comparisonOperator.bind fun o mark => ?_)
    split
    · rename_i op
      refine (reads.operand _).bind fun right part => .pure ?_
      rintro _ ⟨⟩
      obtain ⟨bare,regular⟩ := mark op rfl
      refine cons ⟨fun named => ?_,regular⟩ (one (amongPart part))
      rw [bare] at named
      cases named
    · exact .nothing
  · intro os rest
    refine .ite (.pure first) (after fun _ => .pure ?_)
    have all := cons (amongPart first) (List.forall_mem_flatten.mpr rest)
    exact ⟨.node rfl (fun c mem => (all c mem).1) fun c mem => (all c mem).2,rfl⟩

theorem lambda (reads : ReadsRegular r) {body : Parser Concrete} (hb : GivesPart body) :
    GivesPart (lambda r body) := by
  refine node rfl (after fun _ => (lambdaParameters reads).bind fun _ ps => after fun _ => ?_)
  exact hb.bind fun _ part => .pure (append ps (one (part.withRole _)))

theorem namedExpression (reads : ReadsRegular r) : GivesPart (namedExpression r) := by
  refine node rfl (name.bind fun _ plain => after fun _ => (reads.expression _).bind fun _ part => .pure ?_)
  exact cons ((word plain rfl).withRole _) (one (part.withRole _))

theorem expressionHead (reads : ReadsRegular r) : GivesPart (expressionHead r) := by
  refine after fun _ => after fun _ => ?_
  split
  · exact lambda reads (reads.expression _)
  · exact node rfl (after fun _ => .single (reads.expression _))
  · exact .ite (comparison reads) (namedExpression reads)
  · exact comparison reads

theorem weaken (reads : ReadsRegular r) {strength : Nat} {left : Concrete} (h : left.Part) :
    GrowsPart (weaken r strength left) := by
  have joined (p : Nat) : GrowsPart (do
      if p < strength then return none
      else some <$> Parser.extend .booleanOperator (left.withRole .left) do
        let _ ← Parser.take
        return [(← r (.expression (p + 1))).withRole .right] : Parser (Option Concrete)) := by
    refine .ite .nothing (further (extend rfl (h.withRole _) (after fun _ => ?_)))
    exact (reads.expression _).bind fun _ right => .pure (one (right.withRole _))
  refine after fun _ => ?_
  split
  · exact joined _
  · exact joined _
  · refine .ite .nothing (further (extend rfl h (after fun _ => ?_)))
    refine (node rfl ?_).bind fun _ target => .pure (one (target.withRole _))
    exact .single (reads.expression _)
  · refine .ite .nothing (further (extend rfl h (after fun _ => ?_)))
    refine (reads.expression _).bind fun _ condition => after fun _ => ?_
    exact (reads.expression _).bind fun _ other => .pure (cons condition (one other))
  · exact .nothing

theorem expression (reads : ReadsRegular r) {strength : Nat} : GivesPart (expression r strength) :=
  (expressionHead reads).bind fun _ part => .grow (fun _ => weaken reads) part

theorem clauseExpression (reads : ReadsRegular r) : GivesPart (clauseExpression r) :=
  after fun _ => .ite (lambda reads reads.clause) (reads.expression _)

theorem dottedName : Always dottedName (Bare .dottedName) := by
  refine after fun _ => .bind (P := fun cs => ∀ c ∈ cs, c.Bare .identifier) ?_ fun cs words => after fun _ => ?_
  · refine anyName.bind fun _ first => .bind (.many (Q := Bare .identifier) ?_) fun _ rest => .pure ?_
    · exact after fun _ => .ite (.present anyName) .nothing
    · exact cons first rest
  · refine .pure ⟨⟨.node rfl trivial fun c mem => (words c mem).toSettled,⟨rfl,rfl⟩⟩,.node nofun ?_⟩
    exact fun c mem => (words c mem).silent

theorem patternsUpTo (reads : ReadsRegular r) {closing : String} : GivesParts (patternsUpTo r closing) :=
  after fun _ => .ite .empty ((Always.commaList reads.casePattern).bind fun _ parts => after fun _ =>
    .pure parts)

theorem number : GivesPart number := by
  refine after fun _ => ?_
  split
  · exact bare (.leaf rfl nofun rfl) rfl
  · exact bare (.leaf rfl nofun rfl) rfl
  · exact .fail

theorem numberPattern : GivesParts numberPattern := by
  refine after fun _ => after fun _ => number.bind fun _ first => after fun _ => ?_
  split
  · refine .ite (after fun _ => number.bind fun _ second => ?_) (.pure (one first))
    exact after fun _ => .pure (one (.node rfl (cons first (one second))))
  · exact .pure (one first)

theorem splatPattern {star : String} : GivesPart (splatPattern star) :=
  node rfl (after fun _ => after fun _ => .ite .empty (.single (bare anyName rfl)))

theorem simplePattern (reads : ReadsRegular r) : GivesParts (simplePattern r) := by
  refine after fun _ => ?_
  split
  · exact .single splatPattern
  · exact .single splatPattern
  · exact .single (node rfl (after fun _ => patternsUpTo reads))
  · exact .single (node rfl (after fun _ => patternsUpTo reads))
  · exact numberPattern
  · exact numberPattern
  · exact numberPattern
  · exact .single (strings reads)
  · exact .single (bare (.leaf rfl nofun rfl) rfl)
  · exact .single (bare (.leaf rfl nofun rfl) rfl)
  · exact .single (bare (.leaf rfl nofun rfl) rfl)
  · refine .ite .fail (after fun _ => after fun _ => .ite ?_ ?_)
    · exact after fun _ => .empty
    · refine dottedName.bind fun _ plain => after fun _ => .ite ?_ (.pure (one (word plain rfl)))
      exact .single (extend rfl (word plain rfl) (after fun _ => patternsUpTo reads))
  · exact .fail

theorem unionOf {start : Position} {first : List Concrete} {alternative : Parser (List Concrete)}
    (hf : ∀ c ∈ first, c.Part) (ho : GivesParts alternative) : GivesParts (unionOf start first alternative) := by
  refine .bind (.many (Q := fun cs => ∀ c ∈ cs, c.Part) ?_) fun _ rest => .ite (.pure hf) ?_
  · exact after fun _ => .ite (.present ho) .nothing
  · exact after fun _ => .pure (one (.node rfl (append hf (List.forall_mem_flatten.mpr rest))))

theorem mappingPattern (reads : ReadsRegular r) {alternative : Parser (List Concrete)} (ho : GivesParts alternative) :
    GivesPart (mappingPattern r alternative) := by
  refine node rfl (after fun _ => after fun _ => .ite .empty ?_)
  refine (Always.commaList (Q := fun cs => ∀ c ∈ cs, c.Part) ?_).bind fun _ entries =>
    after fun _ => .pure (List.forall_mem_flatten.mpr entries)
  refine after fun _ => ?_
  split
  · exact .single splatPattern
  · exact .single splatPattern
  · refine after fun _ => ho.bind fun _ first => (unionOf first ho).bind fun _ key => after fun _ => ?_
    exact reads.casePattern.bind fun _ value => .pure (append (withRoles key _) (one (value.withRole _)))

theorem alternativeBounded (reads : ReadsRegular r) (n : Nat) : GivesParts (alternativeBounded r n) := by
  induction n with
  | zero => exact .fail
  | succ n ih => exact after fun _ => .ite (.single (mappingPattern reads ih)) (simplePattern reads)

theorem alternative (reads : ReadsRegular r) : GivesParts (alternative r) :=
  after fun _ => alternativeBounded reads _

theorem keywordPattern (reads : ReadsRegular r) : GivesPart (keywordPattern r) := by
  refine node rfl (anyName.bind fun _ plain => after fun _ => after fun _ => ?_)
  refine (alternative reads).bind fun _ first => (unionOf first (alternative reads)).bind fun _ value => ?_
  exact .pure (cons (word plain rfl) value)

theorem casePattern (reads : ReadsRegular r) : GivesPart (casePattern r) := by
  refine after fun _ => (node rfl ?_).bind fun _ part => .grow (fun _ pattern => ?_) part
  · refine after fun _ => after fun _ => ?_
    split
    · exact .single (keywordPattern reads)
    · exact (alternative reads).bind fun _ first => unionOf first (alternative reads)
  · refine after fun _ => .ite (anyName.bind fun _ plain => after fun _ => .pure ?_) .nothing
    rintro _ ⟨⟩
    exact .node rfl (one (.node rfl (cons pattern (one (word plain rfl)))))

end GivesPart
end ConventionLint.Grammar
