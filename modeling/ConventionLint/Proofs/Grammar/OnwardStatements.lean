import ConventionLint.Proofs.Grammar.OnwardExpressions

/-! Statements lie between the tokens that they begin and end with. What an assignment assigns to comes
first, and a definition has its header in front of its body. -/
namespace ConventionLint.Grammar

namespace Gives
open ConventionLint.Grammar.Parser ConventionLint.Grammar.Concrete
variable {rank : Position → Nat} {r : Reader} {s : Stream} {lo : Nat}

theorem targetOf {items : List Concrete} {comma : Bool} {span : Span} {β : Type} {R : Stream → β → Prop}
    {f : Concrete → Parser β} (hi : Spans rank (rank span.start) (rank s.front) items)
    (hf : ∀ c, c.role? = some .left → Spans rank (rank span.start) (rank s.front) c → Gives rank s (f c) R) :
    Gives rank s (targetOf items comma span >>= f) R := by
  have listed {ps : List Concrete} (found : Concrete.toPatterns? items = some ps) :
      Gives rank s (f (.node .patternList (some .left) span ps)) R :=
    hf _ rfl (spansPlain rfl (Nat.le_refl _) (spansPatterns items ps found hi))
  unfold Grammar.targetOf
  split
  · exact (fail (Q := fun _ _ => False)).bind fun _ _ _ no => no.elim
  · next p found =>
    split
    · exact listed found
    · refine hf _ ?_ (spansWithRole (spansMember (spansPatterns items _ found hi) List.mem_cons_self))
      exact roleOfNode (patternsNamed found p List.mem_cons_self) .left
  · exact listed ‹_›

theorem laidOutAssignment {target : Concrete} (left : target.role? = some .left) (rest : List Concrete) :
    LaidOut .assignment (target :: rest) := by
  refine ⟨?_,nofun,nofun⟩
  -- a type behind the target may have any role, so it counts as what stands behind
  refine inRolesSplit [target] _ (.inl ⟨target,List.mem_cons_self,left⟩) fun c mem => ?_
  simp [List.mem_singleton.mp mem,left]

theorem assignmentAfter (adv : Advances rank r) (n : Nat) {start : Position} {items : List Concrete}
    {comma : Bool} (hi : Spans rank (rank start) (rank s.front) items) :
    Gives rank s (assignmentAfter r n start items comma) (Upto rank (rank start)) := by
  induction n generalizing s start items comma with
  | zero => exact nothing (Spanned.le hi)
  | succ n ih =>
    refine get ?_
    extract_lets span value
    have readValue : Forwards rank value := by
      intro t
      refine ifNext (fun _ => ?_) ?_
      · exact (yieldExpression adv t).bind fun _ _ _ hy => .pure (spansWithRole hy)
      refine here ((commaList (adv.reads _) t).bind fun x u _ hx => (ih hx).bind fun o v le ho => ?_)
      obtain ⟨es,c⟩ := x
      dsimp only
      split
      · exact .pure (spansWithRole (spansSome.mp ho))
      · have all : Spans rank (rank t.front) (rank v.front) es := spansTill hx le
        split
        · exact .pure (spansWithRole (spansMember all List.mem_cons_self))
        · exact get (.pure (spansPlain rfl (Nat.le_refl _) all))
    have assigned {k : Kind} {cs : List Concrete} {t : Stream} (laid : LaidOut k cs)
        (below : Spans rank (rank start) (rank t.front) cs) : Gives rank t (do
        return some (Concrete.node k none ⟨start,(← MonadState.get).last⟩ cs) :
        Parser (Option Concrete)) (Upto rank (rank start)) :=
      get (.pure (spansSome.mpr (spansNode.mpr ⟨Nat.le_refl _,laid,below⟩)))
    refine peek ?_
    split
    · refine targetOf hi fun c left hc => (take (known ‹_› (by nofun))).bind fun _ t le _ => ?_
      refine (readValue t).bind fun _ _ _ hv => assigned (laidOutAssignment left _) ?_
      exact spansCons hc (spansSingle hv) le
    · refine targetOf hi fun c left hc => (take (known ‹_› (by nofun))).bind fun _ t le _ => ?_
      refine (adv.reads _ t).bind fun _ _ _ hy => acceptSymbol.bind fun _ u le' _ => ite (fun _ => ?_) fun _ => ?_
      · refine (readValue u).bind fun _ _ _ hv => assigned (laidOutAssignment left _) ?_
        exact spansCons hc (spansCons hy (spansSingle hv) le') le
      · refine assigned (laidOutAssignment left _) (spansCons hc ?_ le)
        exact spansSingle (spansTill hy le')
    · refine ite (fun _ => ?_) fun _ => nothing (Spanned.le hi)
      refine targetOf hi fun c _ hc => (take (known ‹_› (by nofun))).bind fun _ t le _ => ?_
      refine (readValue t).bind fun _ _ _ hv => assigned (laidOutPlain rfl _) ?_
      exact spansCons hc (spansSingle hv) le
    · exact nothing (Spanned.le hi)

theorem expressionStatement (adv : Advances rank r) : Forwards rank (expressionStatement r) := by
  intro s
  refine plainNode rfl (ifNext (fun _ => single (yieldExpression adv s)) ?_)
  refine here ((commaList (adv.reads _) s).bind fun _ _ _ hx => get ?_)
  refine (assignmentAfter adv _ hx).bind fun o _ le ho => ?_
  split
  · exact .pure (spansSingle (spansSome.mp ho))
  · exact .pure (spansTill hx le)

theorem wholeExpressionStatement (adv : Advances rank r) : Forwards rank (wholeExpressionStatement r) :=
  fun s => (expressionStatement adv s).bind fun _ _ _ h => peek (ite (fun _ => .pure h) fun _ => fail)

theorem importedName : Forwards rank importedName := by
  refine fun s => (dottedName s).bind fun _ t _ h => ifNext (fun next => ?_) (.pure h)
  exact extendBehind rfl (known next (by nofun)) (spansWithRole h) anyName fun _ _ _ => spansWithRole

theorem importList {stops : Option Lexeme → Bool} : Forwards rank (importList stops) :=
  fun s => (commaList importedName s).bind fun _ _ _ hx => .pure (spansMap (fun _ _ _ _ => spansWithRole) hx)

theorem importStatement : Forwards rank importStatement :=
  fun _ => plainNode rfl (keyword.skip fun _ t _ => importList t)

theorem importDots : Forwards rank importDots := by
  intro s
  refine plainNode rfl (.bind (α := List Unit) (many (fun t => ?_) s) fun _ _ le _ => .pure (spansNil le))
  refine acceptSymbol.bind fun _ u le _ => ite (fun _ => .pure (spansSome.mpr le)) fun _ => ?_
  refine acceptSymbol.bind fun _ v le' _ => ite (fun _ => ?_) fun _ => nothing (Nat.le_trans le le')
  exact .pure (spansSome.mpr (Nat.le_trans le le'))

theorem moduleName : Forwards rank moduleName := by
  intro s
  refine peek ?_
  split
  · exact dottedName s
  · refine ite (fun _ => plainNode rfl ((importDots s).bind fun _ t _ hd => peek ?_)) fun _ => fail
    split
    · refine ite (fun _ => .pure (spansSingle hd)) fun _ => (dottedName t).bind fun _ _ _ hn => ?_
      exact .pure (spansCons hd (spansSingle hn) (Nat.le_refl _))
    · exact .pure (spansSingle hd)
  · exact fail

theorem importedNames : Forwards rank importedNames := by
  refine fun s => keyword.skip fun _ t _ => peek ?_
  split
  · exact single (leaf rfl (known ‹_› (by nofun)))
  · refine (take (known ‹_› (by nofun))).skip fun _ u _ => ?_
    exact (importList u).bind fun _ _ _ h => ending symbol h
  · exact importList t

theorem importFromStatement : Forwards rank importFromStatement := by
  refine fun s => here (keyword.bind fun _ t le _ => peek (peekSecond ?_))
  split
  · refine (take (known ‹_› (by nofun))).bind fun _ u le' _ => (importedNames u).bind fun _ _ _ h => ?_
    exact get (.pure (spansPlain rfl (Nat.le_refl _) (spansSince h (Nat.le_trans le le'))))
  · refine (moduleName t).bind fun _ u _ hm => (importedNames u).bind fun _ _ _ h => ?_
    refine get (.pure (spansPlain rfl (Nat.le_refl _) ?_))
    exact spansCons (spansWithRole (spansSince hm le)) h (Nat.le_refl _)

theorem printStatement (adv : Advances rank r) : Forwards rank (printStatement r) := by
  refine fun _ => plainNode rfl (keyword.skip fun _ t _ => ifNext (fun next => ?_) ?_)
  · refine (marked rfl (known next (by nofun)) (adv.reads _)).bind fun _ u _ h => ?_
    refine .bind (α := List (Option Concrete)) (many (fun v => ?_) u) fun _ _ _ hs => ?_
    · refine acceptSymbol.bind fun _ w le _ => ite (fun _ => peek (ite (fun _ => ?_) fun _ => ?_)) fun _ => nothing le
      · exact .pure (spansSome.mpr (spansNone le))
      · refine (adv.reads _ w).bind fun _ _ _ h => .pure (spansSome.mpr (spansSome.mpr ?_))
        exact spansSince h le
    · exact .pure (spansCons h (spansPresent hs) (Nat.le_refl _))
  · exact (commaList (adv.reads _) t).bind fun _ _ _ hx => .pure hx

theorem execStatement (adv : Advances rank r) : Forwards rank (execStatement r) := by
  refine fun _ => plainNode rfl (keyword.skip fun _ t _ => isNext ?_)
  refine branch (fun _ => stringLiteral adv t) (fun _ => name t) fun _ _ _ hc => ?_
  refine acceptWord.bind fun _ v le _ => ite (fun _ => ?_) fun _ => ?_
  · exact (commaSeparated (adv.reads _) v).bind fun _ _ _ hs => .pure (spansCons hc hs le)
  · exact .pure (spansSingle (spansTill hc le))

theorem typeAliasStatement (adv : Advances rank r) : Forwards rank (typeAliasStatement r) := by
  refine fun _ => (plainNode rfl ?_).bind fun _ _ _ h => peek (ite (fun _ => .pure h) fun _ => fail)
  refine keyword.skip fun _ t _ => (adv.reads _ t).bind fun _ _ _ hl => ?_
  refine symbol.bind fun _ u le _ => (adv.reads _ u).bind fun _ _ _ hr => .pure ?_
  exact spansCons (spansWithRole hl) (spansSingle (spansWithRole hr)) le

theorem raiseStatement (adv : Advances rank r) : Forwards rank (raiseStatement r) := by
  refine fun _ => plainNode rfl (keyword.skip fun _ t _ => peek ?_)
  refine orEmpty (fun _ => expressions adv t) (fun _ _ _ => id) fun _ u _ hr => ?_
  refine acceptWord.bind fun _ v le _ => ite (fun _ => ?_) fun _ => .pure (spansTill hr le)
  exact (adv.reads _ v).bind fun _ _ _ h => .pure (spansAppend hr (spansSingle h) le)

theorem simpleStatement (adv : Advances rank r) : Forwards rank (simpleStatement r) := by
  intro s
  have behind {k : Kind} {p : Parser (List Concrete)} (plain : usesParts k = false)
      (valid : s.next? ≠ some .invalid) (hp : Forwards rank p) :
      Gives rank s (Parser.node k do
        let _ ← Parser.take
        p) (Upto rank (rank s.front)) :=
    plainNode plain ((take valid).skip fun _ t _ => hp t)
  refine peek ?_
  split
  · exact importStatement s
  · exact importFromStatement s
  · refine peekSecond (ite (fun _ => printStatement adv s) fun _ => ?_)
    exact either (wholeExpressionStatement adv s) (printStatement adv s)
  · exact either (wholeExpressionStatement adv s) (execStatement adv s)
  · exact either (typeAliasStatement adv s) (expressionStatement adv s)
  · exact behind rfl (known ‹_› (by nofun)) (commaSeparated (adv.reads _))
  · refine behind rfl (known ‹_› (by nofun)) fun t => peek (ite (fun _ => ?_) fun _ => ?_)
    · exact single (expressions adv t)
    · exact empty
  · exact marked rfl (known ‹_› (by nofun)) (expressions adv)
  · exact raiseStatement adv s
  · exact leaf rfl (known ‹_› (by nofun))
  · exact leaf rfl (known ‹_› (by nofun))
  · exact leaf rfl (known ‹_› (by nofun))
  · exact behind rfl (known ‹_› (by nofun)) (commaSeparated anyName)
  · exact behind rfl (known ‹_› (by nofun)) (commaSeparated anyName)
  · exact expressionStatement adv s

theorem statementLine (adv : Advances rank r) : Takes rank (statementLine r) := by
  intro s
  refine (simpleStatement adv s).bindRun fun _ t _ onward h => ?_
  refine (separated isNextForwards (simpleStatement adv) t).bindRun fun _ _ _ further hs => ?_
  refine (expect (by nofun)).bind fun _ _ le taken => .pure ⟨?_,?_⟩
  · exact spansTill (spansCons h (spansPresent hs) (Nat.le_refl _)) le
  · exact Nat.lt_of_lt_of_le taken.2 (onward.trans further).fewer

theorem body (adv : Advances rank r) : Forwards rank (body r) :=
  fun _ => symbol.skip fun _ t _ => (adv.reads _ t).bind fun _ _ _ h =>
    .pure (spansWithRole h)

theorem clause (adv : Advances rank r) {w : String} {k : Kind} (plain : usesParts k = false) :
    Forwards rank (do
      if ← Parser.isNext (.word w) then
        return [← Parser.node k do
          let _ ← Parser.take
          return [← Grammar.body r]]
      else return [] : Parser (List Concrete)) :=
  fun _ => ifNext (fun next => single (marked plain (known next (by nofun)) (body adv)))
    (empty)

theorem elseClause (adv : Advances rank r) : Forwards rank (elseClause r) := clause adv rfl

theorem finallyClause (adv : Advances rank r) : Forwards rank (finallyClause r) := clause adv rfl

theorem guarded (adv : Advances rank r) {β : Type} {R : Stream → β → Prop}
    {f : Concrete → Concrete → Parser β}
    (hf : ∀ c b t, rank s.front ≤ rank t.front → Spans rank (rank s.front) (rank t.front) [c,b] →
      Gives rank t (f c b) R) :
    Gives rank s (do
      let c ← r.full
      let b ← Grammar.body r
      f c b) R :=
  (adv.reads _ s).bind fun c t le hc => (body adv t).bind fun b u le' hb =>
    hf c b u (Nat.le_trans le le') (spansCons hc (spansSingle hb) (Nat.le_refl _))

theorem ifStatement (adv : Advances rank r) : Takes rank (ifStatement r) := by
  refine fun _ => plainPast rfl (keyword.past fun _ _ _ => guarded adv fun c b t _ hcb => ?_)
  refine (many (fun u => whenNext fun next => plainNode rfl ?_) t).bind fun _ v _ ho => ?_
  · refine (take (known next (by nofun))).skip fun _ _ _ => guarded adv fun _ _ _ _ h => ?_
    exact .pure h
  · refine (elseClause adv v).bind fun _ _ _ he => .pure ?_
    have before := spansAppend hcb ho (Nat.le_refl _)
    exact spansAppend before he (Nat.le_refl _)

theorem whileStatement (adv : Advances rank r) : Takes rank (whileStatement r) := by
  refine fun _ => plainPast rfl (keyword.past fun _ _ _ => guarded adv fun c b t _ hcb => ?_)
  refine (elseClause adv t).bind fun _ _ _ he => .pure ?_
  have all := spansAppend hcb he (Nat.le_refl _)
  exact all

theorem asyncMark : Forwards rank asyncMark := by
  refine fun s => here (acceptWord.bind fun _ _ le _ => ite (fun _ => ?_) fun _ => .pure (spansNil le))
  exact get (.pure (spansSingle (spansToken.mpr ⟨Nat.le_refl _,le⟩)))

theorem markable {w : String} {β : Type} {R : Stream → β → Prop} {f : List Concrete → Parser β}
    (hf : ∀ mark t, Spans rank (rank s.front) (rank t.front) mark → (∀ c ∈ mark, c.role? = none) →
      Gives rank t (f mark) R) :
    Gives rank s (do
      let mark ← Grammar.asyncMark
      let _ ← Parser.keyword w
      f mark) fun t b => R t b ∧ t.tokens.length < s.tokens.length := by
  refine ((asyncMark s).also asyncMarkRoles).bindRun fun mark t _ onward hm => ?_
  refine keyword.bind fun _ u le taken => fewer (Nat.lt_of_lt_of_le taken.2 onward.fewer) ?_
  exact hf mark u (spansTill hm.1 le) hm.2

theorem forStatement (adv : Advances rank r) : Takes rank (forStatement r) := by
  refine fun s => plainPast rfl (markable fun _ t hm _ => ?_)
  refine (loopTarget adv t).bind fun _ _ _ ht => keyword.bind fun _ v le _ => ?_
  refine (expressions adv v).bind fun _ w _ hi => (body adv w).bind fun _ x _ hb => ?_
  refine (elseClause adv x).bind fun _ _ _ he => .pure ?_
  have behind := spansCons hb he (Nat.le_refl _)
  exact spansAppend hm (spansCons (spansWithRole ht) (spansCons (spansWithRole hi) behind (Nat.le_refl _)) le)
    (Nat.le_refl _)

theorem exceptClause (adv : Advances rank r) : Forwards rank (exceptClause r) := by
  refine fun s => here (keyword.bind fun _ t le _ => get ?_)
  extract_lets grouped finish
  have finished {k : Kind} {cs : List Concrete} {u : Stream} (plain : usesParts k = false)
      (below : Spans rank (rank s.front) (rank u.front) cs) :
      Gives rank u (finish k cs) (Upto rank (rank s.front)) :=
    (body adv u).bind fun _ _ _ hh =>
      get (.pure (spansPlain plain (Nat.le_refl _) (spansAppend below (spansSingle hh) (Nat.le_refl _))))
  refine ite (fun star => ?_) fun _ => ifNext (fun _ => finished rfl (spansNil le)) ?_
  · have next : t.next? = some (.symbol "*") := by
      dsimp only [grouped] at star
      split at star
      · next tokens =>
        have lexeme := beq_iff_eq.mp (Bool.and_eq_true_iff.mp star).1
        simp [Stream.next?,tokens,lexeme]
      · cases star
    refine (take (known next (by decide))).bind fun _ u le' _ => (adv.reads _ u).bind fun _ _ _ h => ?_
    exact finished rfl (spansSingle (spansSince h (Nat.le_trans le le')))
  · refine (adv.reads _ t).bind fun c u _ hc => acceptSymbol.bind fun _ v le' _ => ?_
    have caught := spansWithRole (r := .value) (spansSince hc le)
    refine ite (fun _ => (adv.reads _ v).bind fun _ _ _ hn => ?_) fun _ => ?_
    · exact finished rfl (spansCons caught (spansSingle (spansWithRole hn)) le')
    · exact finished rfl (spansSingle (spansTill caught le'))

theorem tryStatement (adv : Advances rank r) : Takes rank (tryStatement r) := by
  refine fun _ => plainPast rfl (keyword.past fun _ t _ => (body adv t).bind fun _ u _ hb => ?_)
  refine (many (fun v => whenNext fun _ => exceptClause adv v) u).bind fun _ w le hh => ?_
  refine ite (fun _ => ?_) fun _ => ?_
  · refine (finallyClause adv w).bind fun _ _ _ hf => ?_
    split
    · exact fail
    · exact .pure (spansCons hb hf le)
  · refine (elseClause adv w).bind fun _ x _ he => (finallyClause adv x).bind fun _ _ _ hf => .pure ?_
    exact spansAppend (spansAppend (spansCons hb hh (Nat.le_refl _)) he (Nat.le_refl _)) hf (Nat.le_refl _)

theorem withItem (adv : Advances rank r) : Forwards rank (withItem r) :=
  fun s => plainNode rfl ((adv.reads _ s).bind fun _ _ _ h => .pure (spansSingle (spansWithRole h)))

theorem enclosedItems (adv : Advances rank r) : Forwards rank (enclosedItems r) := by
  refine fun _ => (plainNode rfl ?_).bind fun _ _ _ h => ifNext (fun _ => .pure h) fail
  refine symbol.skip fun _ t _ => (commaList (withItem adv) t).bind fun x _ _ hx => ?_
  have items : Spans rank _ _ x.1 := hx
  exact symbol.bind fun _ _ le _ => ite (fun _ => fail) fun _ => .pure (spansTill items le)

theorem openItems (adv : Advances rank r) : Forwards rank (openItems r) :=
  fun s => plainNode rfl ((commaList (withItem adv) s).bind fun _ _ _ hx => .pure hx)

theorem withStatement (adv : Advances rank r) : Takes rank (withStatement r) := by
  refine fun s => plainPast rfl (markable fun _ t hm _ => isNext ?_)
  refine branch (fun _ => either (enclosedItems adv t) (openItems adv t)) (fun _ => openItems adv t) ?_
  refine fun _ u _ hc => (body adv u).bind fun _ _ _ hb => .pure ?_
  exact spansAppend hm (spansCons hc (spansSingle hb) (Nat.le_refl _)) (Nat.le_refl _)

theorem typeParametersIfAny (adv : Advances rank r) : Forwards rank (typeParametersIfAny r) :=
  fun s => ifNext (fun _ => single (typeParameters adv s)) (empty)

theorem heading (adv : Advances rank r) {β : Type} {R : Stream → β → Prop}
    {f : Concrete → List Concrete → Parser β}
    (hf : ∀ name generic t, Spans rank (rank s.front) (rank t.front) (name.withRole .name :: generic) →
      (∀ role ≠ .name, ∀ c ∈ name.withRole .name :: generic, c.role? ≠ some role) →
      Gives rank t (f name generic) R) :
    Gives rank s (do
      let name ← Parser.anyName
      let generic ← Grammar.typeParametersIfAny r
      f name generic) R := by
  refine (anyName s).bind fun name t _ hn => ?_
  refine ((typeParametersIfAny adv t).also typeParametersRoles).bind fun generic u _ ⟨hg,noRoles⟩ => ?_
  refine hf name generic u (spansCons (spansWithRole hn) hg (Nat.le_refl _)) fun role other => ?_
  refine List.forall_mem_cons.mpr ⟨roleOther other.symm,fun c mem => ?_⟩
  simp [noRoles c mem]

theorem functionDefinition (adv : Advances rank r) : Takes rank (functionDefinition r) := by
  refine fun s => nodeWhere (markable fun mark _ hm noRoles => heading adv fun name generic u hn other => ?_)
  refine ((functionParameters adv u).also functionParametersFresh).bind fun ps _ _ ⟨hp,fresh⟩ => ?_
  refine acceptSymbol.bind fun _ x le' _ => ?_
  refine orEmpty (fun _ => adv.reads _ x) (fun _ _ _ => id) fun result y _ hr => ?_
  refine (body adv y).bind fun statements _ _ hb => .pure ⟨?_,?_,nofun,nofun⟩
  · have behind := spansCons (spansWithRole (r := .parameters) hp) hr le'
    have header := spansAppend (spansAppend hm hn (Nat.le_refl _)) behind (Nat.le_refl _)
    exact spansAppend header (spansSingle hb) (Nat.le_refl _)
  -- the type of the result may have any role, so the parts are cut right behind the parameters
  · have inOrder := @inRolesSplit .parameters .body
      (mark ++ name.withRole .name :: generic ++ [ps.withRole .parameters]) (result ++ [statements])
      (.inl ⟨ps.withRole .parameters,by simp,?_⟩) ?_
    · simpa [usedParts] using inOrder
    · exact roleOfNode (freshNamed fresh) .parameters
    · refine List.forall_mem_append.mpr ⟨List.forall_mem_append.mpr ⟨?_,other .body nofun⟩,?_⟩
      · exact fun c mem => by simp [noRoles c mem]
      · exact List.forall_mem_singleton.mpr (roleOther nofun)

theorem bodyRole : Always (Grammar.body r) fun c => c.role? ≠ some .superclasses :=
  .after fun _ => .after fun _ => .pure (roleOther nofun)

theorem classDefinition (adv : Advances rank r) : Takes rank (classDefinition r) := by
  refine fun s => nodeWhere (keyword.bind fun _ _ le taken => fewer taken.2 ?_)
  refine heading adv fun name generic u hn other => isNext ?_
  have laidOut {bases : List Concrete} {statements : Concrete} (noBody : ∀ c ∈ bases, c.role? ≠ some .body)
      (own : statements.role? ≠ some .superclasses) :
      LaidOut .classDefinition (name.withRole .name :: generic ++ bases ++ [statements]) := by
    refine ⟨inRolesSplit _ _ (.inr (List.forall_mem_singleton.mpr own)) ?_,nofun,nofun⟩
    exact List.forall_mem_append.mpr ⟨other .body nofun,noBody⟩
  have finish {bases : List Concrete} {t : Stream} (h : Spans rank (rank u.front) (rank t.front) bases)
      (noBody : ∀ c ∈ bases, c.role? ≠ some .body) : Gives rank t (do
        let statements ← Grammar.body r
        return name.withRole .name :: generic ++ bases ++ [statements])
        fun t cs => Upto rank (rank s.front) t cs ∧ LaidOut .classDefinition cs := by
    refine ((body adv t).also bodyRole).bind fun statements _ _ ⟨hb,own⟩ => .pure ⟨?_,laidOut noBody own⟩
    have header := spansAppend (spansSince hn le) h (Nat.le_refl _)
    exact spansAppend header (spansSingle hb) (Nat.le_refl _)
  refine ite (fun _ => (arguments adv u).bind fun a _ _ ha => ?_) fun _ => ?_
  · exact finish (spansSingle (spansWithRole ha)) (List.forall_mem_singleton.mpr (roleOther nofun))
  · exact finish (spansNil (Nat.le_refl _)) nofun

theorem definition (adv : Advances rank r) : Takes rank (definition r) :=
  fun s => ifNext (fun _ => classDefinition adv s) (functionDefinition adv s)

theorem laidOutDecorated {decorators : List Concrete} {d : Concrete}
    (fresh : ∀ c ∈ decorators, c.Fresh .decorator)
    (defined : d.Fresh .classDefinition ∨ d.Fresh .functionDefinition) :
    LaidOut .decoratedDefinition (decorators ++ [d.withRole .definition]) := by
  have named : d.isNamed = true := defined.elim freshNamed freshNamed
  have kind : (d.withRole .definition).kind? = some .classDefinition ∨
      (d.withRole .definition).kind? = some .functionDefinition := by
    rw [kindWithRole]
    exact defined.imp And.left And.left
  have picked : inRoles [.definition] (decorators ++ [d.withRole .definition]) = [d.withRole .definition] := by
    have nobody : ∀ c ∈ decorators, c.role? ≠ some .definition := fun c mem => by simp [(fresh c mem).2]
    have found := roleOfNode named .definition
    simp [inRolesOne,inRole,List.find?_append,nobodyIn nobody,found]
  have front : (decorators ++ [d.withRole .definition]).filter (fun c => c.hasKind .decorator) = decorators := by
    rw [List.filter_append,List.filter_eq_self.mpr fun c mem => by simp [Concrete.hasKind,(fresh c mem).1]]
    rcases kind with kind | kind <;> simp [Concrete.hasKind,kind]
  have used : usedParts .decoratedDefinition (decorators ++ [d.withRole .definition]) =
      decorators ++ [d.withRole .definition] := by rw [usedParts,front,picked]
  refine ⟨by simp only [used,List.Sublist.refl],fun compare => absurd compare (by decide),fun _ => ?_⟩
  rw [picked]
  exact List.forall_mem_singleton.mpr kind

theorem decoratedDefinition (adv : Advances rank r) : Takes rank (decoratedDefinition r) := by
  intro s
  refine nodeWhere (((many (fun t => ?_) s).also (E := fun cs => ∀ c ∈ cs, c.Fresh .decorator) ?_).bindRun ?_)
  · refine whenNext fun next => plainNode rfl ((take (known next (by nofun))).skip fun _ u _ => ?_)
    exact (adv.reads _ u).bind fun _ _ _ h => ending (expect (by nofun)) (spansSingle h)
  · refine Always.many (.after fun _ => .ite (.bind nodeFresh fun c fresh => .pure fun a same => ?_) (.pure nofun))
    exact Option.some.inj same ▸ fresh
  · rintro decorators t _ onward ⟨hd,fresh⟩
    refine ((definition adv t).also definitionFresh).bind fun d _ _ ⟨h,defined⟩ => .pure ⟨⟨?_,?_⟩,?_⟩
    · exact spansAppend hd (spansSingle (spansWithRole h.1)) (Nat.le_refl _)
    · exact laidOutDecorated fresh defined
    · exact Nat.lt_of_lt_of_le h.2 onward.fewer

theorem caseClause (adv : Advances rank r) : Forwards rank (caseClause r) := by
  refine fun _ => plainNode rfl (keyword.skip fun _ t _ => ?_)
  refine (commaList (adv.reads _) t).bind fun x u _ hx => isNext ?_
  refine orEmpty (fun next => ?_) (fun _ _ _ => id) fun _ v _ hg => (body adv v).bind fun _ _ _ hb => .pure ?_
  · exact marked rfl (known (of_decide_eq_true next) (by nofun)) (adv.reads _)
  · have patterns : Spans rank _ _ x.1 := hx
    exact spansAppend (spansAppend patterns hg (Nat.le_refl _)) (spansSingle hb) (Nat.le_refl _)

theorem matchBlock (adv : Advances rank r) : Forwards rank (matchBlock r) := by
  intro s
  refine (accept (by nofun)).skip fun _ t _ => ite (fun _ => ?_) fun _ => ?_
  · refine plainNode rfl ((many (fun u => whenNext fun _ => caseClause adv u) t).bind fun _ _ _ h => ?_)
    exact ending (expect (by nofun)) h
  · exact plainNode rfl (ending (expect (by nofun)) (spansNil (Nat.le_refl _)))

theorem matchStatement (adv : Advances rank r) : Takes rank (matchStatement r) := by
  refine fun _ => plainPast rfl (keyword.past fun _ t _ => ?_)
  refine (commaList (adv.reads _) t).bind fun x _ _ hx => symbol.bind fun _ v le _ => ?_
  refine (matchBlock adv v).bind fun _ _ _ hb => .pure ?_
  have subjects : Spans rank _ _ x.1 := hx
  exact spansAppend subjects (spansSingle (spansWithRole hb)) le

theorem statements (adv : Advances rank r) : Takes rank (statements r) := by
  intro s
  refine peek (peekSecond ?_)
  split
  · exact singlePast (ifStatement adv s)
  · exact singlePast (forStatement adv s)
  · exact singlePast (whileStatement adv s)
  · exact singlePast (tryStatement adv s)
  · exact singlePast (withStatement adv s)
  · exact singlePast (functionDefinition adv s)
  · exact singlePast (classDefinition adv s)
  · exact singlePast (decoratedDefinition adv s)
  · exact singlePast (functionDefinition adv s)
  · exact singlePast (forStatement adv s)
  · exact singlePast (withStatement adv s)
  · exact either (singlePast (matchStatement adv s)) (statementLine adv s)
  · exact statementLine adv s

theorem suite (adv : Advances rank r) : Forwards rank (suite r) := by
  intro s
  refine peek ?_
  split
  · refine (take (known ‹_› (by nofun))).skip fun _ t _ => plainNode rfl ?_
    refine .bind (α := List (List Concrete)) (many (fun u => ?_) t) fun _ _ _ h => ?_
    · exact ifNext (fun _ => nothing (Nat.le_refl _)) (present (statements adv u).upto)
    · exact ending (expect (by nofun)) (spansFlatten h)
  · refine plainNode rfl ((take (known ‹_› (by nofun))).bind fun _ _ le _ => .pure (spansNil le))
  · exact plainNode rfl (statementLine adv s).upto

end Gives
end ConventionLint.Grammar
