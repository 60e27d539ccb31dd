import ConventionLint.Proofs.Grammar.Onward

/-! Expressions, types and patterns lie between the tokens that they begin and end with, and what they
consist of comes in the order of the text. -/
namespace ConventionLint.Grammar

structure Advances (rank : Position → Nat) (r : Reader) : Prop where
  reads : ∀ g, Forwards rank (r g)
  operand : ∀ strength, GivesNode (r (.operand strength))

namespace Gives
open ConventionLint.Grammar.Parser ConventionLint.Grammar.Concrete
variable {rank : Position → Nat} {r : Reader} {s : Stream} {lo : Nat}

theorem anyName : Forwards rank anyName := by
  intro s
  refine peek ?_
  split
  · exact leaf rfl (known ‹_› (by nofun))
  · exact fail

theorem name : Forwards rank name := by
  intro s
  refine peek ?_
  split
  · exact .ite (fun _ => fail) fun _ => leaf rfl (known ‹_› (by nofun))
  · exact fail

theorem spansPatternBelow {cs : List Concrete} {k k' : Kind} {r : Option Role} {s : Span}
    {d : Concrete} {hi : Nat} (plain : usesParts k = false)
    (keep : ∀ ds lo, Concrete.toPatterns? cs = some ds → Spans rank lo hi cs → Spans rank lo hi ds)
    (found : (Concrete.toPatterns? cs).map (.node k r s) = some d)
    (h : Spans rank lo hi (Concrete.node k' r s cs)) : Spans rank lo hi d := by
  obtain ⟨ds,below,rfl⟩ := Option.map_eq_some_iff.mp found
  have ⟨start,_,inside⟩ := spansNode.mp h
  exact spansPlain plain start (keep ds _ below inside)

mutual

theorem spansPattern (c : Concrete) {lo hi : Nat} :
    ∀ d, c.toPattern? = some d → Spans rank lo hi c → Spans rank lo hi d := by
  intro d found h
  cases c with
  | token t s => simp [Concrete.toPattern?] at found
  | node k r s cs =>
    have ⟨start,_,below⟩ := spansNode.mp h
    unfold Concrete.toPattern? at found
    split at found
    all_goals try exact Option.some.inj found ▸ h
    all_goals try exact spansPatternBelow rfl (fun ds _ => spansPatterns cs ds) found h
    · split at found
      all_goals cases found
      all_goals exact spansPlain rfl start below
    · cases found

theorem spansPatterns (cs : List Concrete) {lo hi : Nat} :
    ∀ ds, Concrete.toPatterns? cs = some ds → Spans rank lo hi cs → Spans rank lo hi ds := by
  intro ds found h
  cases cs with
  | nil =>
    cases found
    exact h
  | cons c cs =>
    obtain ⟨mid,first,rest⟩ := h
    obtain ⟨p,ps,hp,hps,rfl⟩ := Concrete.toPatternsCons found
    exact ⟨mid,spansPattern c p hp first,spansPatterns cs ps hps rest⟩

end

theorem targetItem (adv : Advances rank r) : Forwards rank (targetItem r) := by
  intro s
  refine (adv.reads _ s).bind fun e _ _ he => ?_
  split
  · exact .pure (spansPattern e _ ‹_› he)
  · exact throw

theorem listed {k : Kind} {x : List Concrete × Bool} {start : Position} (plain : usesParts k = false)
    (h : Spans rank (rank start) (rank s.front) x) :
    Gives rank s (match x.1, x.2 with
      | [item], false => Pure.pure item
      | _, _ => do return Concrete.node k none ⟨start,(← MonadState.get).last⟩ x.1)
      (Upto rank (rank start)) := by
  obtain ⟨items,comma⟩ := x
  dsimp only
  split
  · exact .pure (spansMember (α := Concrete) h List.mem_cons_self)
  · exact get (.pure (spansPlain plain (Nat.le_refl _) h))

theorem loopTarget (adv : Advances rank r) : Forwards rank (loopTarget r) :=
  fun s => here ((commaList (targetItem adv) s).bind fun _ _ _ => listed rfl)

theorem atLoopClause : Forwards rank atLoopClause := by
  intro s
  refine peek (peekSecond ?_)
  split <;> exact .pure (Nat.le_refl _)

theorem loopClause (adv : Advances rank r) : Forwards rank (loopClause r) := by
  intro s
  refine plainNode rfl (acceptWord.skip fun _ _ _ => keyword.skip fun _ u _ => ?_)
  refine (loopTarget adv u).bind fun _ _ _ ht => keyword.bind fun _ v le _ => ?_
  refine (commaList (adv.reads _) v).bind fun _ _ _ hx => .pure ?_
  exact spansCons (spansWithRole ht) (spansMap (fun _ _ _ _ => spansWithRole) hx) le

theorem conditionClause (adv : Advances rank r) : Forwards rank (conditionClause r) :=
  fun _ => plainNode rfl (keyword.skip fun _ t _ => single (adv.reads _ t))

theorem comprehensionClauses (adv : Advances rank r) : Forwards rank (comprehensionClauses r) := by
  intro s
  refine (loopClause adv s).bind fun _ t _ h => (many (fun u => ?_) t).bind fun _ _ _ hs =>
    .pure (spansCons h hs (Nat.le_refl _))
  refine (atLoopClause u).bind fun _ v le _ => .since ?_ le
  exact .ite (fun _ => present (loopClause adv v)) fun _ => whenNext fun _ => conditionClause adv v

theorem orEmpty {c : Prop} [Decidable c] {p : Parser Concrete} {g : Concrete → Concrete} {β : Type}
    {R : Stream → β → Prop} {f : List Concrete → Parser β}
    (hp : c → Gives rank s p (Upto rank (rank s.front)))
    (hg : ∀ lo hi a, Spans rank lo hi a → Spans rank lo hi (g a))
    (hf : ∀ cs t, rank s.front ≤ rank t.front → Spans rank (rank s.front) (rank t.front) cs →
      Gives rank t (f cs) R) :
    Gives rank s (if c then p >>= fun a => Pure.pure [g a] >>= f else Pure.pure [] >>= f) R := by
  refine ite (fun h => (hp h).bind fun a t le ha => ?_) fun _ => ?_
  · exact hf [g a] t le (spansSingle (hg _ _ a ha))
  · exact hf [] s (Nat.le_refl _) (spansNil (Nat.le_refl _))

theorem expressionList {stops : Option Lexeme → Bool} (adv : Advances rank r) :
    Forwards rank (expressionList r stops) :=
  fun s => here ((commaList (adv.reads _) s).bind fun _ _ _ => listed rfl)

theorem expressions (adv : Advances rank r) : Forwards rank (expressions r) := expressionList adv

theorem yieldExpression (adv : Advances rank r) : Forwards rank (yieldExpression r) := by
  intro s
  refine plainNode rfl (keyword.skip fun _ t _ => ?_)
  refine acceptWord.skip fun _ u _ => .ite (fun _ => single (adv.reads _ u)) fun _ => ?_
  exact peek (ite (fun _ => single (expressions adv u)) fun _ => empty)

theorem expressionOrYield (adv : Advances rank r) : Forwards rank (expressionOrYield r) :=
  fun s => ifNext (fun _ => yieldExpression adv s) (expressions adv s)

theorem formatSpecifier {hole : Kind → Parser Concrete} (hh : ∀ k, usesParts k = false → Forwards rank (hole k)) :
    Forwards rank (formatSpecifier hole) := by
  intro s
  refine plainNode rfl ((expect (by nofun)).skip fun _ t _ => many (fun u => ?_) t)
  exact whenNext fun _ => hh _ rfl u

theorem holeBounded (adv : Advances rank r) (n : Nat) {k : Kind} (plain : usesParts k = false) :
    Forwards rank (holeBounded r n k) := by
  induction n generalizing k with
  | zero => exact fun _ => fail
  | succ n ih =>
    intro s
    refine plainNode plain ((expect (by nofun)).skip fun _ t _ => ?_)
    refine (expressionOrYield adv t).bind fun _ _ _ hv => acceptSymbol.bind fun _ u _ _ => ?_
    refine isNext (orEmpty (fun h => ?_) (fun _ _ _ => id) fun _ v _ hc => ?_)
    · exact leaf rfl (known (of_decide_eq_true h) (by nofun))
    refine isNext (orEmpty (fun h => ?_) (fun _ _ _ => id) fun _ w _ hf => ending (expect (by nofun)) ?_)
    · exact formatSpecifier (fun k plain => ih plain) v
    · exact spansAppend (spansCons (spansWithRole hv) hc ‹_›) hf (Nat.le_refl _)

theorem stringLiteral (adv : Advances rank r) : Forwards rank (stringLiteral r) := by
  intro s
  refine plainNode rfl ((expect (by nofun)).skip fun _ t _ => ?_)
  refine (many (fun u => ?_) t).bind fun _ _ _ hs => ending (expect (by nofun)) hs
  refine ifNext (fun _ => get (present ?_)) (nothing (Nat.le_refl _))
  exact holeBounded adv _ rfl u

theorem strings (adv : Advances rank r) : Forwards rank (strings r) := by
  intro s
  refine (stringLiteral adv s).bind fun _ t _ first => ifNext (fun _ => ?_) (.pure first)
  exact plainExtend rfl first (many (fun u => whenNext fun _ => stringLiteral adv u) t)

theorem starred (adv : Advances rank r) : Forwards rank (starred r) :=
  fun _ => plainNode rfl (symbol.skip fun _ t _ => single (adv.reads _ t))

theorem doubleStarred (adv : Advances rank r) : Forwards rank (doubleStarred r) :=
  fun _ => plainNode rfl (symbol.skip fun _ t _ => single (adv.reads _ t))

theorem element (adv : Advances rank r) : Forwards rank (element r) :=
  fun s => ifNext (fun _ => starred adv s)
    (ifNext (fun _ => yieldExpression adv s) (adv.reads _ s))

theorem elementsAfter (adv : Advances rank r) {first : Concrete} {closing : String}
    (h : Spans rank lo (rank s.front) first) :
    Gives rank s (elementsAfter r first closing) (Upto rank lo) :=
  (separated isNextForwards (element adv) s).bind fun _ _ _ hs =>
    .pure (spansCons h (spansPresent hs) (Nat.le_refl _))

theorem closedClauses (adv : Advances rank r) {w : String} {k : Kind} {start : Position} {first : Concrete}
    (plain : usesParts k = false) (h : Spans rank (rank start) (rank s.front) first) :
    Gives rank s (do
      let clauses ← Grammar.comprehensionClauses r
      let _ ← Parser.symbol w
      return Concrete.node k none ⟨start,(← MonadState.get).last⟩ (first.withRole .body :: clauses))
      (Upto rank (rank start)) :=
  (comprehensionClauses adv s).bind fun _ _ _ rest =>
    closed plain (spansCons (spansWithRole h) rest (Nat.le_refl _))

theorem parenthesized (adv : Advances rank r) : Forwards rank (parenthesized r) := by
  intro s
  refine here (symbol.bind fun _ t le _ => ifNext (fun _ => closed rfl (spansNil le)) ?_)
  refine (element adv t).bind fun _ u _ first => (atLoopClause u).bind fun _ v _ _ => ?_
  have before := Spanned.widen first le ‹_›
  refine ite (fun _ => closedClauses adv rfl before) fun _ => ?_
  refine (elementsAfter adv before).bind fun x _ _ hx => ?_
  exact ite (fun _ => closed rfl hx) fun _ => closed rfl hx

theorem bracketed (adv : Advances rank r) : Forwards rank (bracketed r) := by
  intro s
  refine here (symbol.bind fun _ t le _ => ifNext (fun _ => closed rfl (spansNil le)) ?_)
  refine (element adv t).bind fun _ u _ first => (atLoopClause u).bind fun _ v _ _ => ?_
  have before := Spanned.widen first le ‹_›
  refine ite (fun _ => closedClauses adv rfl before) fun _ => ?_
  exact (elementsAfter adv before).bind fun _ _ _ hx => closed rfl hx

theorem pairAfter (adv : Advances rank r) {key : Concrete} (h : Spans rank lo (rank s.front) key) :
    Gives rank s (pairAfter r key) (Upto rank lo) := by
  refine extend (spansWithRole h) (symbol.bind fun _ t le _ => (adv.reads _ t).bind fun _ _ _ hv => ?_)
  refine .pure ⟨spansSingle (spansSince (spansWithRole hv) le),?_⟩
  exact ⟨inRolesPair nofun,nofun,nofun⟩

theorem dictionaryEntry (adv : Advances rank r) : Forwards rank (dictionaryEntry r) :=
  fun s => ifNext (fun _ => doubleStarred adv s) ((adv.reads _ s).bind fun _ _ _ h => pairAfter adv h)

theorem dictionaryAfter (adv : Advances rank r) {first : Concrete}
    (h : Spans rank lo (rank s.front) first) :
    Gives rank s (dictionaryAfter r first) (Upto rank lo) :=
  (separated isNextForwards (dictionaryEntry adv) s).bind fun _ _ _ hs =>
    .pure (spansCons h (spansPresent hs) (Nat.le_refl _))

theorem braced (adv : Advances rank r) : Forwards rank (braced r) := by
  intro s
  refine here (symbol.bind fun _ t le _ => ifNext (fun _ => closed rfl (spansNil le)) ?_)
  refine ifNext (fun _ => ?_) ?_
  · refine (doubleStarred adv t).bind fun _ _ _ h => ?_
    exact (dictionaryAfter adv (spansSince h le)).bind fun _ _ _ all => closed rfl all
  refine (element adv t).bind fun _ u _ first => ?_
  have before := spansSince first le
  refine ifNext (fun _ => ?_) ?_
  · refine (pairAfter adv before).bind fun _ v _ hp => (atLoopClause v).bind fun _ w above _ => ?_
    have entry := spansTill hp above
    refine ite (fun _ => closedClauses adv rfl entry) fun _ => ?_
    exact (dictionaryAfter adv entry).bind fun _ _ _ all => closed rfl all
  · refine (atLoopClause u).bind fun _ v above _ => ?_
    have item := spansTill before above
    refine ite (fun _ => closedClauses adv rfl item) fun _ => ?_
    exact (elementsAfter adv item).bind fun _ _ _ hx => closed rfl hx

theorem keywordArgument (adv : Advances rank r) : Forwards rank (keywordArgument r) := by
  intro s
  refine plainNode rfl ((anyName s).bind fun _ _ _ hn => symbol.bind fun _ u le _ => ?_)
  refine (adv.reads _ u).bind fun _ _ _ hv => .pure ?_
  exact spansCons (spansWithRole hn) (spansSingle (spansWithRole hv)) le

theorem argument (adv : Advances rank r) : Forwards rank (argument r) := by
  intro s
  refine peek (peekSecond ?_)
  split
  · exact starred adv s
  · exact doubleStarred adv s
  · exact keywordArgument adv s
  · exact adv.reads _ s

theorem arguments (adv : Advances rank r) : Forwards rank (arguments r) := by
  intro s
  refine here (symbol.bind fun _ t le _ => ifNext (fun _ => closed rfl (spansNil le)) ?_)
  refine (argument adv t).bind fun _ u _ first => (atLoopClause u).bind fun _ v above _ => ?_
  have before := Spanned.widen first le above
  refine ite (fun _ => closedClauses adv rfl before) fun _ => ?_
  exact (separated isNextForwards (argument adv) v).bind fun _ _ _ all =>
    closed rfl (spansCons before (spansPresent all) (Nat.le_refl _))

theorem subscriptItem (adv : Advances rank r) : Forwards rank (subscriptItem r) := by
  have bound : Forwards rank (do
      if startsExpression (← Parser.peek) then return [← r.full] else return [] :
        Parser (List Concrete)) :=
    fun s => peek (ite (fun _ => single (adv.reads _ s)) fun _ => empty)
  intro s
  refine here ((bound s).bind fun lower t _ hl => acceptSymbol.bind fun _ u le _ => ite (fun _ => ?_) fun _ => ?_)
  · refine (bound u).bind fun _ v _ hu => acceptSymbol.bind fun _ w le' _ => ?_
    refine branch (fun _ => bound w) (fun _ => empty) fun _ _ _ ht => ?_
    exact get (.pure (spansPlain rfl (Nat.le_refl _) (spansAppend (spansAppend hl hu le) ht le')))
  · split
    · exact .pure (spansTill (spansMember hl List.mem_cons_self) le)
    · exact fail

theorem trailer (adv : Advances rank r) {e : Concrete} (h : Spans rank lo (rank s.front) e) :
    Gives rank s (trailer r e) (Upto rank lo) := by
  have own {role : Role} := spansWithRole (r := role) h
  refine peek ?_
  split
  · refine map (P := Upto rank lo) (plainExtend rfl own ?_) fun _ _ => spansSome.mpr
    refine (take (known ‹_› (by nofun))).skip fun _ t _ => (anyName t).bind fun _ _ _ hn => ?_
    exact .pure (spansSingle (spansWithRole hn))
  · refine map (P := Upto rank lo) (plainExtend rfl own ?_) fun _ _ => spansSome.mpr
    refine (take (known ‹_› (by nofun))).skip fun _ t _ => ?_
    exact (commaList (subscriptItem adv) t).bind fun _ _ _ hx => ending symbol hx
  · refine map (P := Upto rank lo) (extend own ?_) fun _ _ => spansSome.mpr
    refine (arguments adv s).bind fun _ _ _ ha => .pure ⟨spansSingle (spansWithRole ha),?_⟩
    exact ⟨inRolesPair nofun,nofun,nofun⟩
  · exact nothing (Spanned.le h)

theorem plainAtom (adv : Advances rank r) : Forwards rank (plainAtom r) := by
  intro s
  refine peek ?_
  split
  case h_4 => exact name s
  case h_7 => exact strings adv s
  case h_9 => exact parenthesized adv s
  case h_10 => exact bracketed adv s
  case h_11 => exact braced adv s
  case h_12 => exact fail
  all_goals exact leaf rfl (known ‹_› (by nofun))

def Trailed (rank : Position → Nat) (s : Stream) (lo : Nat) (u : Stream)
    (x : Concrete × Option (Concrete × Stream)) : Prop :=
  Upto rank lo u x.1 ∧ ∀ e t, x.2 = some (e,t) → Onward rank s t ∧ Spans rank lo (rank t.front) e

theorem trailedTarget {e : Concrete} {t : Stream} {best : Option (Concrete × Stream)}
    (onward : Onward rank s t) (he : Spans rank lo (rank t.front) e)
    (hb : ∀ e' u, best = some (e',u) → Onward rank s u ∧ Spans rank lo (rank u.front) e') :
    Trailed rank s lo t (e,if isSplatTarget e then some (e,t) else best) := by
  refine ⟨he,fun e' u same => ?_⟩
  split at same
  · cases same
    exact ⟨onward,he⟩
  · exact hb e' u same

theorem splatTarget (adv : Advances rank r) : Forwards rank (splatTarget r) := by
  intro s
  refine (plainAtom adv s).bind fun first t _ hf => get fun ready => ?_
  -- the reading goes on behind the best target, from which the trailers may have come farther
  refine backTo (growKept (I := Trailed rank t (rank s.front)) ?_ ?_ ?_) ?_ ready
  · exact fun _ _ _ onward own => ⟨spansTill own.1 onward.front,own.2⟩
  · rintro ⟨e,best⟩ u onward ⟨he,hb⟩
    refine (trailer adv he).bindRun fun o v _ further ho => ?_
    split
    · exact .pure nofun
    · refine get (.pure fun b same => ?_)
      exact Option.some.inj same ▸ trailedTarget (onward.trans further) (spansSome.mp ho) hb
  · exact trailedTarget (.refl ready) hf nofun
  · rintro ⟨e,best⟩ u _ _ ⟨_,hb⟩ c v ok
    cases best with
    | none => cases ok
    | some x =>
      cases ok
      exact hb _ _ rfl

theorem splat (adv : Advances rank r) : Forwards rank (splat r) :=
  fun _ => plainNode rfl (symbol.skip fun _ t _ => single (splatTarget adv t))

theorem atom (adv : Advances rank r) : Forwards rank (atom r) :=
  fun s => isNext (branch (fun _ => splat adv s) (fun _ => plainAtom adv s) fun _ _ _ h =>
    grow (fun _ _ => trailer adv) h)

theorem parameterPattern (adv : Advances rank r) : Forwards rank (parameterPattern r) := by
  intro s
  refine (adv.reads _ s).bind fun e _ _ he => ?_
  split
  · exact .ite (fun _ => .pure (spansPattern e _ ‹_› he)) fun _ => throw
  · exact throw

theorem extendBehind {k : Kind} {c : Concrete} {p : Parser Concrete} {g : Concrete → Concrete}
    (plain : usesParts k = false) (valid : s.next? ≠ some .invalid)
    (first : Spans rank lo (rank s.front) c) (hp : Forwards rank p)
    (hg : ∀ lo hi a, Spans rank lo hi a → Spans rank lo hi (g a)) :
    Gives rank s (Parser.extend k c do
      let _ ← Parser.take
      return [g (← p)]) (Upto rank lo) :=
  plainExtend plain first ((take valid).skip fun _ t _ => (hp t).bind fun a _ _ h =>
    .pure (spansSingle (hg _ _ a h)))

theorem annotated (adv : Advances rank r) {typed : Bool} {p : Concrete}
    (h : Spans rank lo (rank s.front) p) : Gives rank s (annotated r typed p) (Upto rank lo) := by
  refine isNext (ite (fun next => ?_) fun _ => .pure h)
  have colon := of_decide_eq_true (Bool.and_eq_true_iff.mp next).2
  exact extendBehind rfl (known colon (by nofun)) h (adv.reads _) fun _ _ _ => id

theorem starredParameter (adv : Advances rank r) {typed : Bool} {star : String} {k : Kind}
    (plain : usesParts k = false) : Forwards rank (starredParameter r typed star k) := by
  intro s
  refine (plainNode plain (symbol.skip fun _ t _ => single (anyName t))).bind ?_
  exact fun _ _ _ h => annotated adv h

theorem namedParameter (adv : Advances rank r) {typed : Bool} : Forwards rank (namedParameter r typed) := by
  intro s
  refine (anyName s).bind fun name t _ hn => isNext (ite (fun next => ?_) fun _ => ?_)
  · have colon := of_decide_eq_true (Bool.and_eq_true_iff.mp next).2
    have ⟨begins,_⟩ := spansStart hn
    have own := spansFromStart hn
    refine (take (known colon (by nofun))).bind fun _ u le _ => (adv.reads _ u).bind fun _ v _ ht => ?_
    refine acceptSymbol.bind fun _ w le' _ => ite (fun _ => ?_) fun _ => ?_
    · refine (adv.reads _ w).bind fun _ _ _ hv => get (.pure (spansPlain rfl begins ?_))
      exact spansCons (spansWithRole own) (spansCons ht (spansSingle (spansWithRole hv)) le') le
    · refine get (.pure (spansPlain rfl begins (spansTill ?_ le')))
      exact spansCons own (spansSingle ht) le
  · refine ifNext (fun next => ?_) (.pure hn)
    exact extendBehind rfl (known next (by nofun)) (spansWithRole hn) (adv.reads _) fun _ _ _ => spansWithRole

theorem parameter (adv : Advances rank r) {typed : Bool} : Forwards rank (parameter r typed) := by
  intro s
  refine peek ?_
  split
  · exact leaf rfl (known ‹_› (by nofun))
  · refine peekSecond ?_
    split
    · exact starredParameter adv rfl s
    · exact leaf rfl (known ‹_› (by nofun))
  · exact starredParameter adv rfl s
  · refine (parameterPattern adv s).bind fun _ t _ hp => ifNext (fun next => ?_) (.pure hp)
    exact extendBehind rfl (known next (by nofun)) (spansWithRole hp) (adv.reads _) fun _ _ _ => spansWithRole
  · exact namedParameter adv s

theorem parametersUpTo (adv : Advances rank r) {typed : Bool} {closing : String} :
    Forwards rank (parametersUpTo r typed closing) :=
  fun s => ifNext (fun _ => empty)
    ((commaList (parameter adv) s).bind fun _ _ _ hx => .pure hx)

theorem functionParameters (adv : Advances rank r) : Forwards rank (functionParameters r) :=
  fun _ => plainNode rfl (symbol.skip fun _ t _ =>
    (parametersUpTo adv t).bind fun _ _ _ h => ending symbol h)

theorem lambdaParameters (adv : Advances rank r) : Forwards rank (lambdaParameters r) :=
  fun s => ifNext (fun _ => empty)
    ((plainNode rfl (parametersUpTo adv s)).bind fun _ _ _ h => .pure (spansSingle (spansWithRole h)))

theorem typeParameters (adv : Advances rank r) : Forwards rank (typeParameters r) :=
  fun _ => plainNode rfl (symbol.skip fun _ t _ =>
    (commaList (adv.reads _) t).bind fun _ _ _ hx => ending symbol hx)

theorem marked {k : Kind} {p : Parser Concrete} (plain : usesParts k = false)
    (valid : s.next? ≠ some .invalid) (hp : Forwards rank p) :
    Gives rank s (Parser.node k do
      let _ ← Parser.take
      return [← p]) (Upto rank (rank s.front)) :=
  plainNode plain ((take valid).skip fun _ t _ => single (hp t))

theorem typeHead (adv : Advances rank r) : Forwards rank (typeHead r) := by
  intro s
  refine plainNode rfl (peek (peekSecond ?_))
  split
  · exact single (marked rfl (known ‹_› (by nofun)) anyName)
  · exact single (marked rfl (known ‹_› (by nofun)) anyName)
  · refine ite (fun _ => fail) fun _ => (name s).bind fun _ t _ hb => ?_
    exact single (plainExtend rfl hb (single (typeParameters adv t)))
  · exact single (adv.reads _ s)

theorem wrapType {k : Kind} {c : Concrete} {p : Parser (List Concrete)}
    (hp : Gives rank s (Parser.extend k c p) (Upto rank lo)) :
    Gives rank s (wrapType c k p) (Upto rank lo) :=
  hp.bind fun _ _ _ h => .pure (spansPlain rfl (spansStart h).1 (spansSingle (spansFromStart h)))

theorem typeTail (adv : Advances rank r) {bounded : Bool} {t : Concrete}
    (h : Spans rank lo (rank s.front) t) : Gives rank s (typeTail r bounded t) (Upto rank lo) := by
  have wrapped {k : Kind} {p : Parser Concrete} (plain : usesParts k = false)
      (valid : s.next? ≠ some .invalid) (hp : Forwards rank p) :
      Gives rank s (some <$> Grammar.wrapType t k do
        let _ ← Parser.take
        return [← p]) (Upto rank lo) :=
    map (P := Upto rank lo) (wrapType (extendBehind plain valid h hp fun _ _ _ => id))
      fun _ _ => spansSome.mpr
  refine peek ?_
  split
  · exact wrapped rfl (known ‹_› (by nofun)) (typeHead adv)
  · exact wrapped rfl (known ‹_› (by nofun)) anyName
  · exact ite (fun _ => wrapped rfl (known ‹_› (by nofun)) (adv.reads _)) fun _ => nothing (Spanned.le h)
  · exact nothing (Spanned.le h)

theorem typeForm (adv : Advances rank r) {bounded : Bool} : Forwards rank (typeForm r bounded) :=
  fun s => (typeHead adv s).bind fun _ _ _ h => grow (fun _ _ => typeTail adv) h

theorem signed (adv : Advances rank r) : Forwards rank (signed r) := by
  intro s
  refine peek ?_
  split
  · exact marked rfl (known ‹_› (by nofun)) (adv.reads _)
  · exact marked rfl (known ‹_› (by nofun)) (adv.reads _)
  · exact marked rfl (known ‹_› (by nofun)) (adv.reads _)
  · exact peekSecond (ite (fun _ => marked rfl (known ‹_› (by nofun)) (adv.reads _)) fun _ => atom adv s)
  · exact atom adv s

theorem operand (adv : Advances rank r) {strength : Nat} : Forwards rank (operand r strength) := by
  refine fun s => (signed adv s).bind fun _ _ _ h => grow (fun _ t hl => peek ?_) h
  split
  · split
    · refine ite (fun _ => nothing (Spanned.le hl)) fun _ => ?_
      refine map (P := Upto rank _) (extendBehind rfl (known ‹_› (by nofun)) (spansWithRole hl) (adv.reads _) ?_) ?_
      · exact fun _ _ _ => spansWithRole
      · exact fun _ _ => spansSome.mpr
    · exact nothing (Spanned.le hl)
  · exact nothing (Spanned.le hl)

theorem mark {start : Position} {text : String} (le : rank start ≤ rank s.front) :
    Gives rank s (do return some (Concrete.token text ⟨start,(← MonadState.get).last⟩) :
      Parser (Option Concrete)) (Upto rank (rank start)) :=
  get (.pure (spansSome.mpr (spansToken.mpr ⟨Nat.le_refl _,le⟩)))

theorem comparisonOperator : Forwards rank comparisonOperator? := by
  intro s
  refine here (peek ?_)
  split
  · refine ite (fun _ => ?_) fun _ => nothing (Nat.le_refl _)
    exact (take (known ‹_› (by nofun))).bind fun _ _ le _ => mark le
  · exact (take (known ‹_› (by nofun))).bind fun _ _ le _ => mark le
  · refine (take (known ‹_› (by nofun))).bind fun _ _ _ _ => acceptWord.bind fun _ _ _ _ => ?_
    exact ite (fun _ => mark (by omega)) fun _ => mark (by omega)
  · refine peekSecond (ite (fun second => ?_) fun _ => nothing (Nat.le_refl _))
    -- the word behind is known as the second token, and as the next one only when `not` is taken
    refine (take (known ‹_› (by nofun))).bindRun fun _ t first onward _ => ?_
    have next := (secondAfterTake first).trans second
    exact (take (known next (by nofun))).bind fun _ _ le _ => mark (Nat.le_trans onward.front le)
  · exact nothing (Nat.le_refl _)

theorem comparison (adv : Advances rank r) : Forwards rank (comparison r) := by
  intro s
  refine ((adv.reads _ s).also (adv.operand _)).bind fun left t _ ⟨hl,named⟩ => ?_
  refine .bind (α := List (List Concrete)) (many (fun u => ?_) t) fun _ v le hr => ?_
  · refine (comparisonOperator u).bind fun o w le ho => ?_
    split
    · refine (adv.reads _ w).bind fun _ _ _ h => .pure (spansSome.mpr ?_)
      exact spansCons (spansSome.mp ho) (spansSingle h) (Nat.le_refl _)
    · exact nothing le
  · refine ite (fun _ => .pure (spansTill hl le)) fun _ => get (.pure ?_)
    refine spansNode.mpr ⟨(spansStart hl).1,⟨List.nil_sublist _,?_,nofun⟩,?_⟩
    · exact fun _ => ⟨left,List.mem_cons_self,named⟩
    · exact spansCons (spansFromStart hl) (spansFlatten hr) (Nat.le_refl _)

theorem lambda (adv : Advances rank r) {body : Parser Concrete} (hb : Forwards rank body) :
    Forwards rank (lambda r body) := by
  intro s
  refine plainNode rfl (keyword.skip fun _ t _ => ?_)
  refine (lambdaParameters adv t).bind fun _ _ _ hp => symbol.bind fun _ u le _ => ?_
  exact (hb u).bind fun _ _ _ h => .pure (spansAppend hp (spansSingle (spansWithRole h)) le)

theorem namedExpression (adv : Advances rank r) : Forwards rank (namedExpression r) := by
  intro s
  refine plainNode rfl ((name s).bind fun _ _ _ hn => symbol.bind fun _ u le _ => ?_)
  refine (adv.reads _ u).bind fun _ _ _ hv => .pure ?_
  exact spansCons (spansWithRole hn) (spansSingle (spansWithRole hv)) le

theorem expressionHead (adv : Advances rank r) : Forwards rank (expressionHead r) := by
  intro s
  refine peek (peekSecond ?_)
  split
  · exact lambda adv (adv.reads _) s
  · exact marked rfl (known ‹_› (by nofun)) (adv.reads _)
  · exact .ite (fun _ => comparison adv s) fun _ => namedExpression adv s
  · exact comparison adv s

theorem weaken (adv : Advances rank r) {strength : Nat} {left : Concrete}
    (h : Spans rank lo (rank s.front) left) : Gives rank s (weaken r strength left) (Upto rank lo) := by
  have nothingRead := nothing (α := Concrete) (Spanned.le h)
  have joined (p : Nat) (valid : s.next? ≠ some .invalid) : Gives rank s (do
      if p < strength then return none
      else some <$> Parser.extend .booleanOperator (left.withRole .left) do
        let _ ← Parser.take
        return [(← r (.expression (p + 1))).withRole .right] : Parser (Option Concrete)) (Upto rank lo) := by
    refine ite (fun _ => nothingRead) fun _ => map (P := Upto rank lo) ?_ fun _ _ => spansSome.mpr
    exact extendBehind rfl valid (spansWithRole h) (adv.reads _) fun _ _ _ => spansWithRole
  refine peek ?_
  split
  · exact joined _ (known ‹_› (by nofun))
  · exact joined _ (known ‹_› (by nofun))
  · refine ite (fun _ => nothingRead) fun _ => map (P := Upto rank lo) ?_ fun _ _ => spansSome.mpr
    refine extendBehind rfl (known ‹_› (by nofun)) h (fun t => ?_) fun _ _ _ => spansWithRole
    exact plainNode rfl (single (adv.reads _ t))
  · refine ite (fun _ => nothingRead) fun _ => map (P := Upto rank lo) (plainExtend rfl h ?_) fun _ _ => spansSome.mpr
    refine (take (known ‹_› (by nofun))).skip fun _ t _ => ?_
    refine (adv.reads _ t).bind fun _ u _ hc => keyword.bind fun _ v le _ => ?_
    exact (adv.reads _ v).bind fun _ _ _ he => .pure (spansCons hc (spansSingle he) le)
  · exact nothingRead

theorem expression (adv : Advances rank r) {strength : Nat} : Forwards rank (expression r strength) :=
  fun s => (expressionHead adv s).bind fun _ _ _ h => grow (fun _ _ => weaken adv) h

theorem clauseExpression (adv : Advances rank r) : Forwards rank (clauseExpression r) :=
  fun s => ifNext (fun _ => lambda adv (adv.reads _) s) (adv.reads _ s)

theorem dottedName : Forwards rank dottedName := by
  intro s
  refine plainNode rfl ((anyName s).bind fun _ t _ h => (many (fun u => ?_) t).bind fun _ _ _ hs =>
    .pure (spansCons h hs (Nat.le_refl _)))
  refine acceptSymbol.bind fun _ v le _ => ite (fun _ => ?_) fun _ => nothing le
  exact present ((anyName v).since le)

theorem patternsUpTo (adv : Advances rank r) {closing : String} :
    Forwards rank (patternsUpTo r closing) := by
  refine fun s => acceptSymbol.skip fun _ t _ => ite (fun _ => empty) ?_
  exact fun _ => (commaList (adv.reads _) t).bind fun _ _ _ hx => ending symbol hx

theorem number : Forwards rank number := by
  intro s
  refine peek ?_
  split
  · exact leaf rfl (known ‹_› (by nofun))
  · exact leaf rfl (known ‹_› (by nofun))
  · exact fail

theorem numberPattern : Forwards rank numberPattern := by
  intro s
  refine here (acceptSymbol.bind fun _ t le _ => (number t).bind fun _ u _ first => ?_)
  have alone := spansSince first le
  refine peek ?_
  split
  · refine ite (fun _ => ?_) fun _ => .pure (spansSingle alone)
    refine (take (known ‹_› (by nofun))).bind fun _ v le' _ => (number v).bind fun _ _ _ second => ?_
    refine get (.pure (spansSingle (spansPlain rfl (Nat.le_refl _) ?_)))
    exact spansCons alone (spansSingle second) le'
  · exact .pure (spansSingle alone)

theorem splatPattern {star : String} : Forwards rank (splatPattern star) := by
  refine fun _ => plainNode rfl (symbol.skip fun _ t _ => ?_)
  refine acceptWord.skip fun _ u _ => ite (fun _ => empty) ?_
  exact fun _ => single (anyName u)

theorem simplePattern (adv : Advances rank r) : Forwards rank (simplePattern r) := by
  intro s
  refine peek ?_
  split
  · exact single (splatPattern s)
  · exact single (splatPattern s)
  · exact single (plainNode rfl ((take (known ‹_› (by nofun))).skip fun _ t _ => patternsUpTo adv t))
  · exact single (plainNode rfl ((take (known ‹_› (by nofun))).skip fun _ t _ => patternsUpTo adv t))
  · exact numberPattern s
  · exact numberPattern s
  · exact numberPattern s
  · exact single (strings adv s)
  · exact single (leaf rfl (known ‹_› (by nofun)))
  · exact single (leaf rfl (known ‹_› (by nofun)))
  · exact single (leaf rfl (known ‹_› (by nofun)))
  · refine ite (fun _ => fail) fun _ => peekSecond (peekSecond (ite (fun _ => ?_) fun _ => ?_))
    · exact (take (known ‹_› (by nofun))).bind fun _ _ le _ => .pure (spansNil le)
    · refine (dottedName s).bind fun _ t _ h => ifNext (fun next => ?_) (.pure (spansSingle h))
      refine single (plainExtend rfl h ?_)
      exact (take (known next (by nofun))).skip fun _ u _ => patternsUpTo adv u
  · exact fail

theorem unionOf {start : Position} {first : List Concrete} {one : Parser (List Concrete)}
    (hf : Spans rank (rank start) (rank s.front) first) (ho : Forwards rank one) :
    Gives rank s (unionOf start first one) (Upto rank (rank start)) := by
  refine .bind (α := List (List Concrete)) (many (fun t => ?_) s) fun _ _ le rest => ?_
  · refine acceptSymbol.bind fun _ u le _ => ite (fun _ => ?_) fun _ => nothing le
    exact present ((ho u).since le)
  · refine ite (fun _ => .pure (spansTill hf le)) fun _ => get (.pure ?_)
    exact spansSingle (spansPlain rfl (Nat.le_refl _) (spansAppend hf (spansFlatten rest) (Nat.le_refl _)))

theorem mappingPattern (adv : Advances rank r) {one : Parser (List Concrete)} (ho : Forwards rank one) :
    Forwards rank (mappingPattern r one) := by
  intro s
  refine plainNode rfl (symbol.skip fun _ _ _ => acceptSymbol.skip fun _ t _ => ?_)
  refine ite (fun _ => empty) fun _ => ?_
  refine (commaList (α := List Concrete) (fun u => ?_) t).bind fun _ _ _ hx => ending symbol (spansFlatten hx)
  refine peek ?_
  split
  · exact single (splatPattern u)
  · exact single (splatPattern u)
  · refine here ((ho u).bind fun _ v _ hf => (unionOf hf ho).bind fun _ _ _ hk => ?_)
    refine symbol.bind fun _ w le _ => (adv.reads _ w).bind fun _ _ _ hv => .pure ?_
    exact spansAppend (spansMap (fun _ _ _ _ => spansWithRole) hk) (spansSingle (spansWithRole hv)) le

theorem alternativeBounded (adv : Advances rank r) (n : Nat) : Forwards rank (alternativeBounded r n) := by
  induction n with
  | zero => exact fun _ => fail
  | succ n ih => exact fun s => ifNext (fun _ => single (mappingPattern adv ih s)) (simplePattern adv s)

theorem alternative (adv : Advances rank r) : Forwards rank (alternative r) :=
  fun s => get (alternativeBounded adv _ s)

theorem keywordPattern (adv : Advances rank r) : Forwards rank (keywordPattern r) := by
  intro s
  refine plainNode rfl ((anyName s).bind fun _ _ _ hn => symbol.bind fun _ u le _ => here ?_)
  refine (alternative adv u).bind fun _ v _ hf => (unionOf hf (alternative adv)).bind fun _ _ _ hv => ?_
  exact .pure (spansCons hn hv le)

theorem casePattern (adv : Advances rank r) : Forwards rank (casePattern r) := by
  intro s
  refine here ((plainNode rfl ?_).bind fun _ _ _ h => grow (fun _ t hp => ?_) h)
  · refine peek (peekSecond ?_)
    split
    · exact single (keywordPattern adv s)
    · exact (alternative adv s).bind fun _ _ _ hf => unionOf hf (alternative adv)
  · refine acceptWord.bind fun _ u le _ => ite (fun _ => ?_) fun _ => nothing (Nat.le_trans (Spanned.le hp) le)
    refine (anyName u).bind fun _ v _ hn => get (.pure (spansSome.mpr ?_))
    exact spansPlain rfl (Nat.le_refl _) (spansSingle (spansPlain rfl (Nat.le_refl _)
      (spansCons hp (spansSingle hn) le)))

end Gives
end ConventionLint.Grammar
