import ConventionLint.Proofs.Grammar.Order
import ConventionLint.Proofs.Grammar.Shape

/-! Parsers only go forward. What a parser gives lies between the token that it begins at and the token
that it stops at, as long as the tokens follow one another, and it takes no invalid token. -/
namespace ConventionLint.Grammar

namespace Stream

def Ready (rank : Position → Nat) (s : Stream) : Prop := ∃ hi, Spans rank (rank s.last) hi s.tokens

def front (s : Stream) : Position :=
  match s.tokens with
  | t :: _ => t.span.start
  | [] => s.last

def next? (s : Stream) : Option Lexeme := s.tokens.head?.map Token.lexeme

def second? (s : Stream) : Option Lexeme := s.tokens[1]?.map Token.lexeme

def invalid (s : Stream) : List Token := s.tokens.filter fun t => t.lexeme == .invalid

end Stream

structure Onward (rank : Position → Nat) (s t : Stream) : Prop where
  ready : t.Ready rank
  front : rank s.front ≤ rank t.front
  fewer : t.tokens.length ≤ s.tokens.length
  invalid : t.invalid = s.invalid

theorem Onward.refl {rank : Position → Nat} {s : Stream} (ready : s.Ready rank) : Onward rank s s :=
  ⟨ready,Nat.le_refl _,Nat.le_refl _,rfl⟩

theorem Onward.trans {rank : Position → Nat} {s t u : Stream} (first : Onward rank s t)
    (second : Onward rank t u) : Onward rank s u :=
  ⟨second.ready,Nat.le_trans first.front second.front,Nat.le_trans second.fewer first.fewer,
    second.invalid.trans first.invalid⟩

/-- What a parser gives at a place has a property that depends on how far the parser comes. -/
def Gives {α : Type} (rank : Position → Nat) (s : Stream) (p : Parser α) (Q : Stream → α → Prop) : Prop :=
  s.Ready rank → ∀ a t, p s = .ok (a,t) → Onward rank s t ∧ Q t a

abbrev Upto {α : Type} [Spanned α] (rank : Position → Nat) (lo : Nat) (t : Stream) (a : α) : Prop :=
  Spans rank lo (rank t.front) a

def Past {α : Type} [Spanned α] (rank : Position → Nat) (s t : Stream) (a : α) : Prop :=
  Upto rank (rank s.front) t a ∧ t.tokens.length < s.tokens.length

def Forwards {α : Type} [Spanned α] (rank : Position → Nat) (p : Parser α) : Prop :=
  ∀ s : Stream, Gives rank s p (Upto rank (rank s.front))

def Takes {α : Type} [Spanned α] (rank : Position → Nat) (p : Parser α) : Prop :=
  ∀ s : Stream, Gives rank s p (Past rank s)

def usesParts : Kind → Bool
  | .classDefinition | .functionDefinition | .decoratedDefinition | .call | .pair | .assignment
  | .comparisonOperator => true
  | _ => false

theorem laidOutPlain {k : Kind} (plain : usesParts k = false) (cs : List Concrete) :
    Concrete.LaidOut k cs where
  parts := by
    have unused : Concrete.usedParts k cs = [] := by
      cases k <;> first | rfl | cases plain
    rw [unused]
    exact List.nil_sublist cs
  operand := by
    rintro rfl
    cases plain
  defined := by
    rintro rfl
    cases plain

namespace Gives
open ConventionLint.Grammar.Parser ConventionLint.Grammar.Concrete
variable {rank : Position → Nat} {s : Stream} {lo : Nat} {α β : Type} {p q : Parser α}
  {P Q : Stream → α → Prop} {R : Stream → β → Prop} {f : α → Parser β}

theorem pure {a : α} (h : Q s a) : Gives rank s (pure a) Q := by
  intro ready b t ok
  cases ok
  exact ⟨.refl ready,h⟩

theorem backTo (hp : Gives rank s p P)
    (hf : ∀ a t, p s = .ok (a,t) → Onward rank s t → P t a →
      ∀ b u, f a t = .ok (b,u) → Onward rank s u ∧ R u b) :
    Gives rank s (p >>= f) R := by
  intro ready b u ok
  obtain ⟨a,t,first,second⟩ := bindOk ok
  have ⟨onward,ha⟩ := hp ready a t first
  exact hf a t first onward ha b u second

theorem bindRun (hp : Gives rank s p P)
    (hf : ∀ a t, p s = .ok (a,t) → Onward rank s t → P t a → Gives rank t (f a) R) :
    Gives rank s (p >>= f) R := by
  refine hp.backTo fun a t first onward ha b u ok => ?_
  have ⟨further,hb⟩ := hf a t first onward ha onward.ready b u ok
  exact ⟨onward.trans further,hb⟩

theorem bind (hp : Gives rank s p P)
    (hf : ∀ a t, rank s.front ≤ rank t.front → P t a → Gives rank t (f a) R) :
    Gives rank s (p >>= f) R :=
  hp.bindRun fun a t _ onward ha => hf a t onward.front ha

theorem imp (hp : Gives rank s p P) (h : ∀ t a, P t a → Q t a) : Gives rank s p Q := by
  intro ready a t ok
  have ⟨onward,ha⟩ := hp ready a t ok
  exact ⟨onward,h t a ha⟩

theorem also {E : α → Prop} (hp : Gives rank s p Q) (always : Always p E) :
    Gives rank s p fun t a => Q t a ∧ E a := by
  intro ready a t ok
  have ⟨onward,ha⟩ := hp ready a t ok
  exact ⟨onward,ha,always s a t ok⟩

theorem upto [Spanned α] (hp : Gives rank s p (Past rank s)) : Gives rank s p (Upto rank (rank s.front)) :=
  hp.imp fun _ _ h => h.1

theorem since [Spanned α] {lo' : Nat} (hp : Gives rank s p (Upto rank lo')) (le : lo ≤ lo') :
    Gives rank s p (Upto rank lo) :=
  hp.imp fun _ _ h => spansSince h le

theorem skip [Spanned β] (hp : Gives rank s p P)
    (hf : ∀ a t, rank s.front ≤ rank t.front → Gives rank t (f a) (Upto rank (rank t.front))) :
    Gives rank s (p >>= f) (Upto rank (rank s.front)) :=
  hp.bind fun a t le _ => (hf a t le).since le

theorem ending [Spanned β] {b : β} (hp : Gives rank s p P) (h : Spans rank lo (rank s.front) b) :
    Gives rank s (p >>= fun _ => Pure.pure b) (Upto rank lo) :=
  hp.bind fun _ _ le _ => .pure (spansTill h le)

theorem fewer {n : Nat} (lt : s.tokens.length < n) (hp : Gives rank s p Q) :
    Gives rank s p fun t a => Q t a ∧ t.tokens.length < n := by
  intro ready a t ok
  have ⟨onward,ha⟩ := hp ready a t ok
  exact ⟨onward,ha,Nat.lt_of_le_of_lt onward.fewer lt⟩

theorem past [Spanned α] [Spanned β] (hp : Gives rank s p (Past rank s))
    (hf : ∀ a t, rank s.front ≤ rank t.front → Gives rank t (f a) (Upto rank (rank t.front))) :
    Gives rank s (p >>= f) (Past rank s) :=
  hp.bind fun a t le taken => fewer taken.2 ((hf a t le).since le)

theorem map {g : α → β} (hp : Gives rank s p P) (hg : ∀ t a, P t a → R t (g a)) :
    Gives rank s (g <$> p) R := by
  rw [map_eq_pure_bind]
  exact hp.bind fun a t _ ha => .pure (hg _ a ha)

theorem ite {c : Prop} [Decidable c] (hp : c → Gives rank s p Q) (hq : ¬ c → Gives rank s q Q) :
    Gives rank s (if c then p else q) Q := by
  split
  · exact hp ‹_›
  · exact hq ‹_›

theorem branch {c : Prop} [Decidable c] (hp : c → Gives rank s p P) (hq : ¬ c → Gives rank s q P)
    (hf : ∀ a t, rank s.front ≤ rank t.front → P t a → Gives rank t (f a) R) :
    Gives rank s (if c then p >>= f else q >>= f) R :=
  ite (fun h => (hp h).bind hf) (fun h => (hq h).bind hf)

theorem throw {e : Failure} : Gives rank s (throw e : Parser α) Q := by
  intro _ a t ok
  cases ok

theorem fail : Gives rank s (fail : Parser α) Q := by
  intro _ a t ok
  cases ok

theorem either (hp : Gives rank s p Q) (hq : Gives rank s q Q) : Gives rank s (either p q) Q := by
  intro ready a t ok
  unfold Parser.either at ok
  cases first : p s with
  | ok x =>
    simp only [first] at ok
    cases ok
    exact hp ready a t first
  | error e =>
    cases second : q s with
    | ok x =>
      simp only [first,second] at ok
      cases ok
      exact hq ready a t second
    | error e' => simp [first,second] at ok

theorem get {f : Stream → Parser β} (hf : Gives rank s (f s) R) : Gives rank s (get >>= f) R := by
  intro ready b t ok
  exact hf ready b t ok

theorem here {f : Position → Parser β} (hf : Gives rank s (f s.front) R) :
    Gives rank s (here >>= f) R := by
  intro ready b t ok
  exact hf ready b t ok

theorem peek {f : Option Lexeme → Parser β} (hf : Gives rank s (f s.next?) R) :
    Gives rank s (peek >>= f) R := by
  intro ready b t ok
  exact hf ready b t ok

theorem peekSecond {f : Option Lexeme → Parser β} (hf : Gives rank s (f s.second?) R) :
    Gives rank s (peekSecond >>= f) R := by
  intro ready b t ok
  exact hf ready b t ok

theorem isNext {l : Lexeme} {f : Bool → Parser β}
    (hf : Gives rank s (f (decide (s.next? = some l))) R) : Gives rank s (isNext l >>= f) R := by
  intro ready b t ok
  exact hf ready b t ok

theorem ifNext {l : Lexeme} (hp : s.next? = some l → Gives rank s p Q) (hq : Gives rank s q Q) :
    Gives rank s (Parser.isNext l >>= fun b => if b = true then p else q) Q :=
  isNext (ite (fun h => hp (of_decide_eq_true h)) (fun _ => hq))

theorem known {l : Lexeme} (next : s.next? = some l) (valid : l ≠ .invalid) :
    s.next? ≠ some .invalid := by
  rw [next]
  exact fun same => valid (Option.some.inj same)

theorem take (valid : s.next? ≠ some .invalid) :
    Gives rank s take (Past rank s) := by
  intro ready a t ok
  obtain ⟨tokens,last⟩ := s
  cases tokens with
  | nil => cases ok
  | cons u us =>
    cases ok
    obtain ⟨hi,mid,⟨_,own,ends⟩,rest⟩ := ready
    have front : rank a.span.stop ≤ rank (Stream.mk us a.span.stop).front := by
      cases us with
      | nil => exact Nat.le_refl _
      | cons v vs =>
        obtain ⟨_,begins,_⟩ := rest
        exact Nat.le_trans ends begins.1
    have onward := Nat.le_trans own front
    refine ⟨⟨⟨hi,spansSince rest ends⟩,onward,Nat.le_succ _,?_⟩,?_,Nat.lt_succ_self _⟩
    · have kept : a.lexeme ≠ .invalid := fun same => valid (by simp [Stream.next?,same])
      simp [Stream.invalid,kept]
    · exact ⟨Nat.le_refl _,own,front⟩

theorem secondAfterTake {u : Token} {t : Stream} (ok : Parser.take s = .ok (u,t)) :
    t.next? = s.second? := by
  obtain ⟨tokens,last⟩ := s
  cases tokens with
  | nil => cases ok
  | cons v vs =>
    cases ok
    cases vs <;> rfl

theorem expect {l : Lexeme} (valid : l ≠ .invalid) :
    Gives rank s (expect l) (Past rank s) :=
  peek (ite (fun next => take (known next valid)) (fun _ => fail))

theorem symbol {w : String} : Gives rank s (symbol w) (Past rank s) := expect nofun

theorem keyword {w : String} : Gives rank s (keyword w) (Past rank s) := expect nofun

theorem accept {l : Lexeme} (valid : l ≠ .invalid) :
    Gives rank s (accept l) (Upto rank (rank s.front)) := by
  refine peek (ite (fun next => (take (known next valid)).bind fun _ _ le _ => .pure le) fun _ => ?_)
  exact .pure (Nat.le_refl _)

theorem acceptSymbol {w : String} :
    Gives rank s (Parser.accept (.symbol w)) (Upto rank (rank s.front)) := accept nofun

theorem acceptWord {w : String} :
    Gives rank s (Parser.accept (.word w)) (Upto rank (rank s.front)) := accept nofun

theorem isNextForwards {l : Lexeme} : Forwards rank (Parser.isNext l) :=
  fun _ => isNext (.pure (Nat.le_refl _))

theorem nodeWhere {k : Kind} {p : Parser (List Concrete)} {E : Stream → Prop}
    (hp : Gives rank s p fun t cs => (Upto rank (rank s.front) t cs ∧ LaidOut k cs) ∧ E t) :
    Gives rank s (Parser.node k p) fun t c => Upto rank (rank s.front) t c ∧ E t :=
  here (hp.bind fun _ _ _ h => .get (.pure ⟨spansNode.mpr ⟨Nat.le_refl _,h.1.2,h.1.1⟩,h.2⟩))

theorem node {k : Kind} {p : Parser (List Concrete)}
    (hp : Gives rank s p fun t cs => Upto rank (rank s.front) t cs ∧ LaidOut k cs) :
    Gives rank s (node k p) (Upto rank (rank s.front)) :=
  (nodeWhere (E := fun _ => True) (hp.imp fun _ _ h => ⟨h,trivial⟩)).imp fun _ _ h => h.1

theorem plainNode {k : Kind} {p : Parser (List Concrete)} (plain : usesParts k = false)
    (hp : Gives rank s p (Upto rank (rank s.front))) :
    Gives rank s (Parser.node k p) (Upto rank (rank s.front)) :=
  node (hp.imp fun _ cs h => ⟨h,laidOutPlain plain cs⟩)

theorem plainPast {k : Kind} {p : Parser (List Concrete)} (plain : usesParts k = false)
    (hp : Gives rank s p (Past rank s)) : Gives rank s (Parser.node k p) (Past rank s) :=
  nodeWhere (hp.imp fun _ cs h => ⟨⟨h.1,laidOutPlain plain cs⟩,h.2⟩)

theorem extend {k : Kind} {c : Concrete} {p : Parser (List Concrete)}
    (first : Spans rank lo (rank s.front) c)
    (hp : Gives rank s p fun t cs => Upto rank (rank s.front) t cs ∧ LaidOut k (c :: cs)) :
    Gives rank s (extend k c p) (Upto rank lo) := by
  refine hp.bind fun cs t _ h => .get (.pure ?_)
  refine spansNode.mpr ⟨(spansStart first).1,h.2,?_⟩
  exact spansCons (spansFromStart first) h.1 (Nat.le_refl _)

theorem plainExtend {k : Kind} {c : Concrete} {p : Parser (List Concrete)} (plain : usesParts k = false)
    (first : Spans rank lo (rank s.front) c) (hp : Gives rank s p (Upto rank (rank s.front))) :
    Gives rank s (Parser.extend k c p) (Upto rank lo) :=
  extend first (hp.imp fun _ cs h => ⟨h,laidOutPlain plain (c :: cs)⟩)

theorem spansPlain {k : Kind} {r : Option Role} {start stop : Position} {hi : Nat} {cs : List Concrete}
    (plain : usesParts k = false) (le : lo ≤ rank start) (below : Spans rank (rank start) hi cs) :
    Spans rank lo hi (Concrete.node k r ⟨start,stop⟩ cs) :=
  spansNode.mpr ⟨le,laidOutPlain plain cs,below⟩

theorem closed {w : String} {k : Kind} {start : Position} {cs : List Concrete}
    (plain : usesParts k = false) (below : Spans rank (rank start) (rank s.front) cs) :
    Gives rank s (do
      let _ ← Parser.symbol w
      return Concrete.node k none ⟨start,(← MonadState.get).last⟩ cs) (Upto rank (rank start)) :=
  symbol.bind fun _ _ le _ => .get (.pure
    (spansPlain plain (Nat.le_refl _) (spansTill below le)))

theorem leaf {k : Kind} (plain : usesParts k = false) (valid : s.next? ≠ some .invalid) :
    Gives rank s (leaf k) (Upto rank (rank s.front)) :=
  plainNode plain ((take valid).bind fun _ _ le _ => .pure (spansNil le))

theorem growBounded {p : α → Parser (Option α)} {I : Stream → α → Prop}
    (mono : ∀ s t a, Onward rank s t → I s a → I t a) {s₀ : Stream}
    (hp : ∀ a s, Onward rank s₀ s → I s a →
      Gives rank s (p a) fun u o => ∀ b, o = some b → I u b) (n : Nat) {s : Stream}
    (onward : Onward rank s₀ s) {a : α} (h : I s a) :
    Gives rank s (growBounded p n a) I := by
  induction n generalizing s a with
  | zero => exact .pure h
  | succ n ih =>
    refine (hp a s onward h).bindRun fun o t _ further ho => ?_
    cases o with
    | none => exact .pure (mono s t a further h)
    | some b => exact ih (onward.trans further) (ho b rfl)

theorem growKept {p : α → Parser (Option α)} {I : Stream → α → Prop}
    (mono : ∀ s t a, Onward rank s t → I s a → I t a)
    (hp : ∀ a t, Onward rank s t → I t a →
      Gives rank t (p a) fun u o => ∀ b, o = some b → I u b) {a : α} (h : I s a) :
    Gives rank s (grow p a) I :=
  fun ready => get (growBounded mono hp _ (.refl ready) h) ready

section Lists
variable [Spanned α] [Spanned β]

theorem single (hp : Gives rank s p (Upto rank lo)) : Gives rank s (do return [← p]) (Upto rank lo) :=
  hp.bind fun _ _ _ h => .pure (spansSingle h)

theorem singlePast (hp : Gives rank s p (Past rank s)) : Gives rank s (do return [← p]) (Past rank s) :=
  hp.bind fun _ _ _ h => .pure ⟨spansSingle h.1,h.2⟩

theorem present (hp : Gives rank s p (Upto rank lo)) :
    Gives rank s (do return some (← p)) (Upto rank lo) :=
  hp.bind fun _ _ _ h => .pure (spansSome.mpr h)

theorem empty : Gives rank s (Pure.pure [] : Parser (List α)) (Upto rank (rank s.front)) :=
  .pure (spansNil (Nat.le_refl _))

theorem nothing (le : lo ≤ rank s.front) :
    Gives rank s (Pure.pure none : Parser (Option α)) (Upto rank lo) := .pure (spansNone le)

theorem whenNext {l : Lexeme} (hp : s.next? = some l → Gives rank s p (Upto rank (rank s.front))) :
    Gives rank s (do if ← Parser.isNext l then return some (← p) else return none)
      (Upto rank (rank s.front)) :=
  ifNext (fun next => present (hp next)) (nothing (Nat.le_refl _))

theorem manyBounded {p : Parser (Option α)} (hp : Forwards rank p) (n : Nat) :
    Forwards rank (manyBounded p n) := by
  intro s
  induction n generalizing s with
  | zero => exact .pure (spansNil (Nat.le_refl _))
  | succ n ih =>
    refine (hp s).bind fun o t le h => ?_
    cases o with
    | none => exact .pure (spansNil le)
    | some a => exact (ih t).bind fun as _ _ rest => .pure (spansCons (spansSome.mp h) rest (Nat.le_refl _))

theorem many {p : Parser (Option α)} (hp : Forwards rank p) : Forwards rank (many p) :=
  fun s => get (manyBounded hp _ s)

theorem grow {p : α → Parser (Option α)}
    (hp : ∀ a s, Spans rank lo (rank s.front) a → Gives rank s (p a) (Upto rank lo)) {a : α}
    (h : Spans rank lo (rank s.front) a) : Gives rank s (grow p a) (Upto rank lo) := by
  refine growKept (I := Upto rank lo) (fun _ _ _ onward own => spansTill own onward.front) ?_ h
  exact fun a s _ own => (hp a s own).imp fun _ _ ho b same => spansSome.mp (same ▸ ho)

theorem commaSeparated (hp : Forwards rank p) : Forwards rank (commaSeparated p) := by
  intro s
  refine (hp s).bind fun a t _ ha => (many (fun u => ?_) t).bind fun as _ _ has =>
    .pure (spansCons ha has (Nat.le_refl _))
  refine acceptSymbol.bind fun _ _ le _ => .ite (fun _ => (hp _).bind fun b _ _ hb => ?_) fun _ => ?_
  · exact .pure (spansSome.mpr (spansSince hb le))
  · exact .pure (spansNone le)

theorem separated {w : String} {ends : Parser Bool} (he : Forwards rank ends) (hp : Forwards rank p) :
    Forwards rank (Parser.many do
      if ← Parser.accept (.symbol w) then
        if ← ends then return some none else return some (some (← p))
      else return none) := by
  refine many fun s => acceptSymbol.bind fun _ t le _ => .ite (fun _ => ?_) fun _ => .pure (spansNone le)
  refine (he t).bind fun _ u le' _ => .ite (fun _ => ?_) fun _ => (hp u).bind fun b _ _ hb => ?_
  · exact .pure (spansSome.mpr (spansNone (by omega)))
  · exact .pure (spansSome.mpr (spansSome.mpr (spansSince hb (by omega))))

theorem commaList {stops : Option Lexeme → Bool} (hp : Forwards rank p) :
    Forwards rank (commaList p stops) := by
  intro s
  refine (hp s).bind fun a t _ ha => .bind (α := List (Option α)) (many (fun u => ?_) t) fun as _ _ has => ?_
  · refine ifNext (fun next => ?_) (nothing (Nat.le_refl _))
    refine (take (known next nofun)).bind fun _ v le _ => peek (ite (fun _ => ?_) fun _ => ?_)
    · exact .pure (spansSome.mpr (spansNone le))
    · refine (hp v).bind fun b _ _ hb => .pure ?_
      exact spansSome.mpr (spansSome.mpr (spansSince hb le))
  · exact .pure (spansCons ha (spansPresent has) (Nat.le_refl _))

end Lists

end Gives

end ConventionLint.Grammar
