import ConventionLint.Grammar.Comprehension
import ConventionLint.Grammar.Goal

/-! Where what a parser gives can lie. A parser copies places from its tokens and makes none up, so
whatever holds of all places of the tokens holds of all places of the tree, and what holds of the spans of
words holds of those of identifiers. -/
namespace ConventionLint.Grammar

structure Sites where
  place : Position → Prop
  word : Span → Prop

instance : CoeFun Sites fun _ => Position → Prop := ⟨Sites.place⟩

class Located (α : Type) where
  Lies : Sites → α → Prop

export Located (Lies)

def Span.Within (S : Position → Prop) (s : Span) : Prop := S s.start ∧ S s.stop

inductive Concrete.Within (S : Sites) : Concrete → Prop where
  | token {t : String} {s : Span} (own : s.Within S.place) : Within S (.token t s)
  | node {k : Kind} {r : Option Role} {s : Span} {cs : List Concrete} (own : s.Within S.place)
      (word : k = .identifier → S.word s) (below : ∀ c ∈ cs, Within S c) : Within S (.node k r s cs)

instance : Located Concrete := ⟨Concrete.Within⟩
instance : Located Position := ⟨fun S p => S p⟩
instance : Located Token :=
  ⟨fun S t => t.span.Within S.place ∧ ∀ w, t.lexeme = .word w → S.word t.span⟩
instance : Located Lexeme := ⟨fun _ _ => True⟩
instance : Located Bool := ⟨fun _ _ => True⟩
instance : Located Unit := ⟨fun _ _ => True⟩
instance {α : Type} [Located α] : Located (List α) := ⟨fun S as => ∀ a ∈ as, Lies S a⟩
instance {α : Type} [Located α] : Located (Option α) := ⟨fun S o => ∀ a, o = some a → Lies S a⟩
instance {α β : Type} [Located α] [Located β] : Located (α × β) := ⟨fun S x => Lies S x.1 ∧ Lies S x.2⟩
instance : Located Stream := ⟨fun S s => Lies S s.tokens ∧ S s.last⟩

section Lies
variable {S : Sites} {α β : Type} [Located α] [Located β]

@[simp] theorem liesNil : Lies S ([] : List α) := by simp [Lies]
@[simp] theorem liesCons {a : α} {as : List α} : Lies S (a :: as) ↔ Lies S a ∧ Lies S as := by
  simp [Lies]
theorem liesSingle {a : α} (h : Lies S a) : Lies S [a] := liesCons.mpr ⟨h,liesNil⟩

@[simp] theorem liesAppend {as bs : List α} : Lies S (as ++ bs) ↔ Lies S as ∧ Lies S bs := by
  simp only [Lies,List.mem_append]
  exact ⟨fun h => ⟨fun a ha => h a (.inl ha),fun a ha => h a (.inr ha)⟩,
    fun h a ha => ha.elim (h.1 a) (h.2 a)⟩
@[simp] theorem liesNone : Lies S (none : Option α) := by simp [Lies]
@[simp] theorem liesSome {a : α} : Lies S (some a) ↔ Lies S a := by simp [Lies]

theorem liesMap {f : α → β} {as : List α} (keep : ∀ a, Lies S a → Lies S (f a)) (all : Lies S as) :
    Lies S (as.map f) := by
  intro b mem
  obtain ⟨a,ha,rfl⟩ := List.mem_map.mp mem
  exact keep a (all a ha)

theorem liesPresent {as : List (Option α)} (all : Lies S as) : Lies S (as.filterMap id) := by
  intro a mem
  obtain ⟨o,ho,same⟩ := List.mem_filterMap.mp mem
  exact all o ho a same

theorem liesFlatten {as : List (List α)} (all : Lies S as) : Lies S as.flatten := by
  intro a mem
  obtain ⟨l,hl,inside⟩ := List.mem_flatten.mp mem
  exact all l hl a inside

@[simp] theorem liesNode {k : Kind} {r : Option Role} {s : Span} {cs : List Concrete} :
    Lies S (Concrete.node k r s cs) ↔ (S s.start ∧ S s.stop) ∧ (k = .identifier → S.word s) ∧ Lies S cs :=
  ⟨fun h => by cases h with | node own word below => exact ⟨own,word,below⟩,fun h => .node h.1 h.2.1 h.2.2⟩

theorem liesForm {k : Kind} {r : Option Role} {s : Span} {cs : List Concrete} (other : k ≠ .identifier)
    (h : (S s.start ∧ S s.stop) ∧ Lies S cs) :
    Lies S (Concrete.node k r s cs) := liesNode.mpr ⟨h.1,fun same => absurd same other,h.2⟩

@[simp] theorem liesToken {t : String} {s : Span} :
    Lies S (Concrete.token t s) ↔ S s.start ∧ S s.stop :=
  ⟨fun h => by cases h with | token own => exact own,fun h => .token h⟩

theorem liesSpan {c : Concrete} (h : Lies S c) : S c.span.start ∧ S c.span.stop := by
  cases h with
  | token own => exact own
  | node own _ _ => exact own

theorem liesWithRole {c : Concrete} {r : Role} (h : Lies S c) : Lies S (c.withRole r) := by
  cases h with
  | token own => exact .token own
  | node own word below => exact .node own word below

end Lies

def Keeps {α : Type} [Located α] (S : Sites) (p : Parser α) : Prop :=
  ∀ s a s', Lies S s → p s = .ok (a,s') → Lies S a ∧ Lies S s'

namespace Keeps
open ConventionLint.Grammar.Parser
variable {S : Sites} {α β : Type} [Located α] [Located β] {p q : Parser α}

theorem pure {a : α} (h : Lies S a) : Keeps S (pure a : Parser α) := by
  intro s b s' hs ok
  cases ok
  exact ⟨h,hs⟩

theorem bind {f : α → Parser β} (hp : Keeps S p) (hf : ∀ a, Lies S a → Keeps S (f a)) :
    Keeps S (p >>= f) := by
  intro s b s' hs ok
  change (Except.bind (p s) fun x => f x.1 x.2) = _ at ok
  cases first : p s with
  | error e => simp [first,Except.bind] at ok
  | ok x =>
    obtain ⟨a,t⟩ := x
    simp only [first,Except.bind] at ok
    have ⟨ha,ht⟩ := hp s a t hs first
    exact hf a ha t b s' ht ok

theorem map {f : α → β} (hf : ∀ a, Lies S a → Lies S (f a)) (hp : Keeps S p) :
    Keeps S (f <$> p) := by
  rw [map_eq_pure_bind]
  exact hp.bind fun a ha => .pure (hf a ha)

theorem single (hp : Keeps S p) : Keeps S (do return [← p]) :=
  hp.bind fun _ h => .pure (liesSingle h)

theorem present (hp : Keeps S p) : Keeps S (do return some (← p)) :=
  hp.bind fun _ h => .pure (liesSome.mpr h)

theorem ite {c : Prop} [Decidable c] (hp : Keeps S p) (hq : Keeps S q) :
    Keeps S (if c then p else q) := by
  split
  · exact hp
  · exact hq

theorem branch {c : Prop} [Decidable c] {f : α → Parser β} (hf : ∀ a, Lies S a → Keeps S (f a))
    (hp : Keeps S p) (hq : Keeps S q) : Keeps S (if c then p >>= f else q >>= f) :=
  ite (hp.bind hf) (hq.bind hf)

theorem throw {e : Failure} : Keeps S (throw e : Parser α) := by
  intro s a s' _ ok
  cases ok

theorem get : Keeps S (get : Parser Stream) := by
  intro s a s' hs ok
  cases ok
  exact ⟨hs,hs⟩

theorem set {s : Stream} (h : Lies S s) : Keeps S (set s : Parser Unit) := by
  intro t a s' _ ok
  cases ok
  exact ⟨trivial,h⟩

theorem here : Keeps S here := by
  intro s a s' hs ok
  cases ok
  refine ⟨?_,hs⟩
  obtain ⟨tokens,last⟩ := s
  cases tokens with
  | nil => exact hs.2
  | cons t ts => exact (hs.1 t List.mem_cons_self).1.1

theorem fail : Keeps S (fail : Parser α) := here.bind fun _ _ => throw

theorem peek : Keeps S peek := by
  intro s a s' hs ok
  cases ok
  exact ⟨fun _ _ => trivial,hs⟩

theorem peeked {f : Option Lexeme → Parser α} (hf : ∀ s a s', Lies S s →
    f (s.tokens.head?.map Token.lexeme) s = .ok (a,s') → Lies S a ∧ Lies S s') :
    Keeps S (Parser.peek >>= f) := fun s a s' hs ok => hf s a s' hs ok

theorem peekSecond : Keeps S peekSecond := by
  intro s a s' hs ok
  cases ok
  exact ⟨fun _ _ => trivial,hs⟩

theorem take : Keeps S take := by
  intro s a s' hs ok
  obtain ⟨tokens,last⟩ := s
  cases tokens with
  | nil => cases ok
  | cons t ts =>
    cases ok
    have own := hs.1 a List.mem_cons_self
    exact ⟨own,fun u mem => hs.1 u (List.mem_cons_of_mem a mem),own.1.2⟩

theorem expect {l : Lexeme} : Keeps S (expect l) := peek.bind fun _ _ => .ite take fail

theorem symbol {w : String} : Keeps S (symbol w) := expect

theorem keyword {w : String} : Keeps S (keyword w) := expect

theorem accept {l : Lexeme} : Keeps S (accept l) :=
  peek.bind fun _ _ => .ite (take.bind fun _ _ => .pure trivial) (.pure trivial)

theorem isNext {l : Lexeme} : Keeps S (isNext l) := peek.bind fun _ _ => .pure trivial

theorem whenNext {l : Lexeme} (hp : Keeps S p) :
    Keeps S (do if ← Parser.isNext l then return some (← p) else return none) :=
  isNext.bind fun _ _ => .ite (present hp) (.pure liesNone)

theorem either (hp : Keeps S p) (hq : Keeps S q) : Keeps S (either p q) := by
  intro s a s' hs ok
  unfold Parser.either at ok
  cases first : p s with
  | ok x =>
    simp only [first] at ok
    cases ok
    exact hp s a s' hs first
  | error e =>
    cases second : q s with
    | ok x =>
      simp only [first,second] at ok
      cases ok
      exact hq s a s' hs second
    | error f => simp [first,second] at ok

theorem node {k : Kind} {p : Parser (List Concrete)} (other : k ≠ .identifier) (hp : Keeps S p) :
    Keeps S (node k p) :=
  here.bind fun _ start => hp.bind fun _ below => get.bind fun _ hs =>
    .pure (liesForm other ⟨⟨start,hs.2⟩,below⟩)

theorem extend {k : Kind} {c : Concrete} {p : Parser (List Concrete)} (other : k ≠ .identifier)
    (first : Lies S c) (hp : Keeps S p) : Keeps S (extend k c p) :=
  hp.bind fun _ below => get.bind fun _ hs =>
    .pure (liesForm other ⟨⟨(liesSpan first).1,hs.2⟩,liesCons.mpr ⟨first,below⟩⟩)

theorem leaf {k : Kind} (other : k ≠ .identifier) : Keeps S (leaf k) :=
  node other (take.bind fun _ _ => .pure liesNil)

theorem identifier {s s' : Stream} {c : Concrete} {w : String} (hs : Lies S s)
    (next : s.tokens.head?.map Token.lexeme = some (.word w)) (ok : Parser.leaf .identifier s = .ok (c,s')) :
    Lies S c ∧ Lies S s' := by
  obtain ⟨tokens,last⟩ := s
  cases tokens with
  | nil => cases next
  | cons t ts =>
    cases ok
    have ⟨within,word⟩ := hs.1 t List.mem_cons_self
    refine ⟨liesNode.mpr ⟨within,fun _ => word w (Option.some.inj next),liesNil⟩,?_⟩
    exact ⟨fun u mem => hs.1 u (List.mem_cons_of_mem t mem),within.2⟩

theorem manyBounded {p : Parser (Option α)} (hp : Keeps S p) (n : Nat) :
    Keeps S (manyBounded p n) := by
  induction n with
  | zero => exact .pure liesNil
  | succ n ih =>
    refine hp.bind fun o ho => ?_
    cases o with
    | none => exact .pure liesNil
    | some a => exact ih.bind fun _ rest => .pure (liesCons.mpr ⟨liesSome.mp ho,rest⟩)

theorem many {p : Parser (Option α)} (hp : Keeps S p) : Keeps S (many p) :=
  get.bind fun _ _ => hp.manyBounded _

theorem growBounded {p : α → Parser (Option α)} (hp : ∀ a, Lies S a → Keeps S (p a)) (n : Nat)
    {a : α} (h : Lies S a) : Keeps S (growBounded p n a) := by
  induction n generalizing a with
  | zero => exact .pure h
  | succ n ih =>
    refine (hp a h).bind fun o ho => ?_
    cases o with
    | none => exact .pure h
    | some b => exact ih (liesSome.mp ho)

theorem grow {p : α → Parser (Option α)} (hp : ∀ a, Lies S a → Keeps S (p a)) {a : α}
    (h : Lies S a) : Keeps S (grow p a) :=
  get.bind fun _ _ => growBounded hp _ h

theorem commaSeparated (hp : Keeps S p) : Keeps S (commaSeparated p) := by
  refine hp.bind fun a ha => .bind (.many ?_) fun as has => .pure (liesCons.mpr ⟨ha,has⟩)
  exact accept.bind fun _ _ => .ite (hp.bind fun _ hb => .pure (liesSome.mpr hb)) (.pure liesNone)

theorem commaList {stops : Option Lexeme → Bool} (hp : Keeps S p) : Keeps S (commaList p stops) := by
  refine hp.bind fun a ha => .bind (α := List (Option α)) (.many ?_) fun as has => ?_
  · refine isNext.bind fun _ _ => .ite (take.bind fun _ _ => peek.bind fun _ _ => .ite ?_ ?_) ?_
    · exact .pure (liesSome.mpr liesNone)
    · exact hp.bind fun _ hb => .pure (liesSome.mpr (liesSome.mpr hb))
    · exact .pure liesNone
  · exact .pure ⟨liesCons.mpr ⟨ha,liesPresent has⟩,trivial⟩

end Keeps

end ConventionLint.Grammar
