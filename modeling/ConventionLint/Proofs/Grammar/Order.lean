import ConventionLint.Grammar.Goal

/-! The order of the places in a tree. Each place of a concrete tree comes between two bounds, and what
stands side by side comes one behind the other, so the places do not fall from left to right. What a
construct consists of stands in the order in which its parts are asked for. -/
namespace ConventionLint.Grammar

def Chain {α : Type} (spans : Nat → Nat → α → Prop) : Nat → Nat → List α → Prop
  | lo, hi, [] => lo ≤ hi
  | lo, hi, a :: as => ∃ mid, spans lo mid a ∧ Chain spans mid hi as

/-- Values whose places have a rank between two bounds. -/
class Spanned (α : Type) where
  Spans : (Position → Nat) → Nat → Nat → α → Prop
  le : ∀ {rank : Position → Nat} {lo hi : Nat} {a : α}, Spans rank lo hi a → lo ≤ hi
  widen : ∀ {rank : Position → Nat} {lo hi lo' hi' : Nat} {a : α}, Spans rank lo hi a →
    lo' ≤ lo → hi ≤ hi' → Spans rank lo' hi' a

export Spanned (Spans)

theorem spansTill {α : Type} [Spanned α] {rank : Position → Nat} {lo hi hi' : Nat} {a : α}
    (h : Spans rank lo hi a) (le : hi ≤ hi') : Spans rank lo hi' a :=
  Spanned.widen h (Nat.le_refl lo) le

theorem spansSince {α : Type} [Spanned α] {rank : Position → Nat} {lo lo' hi : Nat} {a : α}
    (h : Spans rank lo hi a) (le : lo' ≤ lo) : Spans rank lo' hi a :=
  Spanned.widen h le (Nat.le_refl hi)

section Chain
variable {α : Type} [Spanned α] {rank : Position → Nat} {lo mid mid' hi : Nat} {a : α} {as bs : List α}

theorem chainLe : ∀ {lo hi : Nat} {as : List α}, Chain (Spans rank) lo hi as → lo ≤ hi
  | _, _, [], h => h
  | _, _, _ :: _, ⟨_,first,rest⟩ => Nat.le_trans (Spanned.le first) (chainLe rest)

theorem chainWiden : ∀ {lo hi lo' hi' : Nat} {as : List α}, Chain (Spans rank) lo hi as →
    lo' ≤ lo → hi ≤ hi' → Chain (Spans rank) lo' hi' as
  | _, _, _, _, [], h, below, above => Nat.le_trans below (Nat.le_trans h above)
  | _, _, _, _, _ :: _, ⟨mid,first,rest⟩, below, above =>
    ⟨mid,Spanned.widen first below (Nat.le_refl mid),chainWiden rest (Nat.le_refl mid) above⟩

instance : Spanned (List α) := ⟨fun rank => Chain (Spans rank),chainLe,chainWiden⟩

theorem spansNil (le : lo ≤ hi) : Spans rank lo hi ([] : List α) := le

theorem spansCons (first : Spans rank lo mid a) (rest : Spans rank mid' hi as) (gap : mid ≤ mid') :
    Spans rank lo hi (a :: as) :=
  ⟨mid,first,spansSince rest gap⟩

theorem spansSingle (h : Spans rank lo hi a) : Spans rank lo hi [a] := ⟨hi,h,Nat.le_refl hi⟩

theorem spansAppend (first : Spans rank lo mid as) (rest : Spans rank mid' hi bs) (gap : mid ≤ mid') :
    Spans rank lo hi (as ++ bs) := by
  induction as generalizing lo with
  | nil => exact spansSince rest (Nat.le_trans first gap)
  | cons a as ih =>
    obtain ⟨next,own,below⟩ := first
    exact ⟨next,own,ih below⟩

theorem spansSplit (all : Spans rank lo hi (as ++ bs)) :
    ∃ mid, Spans rank lo mid as ∧ Spans rank mid hi bs := by
  induction as generalizing lo with
  | nil => exact ⟨lo,Nat.le_refl lo,all⟩
  | cons a as ih =>
    obtain ⟨next,own,rest⟩ := all
    obtain ⟨mid,below,above⟩ := ih rest
    exact ⟨mid,⟨next,own,below⟩,above⟩

theorem spansSublist {lo : Nat} {as bs : List α} (sub : as.Sublist bs) (all : Spans rank lo hi bs) :
    Spans rank lo hi as := by
  induction sub generalizing lo with
  | slnil => exact all
  | cons b _ ih =>
    obtain ⟨next,own,rest⟩ := all
    exact ih (spansSince rest (Spanned.le own))
  | cons_cons b _ ih =>
    obtain ⟨next,own,rest⟩ := all
    exact ⟨next,own,ih rest⟩

theorem spansMember (all : Spans rank lo hi as) (mem : a ∈ as) : Spans rank lo hi a := by
  have one := spansSublist (List.singleton_sublist.mpr mem) all
  obtain ⟨next,own,rest⟩ := one
  exact spansTill own rest

theorem spansFlatMap {β : Type} [Spanned β] {f : β → List α} {bs : List β}
    (each : ∀ b ∈ bs, ∀ lo hi, Spans rank lo hi b → Spans rank lo hi (f b))
    (all : Spans rank lo hi bs) : Spans rank lo hi (bs.flatMap f) := by
  induction bs generalizing lo with
  | nil => exact all
  | cons b bs ih =>
    obtain ⟨next,own,rest⟩ := all
    rw [List.flatMap_cons]
    exact spansAppend (each b List.mem_cons_self lo next own)
      (ih (fun b mem => each b (List.mem_cons_of_mem _ mem)) rest) (Nat.le_refl next)

theorem spansMap {β : Type} [Spanned β] {f : β → α} {bs : List β}
    (each : ∀ b ∈ bs, ∀ lo hi, Spans rank lo hi b → Spans rank lo hi (f b))
    (all : Spans rank lo hi bs) : Spans rank lo hi (bs.map f) := by
  rw [List.map_eq_flatMap]
  exact spansFlatMap (fun b mem lo hi h => spansSingle (each b mem lo hi h)) all

theorem spansFilterMap {β : Type} [Spanned β] {f : β → Option α} {bs : List β}
    (each : ∀ b ∈ bs, ∀ lo hi, Spans rank lo hi b → ∀ a, f b = some a → Spans rank lo hi a)
    (all : Spans rank lo hi bs) : Spans rank lo hi (bs.filterMap f) := by
  induction bs generalizing lo with
  | nil => exact all
  | cons b bs ih =>
    obtain ⟨next,own,rest⟩ := all
    have behind := ih (fun b mem => each b (List.mem_cons_of_mem _ mem)) rest
    cases found : f b with
    | none =>
      rw [List.filterMap_cons_none found]
      exact spansSince behind (Spanned.le own)
    | some a =>
      rw [List.filterMap_cons_some found]
      exact ⟨next,each b List.mem_cons_self lo next own a found,behind⟩

theorem spansFlatten {ass : List (List α)} (all : Spans rank lo hi ass) :
    Spans rank lo hi ass.flatten := by
  rw [← List.flatMap_id]
  exact spansFlatMap (fun _ _ _ _ h => h) all

end Chain

section Values
variable {α : Type} [Spanned α] {rank : Position → Nat} {lo hi : Nat}

instance : Spanned Token where
  Spans rank lo hi t := lo ≤ rank t.span.start ∧ rank t.span.start ≤ rank t.span.stop ∧ rank t.span.stop ≤ hi
  le h := by omega
  widen h below above := by omega
instance : Spanned Bool := ⟨fun _ lo hi _ => lo ≤ hi,id,fun h below above => by omega⟩
instance : Spanned Unit := ⟨fun _ lo hi _ => lo ≤ hi,id,fun h below above => by omega⟩

instance : Spanned (Option α) where
  Spans rank lo hi o := lo ≤ hi ∧ ∀ a, o = some a → Spans rank lo hi a
  le h := h.1
  widen h below above := ⟨by have := h.1; omega,fun a same => Spanned.widen (h.2 a same) below above⟩

instance : Spanned (α × Bool) where
  Spans rank lo hi x := Spans rank lo hi x.1
  le h := Spanned.le h
  widen h below above := Spanned.widen h below above

theorem spansNone (le : lo ≤ hi) : Spans rank lo hi (none : Option α) := ⟨le,nofun⟩

theorem spansSome {a : α} : Spans rank lo hi (some a) ↔ Spans rank lo hi a :=
  ⟨fun h => h.2 a rfl,fun h => ⟨Spanned.le h,fun _ same => Option.some.inj same ▸ h⟩⟩

theorem spansPresent {as : List (Option α)} (all : Spans rank lo hi as) :
    Spans rank lo hi (as.filterMap id) :=
  spansFilterMap (β := Option α) (fun _ _ _ _ h a same => h.2 a same) all

end Values

namespace Concrete

def inRoles (rs : List Role) (cs : List Concrete) : List Concrete :=
  rs.filterMap fun r => cs.find? fun c => c.role? == some r

def usedParts (k : Kind) (cs : List Concrete) : List Concrete :=
  match k with
  | .classDefinition => inRoles [.superclasses,.body] cs
  | .functionDefinition => inRoles [.parameters,.body] cs
  | .decoratedDefinition => (cs.filter fun c => c.hasKind .decorator) ++ inRoles [.definition] cs
  | .call => inRoles [.function,.arguments] cs
  | .pair => inRoles [.key,.value] cs
  | .assignment => inRoles [.left,.right] cs
  | _ => []

structure LaidOut (k : Kind) (cs : List Concrete) : Prop where
  parts : (usedParts k cs).Sublist cs
  operand : k = .comparisonOperator → ∃ c ∈ cs, c.isNamed = true
  defined : k = .decoratedDefinition → ∀ d ∈ inRoles [.definition] cs,
    d.kind? = some .classDefinition ∨ d.kind? = some .functionDefinition

mutual

def Between (rank : Position → Nat) : Nat → Nat → Concrete → Prop
  | lo, hi, .token _ s => lo ≤ rank s.start ∧ rank s.start ≤ hi
  | lo, hi, .node k _ s cs => lo ≤ rank s.start ∧ LaidOut k cs ∧ BetweenAll rank (rank s.start) hi cs

def BetweenAll (rank : Position → Nat) : Nat → Nat → List Concrete → Prop
  | lo, hi, [] => lo ≤ hi
  | lo, hi, c :: cs => ∃ mid, Between rank lo mid c ∧ BetweenAll rank mid hi cs

end

theorem betweenAllIff {rank : Position → Nat} {lo hi : Nat} {cs : List Concrete} :
    BetweenAll rank lo hi cs ↔ Chain (Between rank) lo hi cs := by
  induction cs generalizing lo with
  | nil => exact Iff.rfl
  | cons c cs ih => exact exists_congr fun mid => and_congr_right fun _ => ih

mutual

theorem betweenLe {rank : Position → Nat} : ∀ {lo hi : Nat} {c : Concrete},
    Between rank lo hi c → lo ≤ hi
  | _, _, .token .., h => Nat.le_trans h.1 h.2
  | _, _, .node .., h => Nat.le_trans h.1 (betweenAllLe h.2.2)

theorem betweenAllLe {rank : Position → Nat} : ∀ {lo hi : Nat} {cs : List Concrete},
    BetweenAll rank lo hi cs → lo ≤ hi
  | _, _, [], h => h
  | _, _, _ :: _, ⟨_,first,rest⟩ => Nat.le_trans (betweenLe first) (betweenAllLe rest)

end

mutual

theorem betweenWiden {rank : Position → Nat} : ∀ {lo hi lo' hi' : Nat} {c : Concrete},
    Between rank lo hi c → lo' ≤ lo → hi ≤ hi' → Between rank lo' hi' c
  | _, _, _, _, .token .., h, below, above => ⟨Nat.le_trans below h.1,Nat.le_trans h.2 above⟩
  | _, _, _, _, .node .., h, below, above =>
    ⟨Nat.le_trans below h.1,h.2.1,betweenAllWiden h.2.2 (Nat.le_refl _) above⟩

theorem betweenAllWiden {rank : Position → Nat} : ∀ {lo hi lo' hi' : Nat} {cs : List Concrete},
    BetweenAll rank lo hi cs → lo' ≤ lo → hi ≤ hi' → BetweenAll rank lo' hi' cs
  | _, _, _, _, [], h, below, above => Nat.le_trans below (Nat.le_trans h above)
  | _, _, _, _, _ :: _, ⟨mid,first,rest⟩, below, above =>
    ⟨mid,betweenWiden first below (Nat.le_refl mid),betweenAllWiden rest (Nat.le_refl mid) above⟩

end

instance : Spanned Concrete := ⟨Between,betweenLe,betweenWiden⟩

section Between
variable {rank : Position → Nat} {lo hi : Nat}

theorem spansNode {k : Kind} {r : Option Role} {s : Span} {cs : List Concrete} :
    Spans rank lo hi (Concrete.node k r s cs) ↔
      lo ≤ rank s.start ∧ LaidOut k cs ∧ Spans rank (rank s.start) hi cs :=
  and_congr_right fun _ => and_congr_right fun _ => betweenAllIff

theorem spansToken {t : String} {s : Span} :
    Spans rank lo hi (Concrete.token t s) ↔ lo ≤ rank s.start ∧ rank s.start ≤ hi := Iff.rfl

theorem spansStart {c : Concrete} (h : Spans rank lo hi c) :
    lo ≤ rank c.span.start ∧ rank c.span.start ≤ hi := by
  cases c with
  | token t s => exact h
  | node k r s cs => exact ⟨(spansNode.mp h).1,Spanned.le (spansNode.mp h).2.2⟩

theorem spansFromStart {c : Concrete} (h : Spans rank lo hi c) :
    Spans rank (rank c.span.start) hi c := by
  cases c with
  | token t s => exact ⟨Nat.le_refl _,h.2⟩
  | node k r s cs => exact spansNode.mpr ⟨Nat.le_refl _,(spansNode.mp h).2⟩

theorem spansBelow {c : Concrete} (h : Spans rank lo hi c) :
    Spans rank (rank c.span.start) hi c.children := by
  cases c with
  | token t s => exact h.2
  | node k r s cs => exact (spansNode.mp h).2.2

theorem spansWithRole {c : Concrete} {r : Role} (h : Spans rank lo hi c) :
    Spans rank lo hi (c.withRole r) := by
  cases c with
  | token t s => exact h
  | node k _ s cs => exact spansNode.mpr (spansNode.mp h)

theorem spansChildren {c : Concrete} (h : Spans rank lo hi c) : Spans rank lo hi c.children :=
  Spanned.widen (spansBelow h) (spansStart h).1 (Nat.le_refl hi)

theorem spansNamed {c : Concrete} (h : Spans rank lo hi c) : Spans rank lo hi c.named :=
  spansSublist List.filter_sublist (spansChildren h)

theorem spansChild {c d : Concrete} {r : Role} (h : Spans rank lo hi c) (found : c.child? r = some d) :
    Spans rank lo hi d :=
  spansMember (spansChildren h) (List.mem_of_find?_eq_some found)

theorem spansLaidOut {c : Concrete} {k : Kind} (h : Spans rank lo hi c) (kind : c.kind? = some k) :
    LaidOut k c.children := by
  cases c with
  | token t s => cases kind
  | node k' r s cs =>
    cases kind
    exact (spansNode.mp h).2.1

def inRole (r : Role) (cs : List Concrete) : List Concrete := (cs.find? fun c => c.role? == some r).toList

theorem inRolesOne {r : Role} {cs : List Concrete} : inRoles [r] cs = inRole r cs := by
  cases found : cs.find? (fun c => c.role? == some r) <;> simp [inRoles,inRole,found]

theorem inRolesTwo {first second : Role} {cs : List Concrete} :
    inRoles [first,second] cs = inRole first cs ++ inRole second cs := by
  cases one : cs.find? (fun c => c.role? == some first) <;>
    cases two : cs.find? (fun c => c.role? == some second) <;> simp [inRoles,inRole,one,two]

theorem inRoleSublist {r : Role} {cs : List Concrete} : (inRole r cs).Sublist cs := by
  cases found : cs.find? (fun c => c.role? == some r) with
  | none => simp [inRole,found]
  | some d => simpa [inRole,found] using List.mem_of_find?_eq_some found

theorem nobodyIn {r : Role} {cs : List Concrete} (other : ∀ c ∈ cs, c.role? ≠ some r) :
    (cs.find? fun c => c.role? == some r) = none :=
  List.find?_eq_none.mpr fun c mem own => other c mem (beq_iff_eq.mp own)

theorem spansInOrder {c : Concrete} {first second : Role}
    (used : (inRoles [first,second] c.children).Sublist c.children) (h : Spans rank lo hi c) :
    ∃ mid, lo ≤ mid ∧ mid ≤ hi ∧ (∀ d, c.child? first = some d → Spans rank lo mid d) ∧
      ∀ d, c.child? second = some d → Spans rank mid hi d := by
  have both := spansSublist used (spansChildren h)
  rw [inRolesTwo] at both
  obtain ⟨mid,before,behind⟩ := spansSplit both
  refine ⟨mid,Spanned.le before,Spanned.le behind,?_,?_⟩
  · exact fun d found => spansMember before (Option.mem_toList.mpr found)
  · exact fun d found => spansMember behind (Option.mem_toList.mpr found)

end Between

section Parts
variable {first second : Role} {c : Concrete} {as bs cs : List Concrete}

theorem roleOther (other : first ≠ second) : (c.withRole first).role? ≠ some second := by
  cases c with
  | token t s => exact nofun
  | node k r s cs => exact fun same => other (Option.some.inj same)

theorem inRolesSplit (as bs : List Concrete)
    (front : (∃ c ∈ as, c.role? = some first) ∨ ∀ c ∈ bs, c.role? ≠ some first)
    (behind : ∀ c ∈ as, c.role? ≠ some second) :
    (inRoles [first,second] (as ++ bs)).Sublist (as ++ bs) := by
  have inBack : inRole second (as ++ bs) = inRole second bs := by
    rw [inRole,List.find?_append,nobodyIn behind,Option.none_or]
    rfl
  have inFront : inRole first (as ++ bs) = inRole first as := by
    rcases front with ⟨c,mem,own⟩ | other
    · have found : (as.find? fun c => c.role? == some first).isSome := by
        simpa using ⟨c,mem,own⟩
      rw [inRole,List.find?_append,Option.or_of_isSome found]
      rfl
    · rw [inRole,List.find?_append,nobodyIn other,Option.or_none]
      rfl
  rw [inRolesTwo,inFront,inBack]
  exact inRoleSublist.append inRoleSublist

theorem inRolesPair {d : Concrete} (other : first ≠ second) :
    (inRoles [first,second] [c.withRole first,d.withRole second]).Sublist
      [c.withRole first,d.withRole second] := by
  refine inRolesSplit [_] [_] (.inr ?_) ?_
  · simpa using roleOther other.symm
  · simpa using roleOther other

end Parts

end Concrete
end ConventionLint.Grammar
