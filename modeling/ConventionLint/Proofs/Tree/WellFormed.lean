import Mathlib.Data.List.Count
import ConventionLint.Proofs.Grammar.OnwardProgram
import ConventionLint.Proofs.Tree.Order
import ConventionLint.Proofs.Tree.SourceOrder

/-! What the arena of a parsed text promises: links that fit together, children in the order of the
text, subtrees without gaps, and data that refer to children only. -/
namespace ConventionLint.Tree
open ConventionLint.Grammar (Position Spans Chain)

inductive InSubtree (t : Tree) (i : NodeId) : NodeId → Prop where
  | top : InSubtree t i i
  | child {j c : NodeId} (inside : InSubtree t i j) (mem : c ∈ t.children j) : InSubtree t i c

structure WellFormed (t : Tree) : Prop where
  top : root < t.size ∧ t.kind root = .module ∧ t.parent? root = none
  parent : ∀ i : Nat, i ≠ root → i < t.size → ∃ p : Nat, t.parent? i = some p ∧ p < i ∧
    (t.children p).count i = 1 ∧ ∀ q, i ∈ t.children q → q = p
  increasing : ∀ i, (t.children i).Pairwise (· < ·)
  inOrder : ∀ i, (t.children i).Pairwise fun a b => (t.span a).start.offset ≤ (t.span b).start.offset
  subtree : ∀ i : Nat, i < t.size → ∃ n : Nat, i + n ≤ t.size ∧
    (∀ j : Nat, t.InSubtree i j ↔ i ≤ j ∧ j < i + n) ∧ i :: t.descendants i = List.range' i n
  refs : ∀ i, ∀ r ∈ (t.payload i).refs, r ∈ t.children i

open Outline

section Numbers
variable {rank : Position → Nat} {t : Tree}

theorem numbersFrom {next : Nat} {os : List Outline} : ∀ c ∈ numbers next os, next ≤ c := by
  intro c mem
  obtain ⟨before,o,after,_,rfl⟩ := memNumbers mem
  exact Nat.le_add_right next _

theorem numbersIncreasing (next : Nat) (os : List Outline) : (numbers next os).Pairwise (· < ·) := by
  induction os generalizing next with
  | nil => exact List.Pairwise.nil
  | cons o os ih =>
    refine List.Pairwise.cons (fun c mem => ?_) (ih (next + o.size))
    exact Nat.lt_of_lt_of_le (Nat.lt_add_of_pos_right o.sizePositive) (numbersFrom c mem)

def Outline.start : Outline → Position
  | .node _ s _ _ => s.start

theorem startsStored {i next : NodeId} {os : List Outline} (h : StoredAll t.nodes.toList i next os) :
    (numbers next os).map (fun c => (t.span c).start) = os.map Outline.start := by
  induction os generalizing next with
  | nil => rfl
  | cons o os ih =>
    have first := h.first
    rw [numbers,List.map_cons,List.map_cons,ih h.rest]
    cases o
    rw [Tree.span,nodeOfStored (storedNode first)]
    rfl

theorem startsAscend {lo hi : Nat} {os : List Outline} (h : Spans rank lo hi os) :
    (os.map fun o => rank o.start).Pairwise (· ≤ ·) ∧ ∀ o ∈ os, lo ≤ rank o.start := by
  induction os generalizing lo with
  | nil => exact ⟨List.Pairwise.nil,nofun⟩
  | cons o os ih =>
    obtain ⟨mid,own,rest⟩ := h
    obtain ⟨ascend,behind⟩ := ih rest
    cases o with
    | node k s p cs =>
      have here := spansOutline.mp own
      have le : lo ≤ mid := by omega
      refine ⟨List.Pairwise.cons ?_ ascend,?_⟩
      · intro x mem
        obtain ⟨q,hq,rfl⟩ := List.mem_map.mp mem
        exact Nat.le_trans here.2.1 (behind q hq)
      · intro q mem
        rcases List.mem_cons.mp mem with rfl | mem
        · exact here.1
        · exact Nat.le_trans le (behind q mem)

end Numbers

def Fine (rank : Position → Nat) (o : Outline) : Prop := o.Sound ∧ ∃ lo hi, Spans rank lo hi o

theorem fineParts {rank : Position → Nat} (k : NodeKind) (s : Grammar.Span) (p : Payload Nat)
    (cs : List Outline) (fine : Fine rank (.node k s p cs)) : ∀ c ∈ cs, Fine rank c := by
  intro c mem
  obtain ⟨sound,lo,hi,spans⟩ := fine
  cases sound with
  | node _ below => exact ⟨below c mem,lo,hi,Grammar.spansMember (spansOutline.mp spans).2.2.2 mem⟩

section Arena
variable {rank : Position → Nat} {text : List Char} {o : Outline} {i : Nat}

theorem placeOfFine (fine : Fine rank o) (inside : i < (ofOutline text o).size) :
    ∃ above p, Stored (ofOutline text o).nodes.toList above i p ∧ Fine rank p ∧
      i + p.size ≤ (ofOutline text o).size ∧ (i = root → above = none) ∧
      (i ≠ root → ∃ q : Nat, q < i ∧ above = some q ∧ i ∈ (ofOutline text o).children q) := by
  have top := storedTop text o
  rw [sizeOfOutline] at inside ⊢
  obtain ⟨above,p,stored,own,ends,linked⟩ :=
    storedEvery fineParts top fine (Nat.zero_le i) (by simpa [root] using inside)
  refine ⟨above,p,stored,own,by simpa [root] using ends,?_,?_⟩
  · rintro rfl
    exact (storedUnique top stored).symm
  · intro other
    obtain ⟨q,n,_,before,rfl,found,mem⟩ := linked (Nat.pos_of_ne_zero other)
    refine ⟨q,before,rfl,?_⟩
    rw [Tree.children,nodeOfStored found]
    exact mem

theorem childrenOfFine (fine : Fine rank o) (i : NodeId) :
    ((ofOutline text o).children i).Pairwise (· < ·) ∧
    ((ofOutline text o).children i).Pairwise fun a b =>
      rank ((ofOutline text o).span a).start ≤ rank ((ofOutline text o).span b).start := by
  by_cases inside : i < (ofOutline text o).size
  · obtain ⟨above,p,stored,own,_⟩ := placeOfFine fine inside
    cases p with
    | node k s p cs =>
      obtain ⟨_,lo,hi,spans⟩ := own
      have starts := congrArg (List.map rank) (startsStored stored.below)
      simp only [List.map_map] at starts
      have ascend := (startsAscend (spansOutline.mp spans).2.2.2).1
      rw [childrenOfStored stored]
      refine ⟨numbersIncreasing _ _,List.pairwise_map.mp ?_⟩
      exact starts ▸ ascend
  · have nothing : (ofOutline text o).children i = [] := by
      rw [Tree.children,nodeMissing (Nat.le_of_not_lt inside)]
      rfl
    rw [nothing]
    exact ⟨List.Pairwise.nil,List.Pairwise.nil⟩

theorem childOfFine (fine : Fine rank o) {c : Nat} (mem : c ∈ (ofOutline text o).children i) :
    (ofOutline text o).parent? c = some i ∧ i < c ∧ c < (ofOutline text o).size :=
  (wiredOfOutline text fine.1).child i c mem

theorem parentOfFine (fine : Fine rank o) (other : i ≠ root) (inside : i < (ofOutline text o).size) :
    ∃ p : Nat, (ofOutline text o).parent? i = some p ∧ p < i ∧
      ((ofOutline text o).children p).count i = 1 ∧ ∀ q, i ∈ (ofOutline text o).children q → q = p := by
  obtain ⟨_,_,_,_,_,_,linked⟩ := @placeOfFine rank text o i fine inside
  obtain ⟨q,before,_,mem⟩ := linked other
  have parent := (childOfFine fine mem).1
  have once := (@childrenOfFine rank text o fine q).1.imp Nat.ne_of_lt
  refine ⟨q,parent,before,by rw [List.Nodup.count once,if_pos mem],?_⟩
  intro q' mem'
  exact Option.some.inj ((childOfFine fine mem').1.symm.trans parent)

theorem childBound {t : Tree} {above : Option NodeId} {j c : Nat} {p : Outline}
    (stored : Stored t.nodes.toList above j p) (mem : c ∈ t.children j) : j < c ∧ c < j + p.size := by
  cases p with
  | node k s data cs =>
    rw [childrenOfStored stored] at mem
    obtain ⟨before,d,after,rfl,rfl⟩ := memNumbers mem
    have parts : sizeAll (before ++ d :: after) = sizeAll before + (d.size + sizeAll after) := by
      rw [sizeAllAppend]
      rfl
    have positive := d.sizePositive
    rw [sizeNode,parts]
    omega

theorem subtreeStored {t : Tree} {above : Option NodeId} {p : Outline}
    (stored : Stored t.nodes.toList above i p) (j : Nat) : t.InSubtree i j ↔ i ≤ j ∧ j < i + p.size := by
  have every {j : Nat} := @storedEvery t.nodes.toList (fun _ => True) (fun _ _ _ _ _ _ _ => trivial)
    above i j p stored trivial
  constructor
  · intro inside
    induction inside with
    | top => exact ⟨Nat.le_refl i,Nat.lt_add_of_pos_right p.sizePositive⟩
    | child _ mem ih =>
      obtain ⟨_,d,here,_,ends,_⟩ := every ih.1 ih.2
      have ⟨behind,bound⟩ := childBound here mem
      exact ⟨Nat.le_trans ih.1 (Nat.le_of_lt behind),Nat.lt_of_lt_of_le bound ends⟩
  · rintro ⟨begins,bound⟩
    -- from the parent, which has a smaller number and lies in the subtree as well
    induction j using Nat.strongRecOn with
    | ind j ih =>
      by_cases same : i = j
      · exact same ▸ .top
      · obtain ⟨_,_,_,_,_,linked⟩ := every begins bound
        obtain ⟨q,n,lower,before,_,found,mem⟩ := linked (by omega)
        refine .child (ih q before lower (by omega)) ?_
        rw [Tree.children,nodeOfStored found]
        exact mem

theorem refsOfFine (fine : Fine rank o) (i : NodeId) :
    ∀ r ∈ ((ofOutline text o).payload i).refs, r ∈ (ofOutline text o).children i := by
  intro r mem
  obtain ⟨above,p,stored,own,_⟩ := placeOfFine fine (insideOfRef mem)
  cases p with
  | node k s data cs =>
    obtain ⟨sound,lo,hi,spans⟩ := own
    rw [Tree.payload,nodeOfStored (storedNode stored)] at mem
    rw [childrenOfStored stored]
    have operand := (spansOutline.mp spans).2.2.1
    have suits : data.isCompare = false ∨ cs ≠ [] := by
      cases comparison : data.isCompare with
      | false => exact .inl rfl
      | true => exact .inr (operand comparison)
    exact refsOfSound sound suits mem

end Arena

theorem wellFormedOfFine {text : List Char} {o : Outline} (fine : Fine Position.offset o)
    (module : (ofOutline text o).kind root = .module) : (ofOutline text o).WellFormed where
  top := by
    refine ⟨?_,module,(wiredOfOutline text fine.1).top⟩
    rw [sizeOfOutline]
    exact o.sizePositive
  parent := fun _ other inside => parentOfFine fine other inside
  increasing := fun i => (childrenOfFine fine i).1
  inOrder := fun i => (childrenOfFine fine i).2
  subtree := by
    intro i inside
    obtain ⟨above,p,stored,_,ends,_⟩ := placeOfFine fine inside
    refine ⟨p.size,ends,subtreeStored stored,?_⟩
    rw [descendantsStored stored,← List.range'_succ,Nat.sub_add_cancel p.sizePositive]
  refs := refsOfFine fine

theorem parsedWellFormed {text : List Char} {t : Tree} (parsed : Tree.parse text = .ok t) :
    t.WellFormed := by
  obtain ⟨program,read,rfl⟩ := outlineOfParse parsed
  obtain ⟨_,_,begins,statements⟩ := Grammar.parseInOrder read
  exact wellFormedOfFine ⟨soundOutline text program,_,_,spansProgram text begins statements⟩ rfl

theorem decoratedWellFormed : ∃ t,
    Tree.parse "@d\nclass A(B, m=C):\n    x = y = {1: f(2 < z)}\n".toList = .ok t ∧
      t.size = 16 ∧ t.WellFormed := by
  obtain ⟨t,parsed,size⟩ :=
    @parsedOfSize "@d\nclass A(B, m=C):\n    x = y = {1: f(2 < z)}\n".toList 16 (by decide +kernel)
  exact ⟨t,parsed,size,parsedWellFormed parsed⟩

end ConventionLint.Tree
