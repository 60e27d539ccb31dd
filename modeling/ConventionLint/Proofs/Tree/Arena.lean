import ConventionLint.Proofs.Tree.Sound
import ConventionLint.Tree.Basic

/-! The arena of a numbered outline: parents come before their children, and the data of a node refer
to its children. -/
namespace ConventionLint.Tree

namespace Outline

theorem sizePositive (o : Outline) : 0 < o.size := by
  cases o
  simp only [size]
  omega

theorem sizeAllAppend (os ps : List Outline) : sizeAll (os ++ ps) = sizeAll os + sizeAll ps := by
  induction os with
  | nil => simp [sizeAll]
  | cons o os ih => simp only [List.cons_append,sizeAll,ih,Nat.add_assoc]

theorem numberAllAppend (parent next : Nat) (os ps : List Outline) :
    numberAll parent next (os ++ ps) = numberAll parent next os ++ numberAll parent (next + sizeAll os) ps := by
  induction os generalizing next with
  | nil => simp [numberAll,sizeAll]
  | cons o os ih =>
    simp only [List.cons_append,numberAll,sizeAll,ih,List.append_assoc,Nat.add_assoc]

mutual

theorem lengthNumber (parent : Option NodeId) (next : Nat) (o : Outline) :
    (number parent next o).length = o.size := by
  cases o with
  | node k s p cs => simp only [number,List.length_cons,size,lengthNumberAll next (next + 1) cs,Nat.add_comm]

theorem lengthNumberAll (parent next : Nat) (os : List Outline) :
    (numberAll parent next os).length = sizeAll os := by
  cases os with
  | nil => rfl
  | cons o os =>
    simp only [numberAll,List.length_append,sizeAll,lengthNumber (some parent) next o,
      lengthNumberAll parent (next + o.size) os]

end

theorem memNumbers {next c : Nat} {os : List Outline} (mem : c ∈ numbers next os) :
    ∃ before o after, os = before ++ o :: after ∧ c = next + sizeAll before := by
  induction os generalizing next with
  | nil => cases mem
  | cons o os ih =>
    rcases List.mem_cons.mp mem with rfl | mem
    · exact ⟨[],o,os,rfl,by simp [sizeAll]⟩
    · obtain ⟨before,p,after,rfl,rfl⟩ := ih mem
      exact ⟨o :: before,p,after,rfl,by simp [sizeAll,Nat.add_assoc]⟩

def Stored (nodes : List Node) (parent : Option NodeId) (i : Nat) (o : Outline) : Prop :=
  ∃ before after, nodes = before ++ o.number parent i ++ after ∧ before.length = i

section Stored
variable {nodes : List Node} {parent : Option NodeId} {i j : Nat} {o : Outline}

theorem storedBound (h : Stored nodes parent i o) : i + o.size ≤ nodes.length := by
  obtain ⟨before,after,rfl,rfl⟩ := h
  simp only [List.length_append,lengthNumber]
  omega

theorem storedNode {k : NodeKind} {s : Grammar.Span} {p : Payload Nat} {cs : List Outline}
    (h : Stored nodes parent i (.node k s p cs)) :
    nodes[i]? = some ⟨k,s,parent,numbers (i + 1) cs,p.map fun j => (numbers (i + 1) cs).getD j i⟩ := by
  obtain ⟨before,after,rfl,rfl⟩ := h
  simp [number]

theorem storedChild {k : NodeKind} {s : Grammar.Span} {p : Payload Nat} {os ps : List Outline}
    (h : Stored nodes parent i (.node k s p (os ++ o :: ps))) :
    Stored nodes (some i) (i + 1 + sizeAll os) o := by
  obtain ⟨before,after,rfl,rfl⟩ := h
  obtain ⟨top,numbered⟩ : ∃ top, number parent before.length (.node k s p (os ++ o :: ps)) =
      top :: numberAll before.length (before.length + 1) (os ++ o :: ps) := ⟨_,rfl⟩
  rw [numbered,numberAllAppend,numberAll]
  refine ⟨before ++ top :: numberAll before.length (before.length + 1) os,
    numberAll before.length (before.length + 1 + sizeAll os + o.size) ps ++ after,?_,?_⟩
  · simp only [List.append_assoc,List.cons_append]
  · simp only [List.length_append,List.length_cons,lengthNumberAll]
    omega

theorem placeAmong {os : List Outline} {next : Nat} (lower : next ≤ j) (bound : j < next + sizeAll os) :
    ∃ before o after, os = before ++ o :: after ∧ next + sizeAll before ≤ j ∧
      j < next + sizeAll before + o.size := by
  induction os generalizing next with
  | nil =>
    simp only [sizeAll] at bound
    omega
  | cons o os ih =>
    simp only [sizeAll] at bound
    by_cases first : j < next + o.size
    · exact ⟨[],o,os,rfl,by simpa [sizeAll] using lower,by simpa [sizeAll] using first⟩
    · obtain ⟨before,p,after,rfl,low,high⟩ := ih (show next + o.size ≤ j by omega) (by omega)
      exact ⟨o :: before,p,after,rfl,by simp only [sizeAll]; omega,by simp only [sizeAll]; omega⟩

theorem storedInside (h : Stored nodes parent i o) (above : i < j) (bound : j < i + o.size) :
    ∃ q p, i ≤ q ∧ q < j ∧ Stored nodes (some q) j p ∧ (o.Sound → p.Sound) := by
  induction size : o.size using Nat.strongRecOn generalizing i o parent with
  | ind n ih =>
    obtain ⟨k,s,p,cs⟩ := o
    have whole : (Outline.node k s p cs).size = 1 + sizeAll cs := rfl
    obtain ⟨before,c,after,rfl,low,high⟩ :=
      placeAmong (show i + 1 ≤ j from above) (show j < i + 1 + sizeAll cs by omega)
    have here := storedChild h
    have sound : (Outline.node k s p (before ++ c :: after)).Sound → c.Sound := by
      intro sound
      cases sound with
      | node _ below => exact below c (by simp)
    by_cases same : j = i + 1 + sizeAll before
    · subst same
      exact ⟨i,c,Nat.le_refl i,by omega,here,sound⟩
    · have smaller : c.size < n := by
        have : sizeAll (before ++ c :: after) = sizeAll before + (c.size + sizeAll after) := by
          rw [sizeAllAppend]
          rfl
        omega
      obtain ⟨q,d,hq,lt,stored,inner⟩ := ih c.size smaller here (by omega) high rfl
      exact ⟨q,d,by omega,lt,stored,fun h => inner (sound h)⟩

end Stored

end Outline

open Outline

structure Wired (t : Tree) : Prop where
  top : t.parent? root = none
  parent : ∀ i : Nat, 0 < i → i < t.size → ∃ p : Nat, t.parent? i = some p ∧ p < i
  child : ∀ i c : Nat, c ∈ t.children i → t.parent? c = some i ∧ i < c ∧ c < t.size
  refs : ∀ i : Nat, (t.payload i).isCompare = false → ∀ r ∈ (t.payload i).refs, r ∈ t.children i

section Wired
variable {text : List Char} {o : Outline} {i : Nat}

theorem sizeOfOutline : (ofOutline text o).size = o.size := by
  simp [Tree.size,ofOutline,lengthNumber]

theorem nodeOfOutline {n : Node} (found : (o.number none 0)[i]? = some n) :
    (ofOutline text o).node i = n := by
  simp [Tree.node,ofOutline,found]

theorem nodeMissing {t : Tree} (beyond : t.size ≤ i) : t.node i = Node.missing := by
  simp only [Tree.size] at beyond
  simp [Tree.node,Array.getElem?_eq_none beyond]

theorem insideOfKind {t : Tree} (kind : t.kind i ≠ .other) : i < t.size := by
  refine Nat.lt_of_not_le fun beyond => kind ?_
  rw [Tree.kind,nodeMissing beyond]
  rfl

theorem insideOfPayload {t : Tree} (data : t.payload i ≠ .empty) : i < t.size := by
  refine Nat.lt_of_not_le fun beyond => data ?_
  rw [Tree.payload,nodeMissing beyond]
  rfl

theorem storedAt (sound : o.Sound) (inside : i < o.size) :
    ∃ parent p, Stored (o.number none 0) parent i p ∧ p.Sound ∧
      (0 < i → ∃ q, parent = some q ∧ q < i) ∧ (i = 0 → parent = none) := by
  have whole : Stored (o.number none 0) none 0 o := ⟨[],[],by simp,rfl⟩
  by_cases first : i = 0
  · subst first
    exact ⟨none,o,whole,sound,fun h => by omega,fun _ => rfl⟩
  · obtain ⟨q,p,_,lt,stored,keep⟩ := storedInside whole (Nat.pos_of_ne_zero first) (by omega)
    exact ⟨some q,p,stored,keep sound,fun _ => ⟨q,rfl,lt⟩,fun h => absurd h first⟩

theorem insideOfChild {t : Tree} {c : NodeId} (mem : c ∈ t.children i) : i < t.size := by
  refine Nat.lt_of_not_le fun beyond => ?_
  rw [Tree.children,nodeMissing beyond] at mem
  cases mem

theorem insideOfRef {t : Tree} {r : NodeId} (mem : r ∈ (t.payload i).refs) : i < t.size := by
  refine insideOfPayload fun nothing => ?_
  rw [nothing] at mem
  cases mem

theorem refsOfSound {k : NodeKind} {s : Grammar.Span} {p : Payload Nat} {cs : List Outline} {r : NodeId}
    (sound : (Outline.node k s p cs).Sound) (suits : p.isCompare = false ∨ cs ≠ [])
    (mem : r ∈ (p.map fun j => (numbers (i + 1) cs).getD j i).refs) : r ∈ numbers (i + 1) cs := by
  rw [Payload.refs_map] at mem
  obtain ⟨j,hj,rfl⟩ := List.mem_map.mp mem
  cases sound with
  | node own _ =>
    have bound := own suits j hj
    rw [← length_numbers (i + 1) cs] at bound
    simp [List.getElem?_eq_getElem bound]

theorem childLinked {c : Nat} (sound : o.Sound) (mem : c ∈ (ofOutline text o).children i) :
    (ofOutline text o).parent? c = some i ∧ i < c ∧ c < (ofOutline text o).size := by
  have inside := insideOfChild mem
  rw [sizeOfOutline] at inside ⊢
  obtain ⟨parent,⟨k,s,p,cs⟩,stored,_,_,_⟩ := storedAt sound inside
  rw [Tree.children,nodeOfOutline (storedNode stored)] at mem
  obtain ⟨before,⟨k',s',p',cs'⟩,after,rfl,rfl⟩ := memNumbers mem
  have here := storedChild stored
  have bound := storedBound here
  have positive := (Outline.node k' s' p' cs').sizePositive
  rw [lengthNumber] at bound
  refine ⟨?_,by omega,by omega⟩
  rw [Tree.parent?,nodeOfOutline (storedNode here)]

theorem wiredOfOutline (text : List Char) (sound : o.Sound) : (ofOutline text o).Wired := by
  refine ⟨?_,fun i positive inside => ?_,fun i c mem => childLinked sound mem,fun i plain r mem => ?_⟩
  · obtain ⟨parent,⟨k,s,p,cs⟩,stored,_,_,top⟩ := storedAt sound o.sizePositive
    rw [Tree.parent?,root,nodeOfOutline (storedNode stored),top rfl]
  · rw [sizeOfOutline] at inside
    obtain ⟨parent,⟨k,s,p,cs⟩,stored,_,below,_⟩ := storedAt sound inside
    obtain ⟨q,rfl,lt⟩ := below positive
    refine ⟨q,?_,lt⟩
    rw [Tree.parent?,nodeOfOutline (storedNode stored)]
  · have inside := insideOfRef mem
    rw [sizeOfOutline] at inside
    obtain ⟨parent,⟨k,s,p,cs⟩,stored,own,_,_⟩ := storedAt sound inside
    rw [Tree.payload,nodeOfOutline (storedNode stored)] at plain mem
    rw [Tree.children,nodeOfOutline (storedNode stored)]
    have noComparison : p.isCompare = false := by
      cases p <;> first | rfl | cases plain
    exact refsOfSound own (.inl noComparison) mem

end Wired

end ConventionLint.Tree
