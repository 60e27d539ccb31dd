import ConventionLint.Proofs.Tree.Arena

/-! The order of the numbers of an outline. A tree that is stored in an arena takes up neighbouring
places, which are the order in which its nodes are found from the top down. -/
namespace ConventionLint.Tree
open Outline

namespace Outline

theorem sizeNode (k : NodeKind) (s : Grammar.Span) (p : Payload Nat) (cs : List Outline) :
    (Outline.node k s p cs).size = 1 + sizeAll cs := rfl

def StoredAll (nodes : List Node) (parent next : NodeId) (os : List Outline) : Prop :=
  ∃ before after, nodes = before ++ numberAll parent next os ++ after ∧ before.length = next

section StoredAll
variable {nodes : List Node} {i next : NodeId} {parent : Option NodeId} {o : Outline} {os : List Outline}

theorem Stored.below {k : NodeKind} {s : Grammar.Span} {p : Payload Nat} {cs : List Outline}
    (h : Stored nodes parent i (.node k s p cs)) : StoredAll nodes i (i + 1) cs := by
  obtain ⟨before,after,rfl,rfl⟩ := h
  obtain ⟨top,numbered⟩ : ∃ top, number parent before.length (.node k s p cs) =
      top :: numberAll before.length (before.length + 1) cs := ⟨_,rfl⟩
  exact ⟨before ++ [top],after,by simp [numbered],by simp⟩

theorem StoredAll.first (h : StoredAll nodes i next (o :: os)) : Stored nodes (some i) next o := by
  obtain ⟨before,after,rfl,rfl⟩ := h
  exact ⟨before,_,by rw [numberAll,List.append_assoc,List.append_assoc,List.append_assoc],rfl⟩

theorem StoredAll.rest (h : StoredAll nodes i next (o :: os)) : StoredAll nodes i (next + o.size) os := by
  obtain ⟨before,after,rfl,rfl⟩ := h
  refine ⟨before ++ number (some i) before.length o,after,?_,by simp [lengthNumber]⟩
  simp only [numberAll,List.append_assoc]

end StoredAll

theorem memNumbersAt {next : NodeId} (before : List Outline) (o : Outline) (after : List Outline) :
    next + sizeAll before ∈ numbers next (before ++ o :: after) := by
  induction before generalizing next with
  | nil => simp [numbers,sizeAll]
  | cons p before ih =>
    rw [List.cons_append,numbers,sizeAll,← Nat.add_assoc]
    exact List.mem_cons_of_mem _ ih

theorem storedUnique {nodes : List Node} {i : Nat} {parent above : Option NodeId} {o p : Outline}
    (h : Stored nodes parent i o) (h' : Stored nodes above i p) : parent = above := by
  cases o
  cases p
  have same := (storedNode h).symm.trans (storedNode h')
  simp only [Option.some.injEq,Node.mk.injEq] at same
  exact same.2.2.1

/-- What stands at a place below the top of an outline: an outline of its own, which ends no later and
is among the parts of one in front of it. What goes over to parts holds of it. -/
theorem storedEvery {nodes : List Node} {P : Outline → Prop}
    (passes : ∀ k s p cs, P (.node k s p cs) → ∀ c ∈ cs, P c) {parent : Option NodeId} {i j : Nat}
    {o : Outline} (h : Stored nodes parent i o) (own : P o) (begins : i ≤ j) (bound : j < i + o.size) :
    ∃ above p, Stored nodes above j p ∧ P p ∧ j + p.size ≤ i + o.size ∧ (i < j →
      ∃ (q : Nat) (n : Node), i ≤ q ∧ q < j ∧ above = some q ∧ nodes[q]? = some n ∧ j ∈ n.children) := by
  induction size : o.size using Nat.strongRecOn generalizing i o parent with
  | ind n ih =>
    by_cases top : i = j
    · subst top
      exact ⟨parent,o,h,own,by omega,fun below => absurd below (Nat.lt_irrefl i)⟩
    obtain ⟨k,s,p,cs⟩ := o
    have whole := sizeNode k s p cs
    obtain ⟨before,c,after,rfl,low,high⟩ :=
      placeAmong (show i + 1 ≤ j by omega) (show j < i + 1 + sizeAll cs by omega)
    have parts : sizeAll (before ++ c :: after) = sizeAll before + (c.size + sizeAll after) := by
      rw [sizeAllAppend]
      rfl
    have here := storedChild h
    have listed : i + 1 + sizeAll before ∈ numbers (i + 1) (before ++ c :: after) :=
      memNumbersAt before c after
    obtain ⟨above,d,stored,holds,ends,inside⟩ :=
      ih c.size (by omega) here (passes k s p _ own c (by simp)) low high rfl
    refine ⟨above,d,stored,holds,by omega,fun _ => ?_⟩
    by_cases first : i + 1 + sizeAll before = j
    · subst first
      have same := storedUnique here stored
      exact ⟨i,_,Nat.le_refl i,by omega,same.symm,storedNode h,listed⟩
    · obtain ⟨q,m,lower,upper,linked,found,mem⟩ := inside (by omega)
      exact ⟨q,m,by omega,upper,linked,found,mem⟩

end Outline

section Order
variable {t : Tree} {i : NodeId} {parent : Option NodeId} {o : Outline}

theorem nodeOfStored {n : Node} (found : t.nodes.toList[i]? = some n) : t.node i = n := by
  simp only [Array.getElem?_toList] at found
  simp [Tree.node,found]

theorem childrenOfStored {k : NodeKind} {s : Grammar.Span} {p : Payload Nat} {cs : List Outline}
    (h : Stored t.nodes.toList parent i (.node k s p cs)) : t.children i = numbers (i + 1) cs := by
  rw [Tree.children,nodeOfStored (storedNode h)]

theorem unfoldNothing (n : Nat) : t.unfoldBounded n [] = [] := by
  cases n <;> rfl

mutual

theorem unfoldStored {parent : Option NodeId} {i : NodeId} (o : Outline)
    (h : Stored t.nodes.toList parent i o) (n : Nat) (pending : List NodeId) :
    t.unfoldBounded (o.size + n) (i :: pending) =
      List.range' i o.size ++ t.unfoldBounded n pending := by
  cases o with
  | node k s p cs =>
    have steps : (Outline.node k s p cs).size + n = (sizeAll cs + n) + 1 := by
      rw [sizeNode]
      omega
    rw [steps,Tree.unfoldBounded,childrenOfStored h,unfoldStoredAll cs h.below n pending,sizeNode,
      Nat.add_comm 1,List.range'_succ,List.cons_append]

theorem unfoldStoredAll {i next : NodeId} (os : List Outline)
    (h : StoredAll t.nodes.toList i next os) (n : Nat) (pending : List NodeId) :
    t.unfoldBounded (sizeAll os + n) (numbers next os ++ pending) =
      List.range' next (sizeAll os) ++ t.unfoldBounded n pending := by
  cases os with
  | nil => simp [numbers,sizeAll]
  | cons o os =>
    rw [numbers,sizeAll,List.cons_append,Nat.add_assoc,unfoldStored o h.first,unfoldStoredAll os h.rest n,
      ← List.append_assoc,← List.range'_append_1]

end

theorem descendantsStored (h : Stored t.nodes.toList parent i o) :
    t.descendants i = List.range' (i + 1) (o.size - 1) := by
  cases o with
  | node k s p cs =>
    have bound := storedBound h
    obtain ⟨n,enough⟩ : ∃ n, t.size = sizeAll cs + n := by
      rw [sizeNode,Array.length_toList] at bound
      exact ⟨t.size - sizeAll cs,by simp only [Tree.size]; omega⟩
    have found := unfoldStoredAll cs h.below n []
    rw [List.append_nil,unfoldNothing,List.append_nil] at found
    rw [Tree.descendants,childrenOfStored h,enough,found]
    simp [sizeNode]

theorem storedTop (text : List Char) (o : Outline) :
    Stored (ofOutline text o).nodes.toList none root o := ⟨[],[],by simp [ofOutline,root],rfl⟩

end Order

theorem outlineOfParse {text : List Char} {t : Tree} (parsed : Tree.parse text = .ok t) :
    ∃ program, Grammar.parse text = .ok program ∧ t = ofOutline text (outline text program) := by
  unfold Tree.parse at parsed
  cases read : Grammar.parse text with
  | error e => simp [read,Except.map] at parsed
  | ok program => exact ⟨program,rfl,by simpa [read,Except.map] using parsed.symm⟩

theorem okOfMap {ε α β : Type} {x : Except ε α} {f : α → β} {b : β} (found : (x.map f).toOption = some b) :
    ∃ a, x = .ok a ∧ f a = b := by
  cases x with
  | error e => cases found
  | ok a => exact ⟨a,rfl,Option.some.inj found⟩

theorem parsedOfSize {text : List Char} {n : Nat}
    (read : ((Tree.parse text).map Tree.size).toOption = some n) :
    ∃ t, Tree.parse text = .ok t ∧ t.size = n :=
  okOfMap read

end ConventionLint.Tree
