import Mathlib.Data.List.Find
import ConventionLint.Proofs.Tree.Arena
import ConventionLint.Proofs.Tree.Lowering

/-! A module with further statements behind it. Its nodes keep their numbers and, but for the root, all
they hold; what stands around them stays as well. -/
namespace ConventionLint.Tree
open ConventionLint.Grammar (Concrete)

structure Extends (short long : Tree) : Prop where
  bigger : short.size ≤ long.size
  shared : ∀ i : Nat, 0 < i → i < short.size → long.node i = short.node i
  shortRoot : short.kind root = .module ∧ ∃ d, short.payload root = .module d
  longRoot : long.kind root = .module ∧ ∃ d, long.payload root = .module d

section Outline
variable {text text' : List Char} {s s' : Grammar.Span} {d d' : Option String}
  {parts rest : List Outline}

theorem rootOfModule : (ofOutline text (.node .module s (.module d) parts)).kind root = .module ∧
    ∃ e, (ofOutline text (.node .module s (.module d) parts)).payload root = .module e := by
  simp [Tree.kind,Tree.payload,Tree.node,ofOutline,Outline.number,root,Payload.map]

theorem extendsOfParts : Extends (ofOutline text (.node .module s (.module d) parts))
    (ofOutline text' (.node .module s' (.module d') (parts ++ rest))) := by
  refine ⟨?_,?_,rootOfModule,rootOfModule⟩
  · simp only [sizeOfOutline,Outline.size,Outline.sizeAllAppend]
    omega
  · intro i positive inside
    rw [sizeOfOutline,Outline.size] at inside
    obtain ⟨j,rfl⟩ : ∃ j, i = j + 1 := ⟨i - 1,by omega⟩
    have bound : j < (Outline.numberAll 0 1 parts).length := by
      rw [Outline.lengthNumberAll]
      omega
    simp only [Tree.node,ofOutline,Outline.number,Outline.numberAllAppend]
    simp [List.getElem?_append_left bound]

end Outline

theorem extendsOfContinued {text : List Char} (more : List Char) {program longer : Concrete}
    {further : List Concrete} (ok : Grammar.parse text = .ok program)
    (continued : longer.children = program.children ++ further) :
    Extends (ofOutline text (outline text program))
      (ofOutline (text ++ more) (outline (text ++ more) longer)) := by
  have lies : Grammar.Lies (Grammar.sitesOf text fun _ => True) program :=
    Grammar.parsePlaces ok fun _ _ _ _ => trivial
  obtain ⟨rest,same⟩ := Lowering.partsContinued more lies continued
  unfold outline
  rw [same]
  exact extendsOfParts

section Ancestors
variable {t short long : Tree} {i : Nat}

theorem parentSmaller (wired : t.Wired) {p : Nat} (found : t.parent? i = some p) : p < i := by
  by_cases inside : i < t.size
  · by_cases first : i = root
    · rw [first,wired.top] at found
      cases found
    · obtain ⟨q,hq,lt⟩ := wired.parent i (Nat.pos_of_ne_zero first) inside
      rw [hq] at found
      cases found
      exact lt
  · unfold Tree.parent? at found
    rw [nodeMissing (by omega)] at found
    cases found

theorem Extends.kind (h : Extends short long) (inside : i < short.size) :
    long.kind i = short.kind i := by
  by_cases first : i = root
  · rw [first,h.longRoot.1,h.shortRoot.1]
  · unfold Tree.kind
    rw [h.shared i (Nat.pos_of_ne_zero first) inside]

theorem Extends.parent (h : Extends short long) (ws : short.Wired) (wl : long.Wired)
    (inside : i < short.size) : long.parent? i = short.parent? i := by
  by_cases first : i = root
  · rw [first,ws.top,wl.top]
  · unfold Tree.parent?
    rw [h.shared i (Nat.pos_of_ne_zero first) inside]

theorem Extends.ancestorsBounded (h : Extends short long) (ws : short.Wired) (wl : long.Wired)
    {n m : Nat} (inside : i < short.size) (hn : i < n) (hm : i < m) :
    long.ancestorsBounded n i = short.ancestorsBounded m i := by
  induction n generalizing m i with
  | zero => omega
  | succ n ih =>
    obtain ⟨m,rfl⟩ : ∃ k, m = k + 1 := ⟨m - 1,by omega⟩
    simp only [Tree.ancestorsBounded,h.parent ws wl inside]
    cases found : short.parent? i with
    | none => rfl
    | some p =>
      have lt := parentSmaller ws found
      dsimp only
      rw [ih (m := m) (by omega) (by omega) (by omega)]

theorem Extends.ancestors (h : Extends short long) (ws : short.Wired) (wl : long.Wired)
    (inside : i < short.size) : long.ancestors i = short.ancestors i :=
  h.ancestorsBounded ws wl inside (Nat.lt_of_lt_of_le inside h.bigger) inside

theorem ancestorsBoundedSmaller (wired : t.Wired) {n a : Nat} (mem : a ∈ t.ancestorsBounded n i) :
    a < i := by
  induction n generalizing i with
  | zero => cases mem
  | succ n ih =>
    unfold Tree.ancestorsBounded at mem
    cases found : t.parent? i with
    | none =>
      rw [found] at mem
      cases mem
    | some p =>
      rw [found] at mem
      have lt := parentSmaller wired found
      rcases List.mem_cons.mp mem with rfl | mem
      · exact lt
      · exact Nat.lt_trans (ih mem) lt

theorem ancestorsSmaller (wired : t.Wired) {a : Nat} (mem : a ∈ t.ancestors i) : a < i :=
  ancestorsBoundedSmaller wired mem

theorem ancestorsBoundedRoot (wired : t.Wired) (n : Nat) : t.ancestorsBounded n root = [] := by
  cases n with
  | zero => rfl
  | succ n => rw [Tree.ancestorsBounded,wired.top]

theorem ancestorsBoundedEnough (wired : t.Wired) {n m : Nat} (hn : i ≤ n) (hm : i ≤ m) :
    t.ancestorsBounded n i = t.ancestorsBounded m i := by
  induction i using Nat.strongRecOn generalizing n m with
  | ind i ih =>
    rcases Nat.eq_zero_or_pos i with rfl | positive
    · exact (ancestorsBoundedRoot wired n).trans (ancestorsBoundedRoot wired m).symm
    · obtain ⟨n,rfl⟩ : ∃ k, n = k + 1 := ⟨n - 1,by omega⟩
      obtain ⟨m,rfl⟩ : ∃ k, m = k + 1 := ⟨m - 1,by omega⟩
      rw [Tree.ancestorsBounded,Tree.ancestorsBounded]
      cases found : t.parent? i with
      | none => rfl
      | some p =>
        have lt := parentSmaller wired found
        dsimp only
        exact congrArg (p :: ·) (ih p lt (by omega) (by omega))

theorem ancestorsUp (wired : t.Wired) {p : Nat} (inside : i < t.size) (found : t.parent? i = some p) :
    t.ancestors i = p :: t.ancestors p := by
  have lt := parentSmaller wired found
  obtain ⟨n,size⟩ : ∃ n, t.size = n + 1 := ⟨t.size - 1,by omega⟩
  rw [Tree.ancestors,size,Tree.ancestorsBounded,found,Tree.ancestors,size]
  exact congrArg (p :: ·) (ancestorsBoundedEnough wired (by omega) (by omega))

theorem rootAncestor (wired : t.Wired) (positive : 0 < i) (inside : i < t.size) :
    root ∈ t.ancestors i := by
  induction i using Nat.strongRecOn with
  | ind i ih =>
    obtain ⟨p,found,lt⟩ := wired.parent i positive inside
    rw [ancestorsUp wired inside found]
    rcases Nat.eq_zero_or_pos p with rfl | above
    · exact List.mem_cons_self
    · exact List.mem_cons_of_mem _ (ih p lt above (Nat.lt_trans lt inside))

theorem ancestorsThrough (wired : t.Wired) {a : Nat} (inside : i < t.size) (mem : a ∈ t.ancestors i) :
    ∃ below, t.ancestors i = below ++ a :: t.ancestors a ∧ ∀ g ∈ below, a ∈ t.ancestors g := by
  induction i using Nat.strongRecOn with
  | ind i ih =>
    have positive := Nat.lt_of_le_of_lt (Nat.zero_le a) (ancestorsSmaller wired mem)
    obtain ⟨p,found,lt⟩ := wired.parent i positive inside
    rw [ancestorsUp wired inside found] at mem ⊢
    rcases List.mem_cons.mp mem with rfl | above
    · exact ⟨[],rfl,List.forall_mem_nil _⟩
    · obtain ⟨below,parted,all⟩ := ih p lt (Nat.lt_trans lt inside) above
      exact ⟨p :: below,congrArg (p :: ·) parted,List.forall_mem_cons.mpr ⟨above,all⟩⟩

theorem Extends.isFrame (h : Extends short long) (ws : short.Wired) (inside : i < short.size) :
    ∀ a ∈ short.ancestors i, isFrame (long.kind a) = isFrame (short.kind a) := by
  intro a mem
  rw [h.kind (Nat.lt_trans (ancestorsSmaller ws mem) inside)]

theorem Extends.frame (h : Extends short long) (ws : short.Wired) (wl : long.Wired)
    (inside : i < short.size) : long.frame i = short.frame i := by
  unfold Tree.frame
  rw [h.ancestors ws wl inside,List.find?_congr (h.isFrame ws inside)]

end Ancestors

end ConventionLint.Tree
