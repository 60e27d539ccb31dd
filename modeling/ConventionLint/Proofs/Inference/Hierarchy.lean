import ConventionLint.Inference.Hierarchy
import ConventionLint.Proofs.Inference.Linearization
import ConventionLint.Proofs.List

/-! The order of look-up of a class: what one step of it is made of, how it depends on the bound, and
when it exists. A class without a known base can come after `object`, and only such a class can. -/
namespace ConventionLint.Inference

namespace Model

def ofText (text : List Char) : Model :=
  ofTree ((Tree.parse text).toOption.getD ⟨text,#[]⟩)

inductive Climb (m : Model) : Nat → ClassId → ClassId → Prop where
  | here (c : ClassId) : Climb m 0 c c
  | up {c b d : ClassId} {n : Nat} (base : b ∈ m.bases c) (rest : Climb m n b d) :
      Climb m (n + 1) c d

def linearize? (m : Model) (c : ClassId) : Option (List ClassId) :=
  m.linearizeWithin (maxDepth + 1) c

structure Above (m : Model) (k : Nat) (c : ClassId) (rest : List ClassId) : Prop where
  unique : rest.Nodup
  direct : (m.bases c).Sublist rest
  inherited : ∀ b ∈ m.bases c, ∃ l, m.linearizeWithin k b = some l ∧ l.Sublist rest
  covered : ∀ d ∈ rest, ∃ b ∈ m.bases c, ∃ l, m.linearizeWithin k b = some l ∧ d ∈ l

variable {m : Model}

theorem linearizeZero (c : ClassId) : m.linearizeWithin 0 c = none := rfl

theorem linearizeSucc (n : Nat) (c : ClassId) : m.linearizeWithin (n + 1) c =
    ((m.bases c).mapM (m.linearizeWithin n)).bind fun above =>
      (Linearization.merge (above ++ [m.bases c])).map (c :: ·) := by
  conv_lhs => unfold linearizeWithin
  simp only [bind,Option.map_eq_bind,Function.comp_def,pure]

theorem linearizeSuccSome {n : Nat} {c : ClassId} {order : List ClassId} :
    m.linearizeWithin (n + 1) c = some order ↔
    ∃ above, (m.bases c).mapM (m.linearizeWithin n) = some above ∧
      ∃ rest, Linearization.merge (above ++ [m.bases c]) = some rest ∧ order = c :: rest := by
  simp only [linearizeSucc,Option.bind_eq_some_iff,Option.map_eq_some_iff]
  grind

theorem linearizeHead {n : Nat} {c : ClassId} {order : List ClassId}
    (ok : m.linearizeWithin n c = some order) : ∃ rest, order = c :: rest := by
  cases n with
  | zero => simp [linearizeZero] at ok
  | succ n =>
    obtain ⟨_,_,rest,_,same⟩ := linearizeSuccSome.mp ok
    exact ⟨rest,same⟩

theorem linearizeAbove {n : Nat} {c : ClassId} {order : List ClassId}
    (ok : m.linearizeWithin (n + 1) c = some order) : ∃ rest, order = c :: rest ∧ m.Above n c rest := by
  obtain ⟨above,each,rest,merged,same⟩ := linearizeSuccSome.mp ok
  refine ⟨rest,same,Linearization.mergeNodup merged,?_,?_,?_⟩
  · exact Linearization.mergeKeeps merged (by simp)
  · intro b mem
    obtain ⟨l,hl,found⟩ := (mapMSource each).1 b mem
    exact ⟨l,found,Linearization.mergeKeeps merged (by simp [hl])⟩
  · intro d mem
    obtain ⟨l,hl,inside⟩ := Linearization.mergeCovers merged mem
    rcases List.mem_append.mp hl with inherited | own
    · obtain ⟨b,hb,found⟩ := (mapMSource each).2 l inherited
      exact ⟨b,hb,l,found,inside⟩
    · have : d ∈ m.bases c := by simpa [List.mem_singleton.mp own] using inside
      obtain ⟨l,_,found⟩ := (mapMSource each).1 d this
      obtain ⟨rest,rfl⟩ := linearizeHead found
      exact ⟨d,this,_,found,List.mem_cons_self⟩

theorem linearizeMore {n : Nat} {c : ClassId} {order : List ClassId}
    (ok : m.linearizeWithin n c = some order) : m.linearizeWithin (n + 1) c = some order := by
  induction n generalizing c order with
  | zero => simp [linearizeZero] at ok
  | succ n ih =>
    obtain ⟨above,each,rest,merged,same⟩ := linearizeSuccSome.mp ok
    have agree : ∀ b ∈ m.bases c, m.linearizeWithin (n + 1) b = m.linearizeWithin n b := by
      intro b mem
      obtain ⟨l,_,found⟩ := (mapMSource each).1 b mem
      rw [found,ih found]
    exact linearizeSuccSome.mpr ⟨above,(mapMCongr agree).trans each,rest,merged,same⟩

theorem linearizeEnough {n k : Nat} {c : ClassId} {order : List ClassId}
    (short : ∀ j d, m.Climb j c d → j ≤ k) (ok : m.linearizeWithin n c = some order) :
    m.linearizeWithin (k + 1) c = some order := by
  induction n generalizing c order k with
  | zero => simp [linearizeZero] at ok
  | succ n ih =>
    obtain ⟨above,each,rest,merged,same⟩ := linearizeSuccSome.mp ok
    refine linearizeSuccSome.mpr ⟨above,?_,rest,merged,same⟩
    rw [← each]
    refine mapMCongr fun b mem => ?_
    have positive := short 1 b (.up mem (.here b))
    obtain ⟨j,rfl⟩ : ∃ j, k = j + 1 := ⟨k - 1,by omega⟩
    have shorter : ∀ i d, m.Climb i b d → i ≤ j := by
      intro i d climb
      have := short (i + 1) d (.up mem climb)
      omega
    obtain ⟨l,_,found⟩ := (mapMSource each).1 b mem
    rw [found,ih shorter found]

theorem linearizeMember {n : Nat} {c d : ClassId} {order : List ClassId}
    (ok : m.linearizeWithin n c = some order) (mem : d ∈ order) :
    ∃ l, m.linearizeWithin n d = some l ∧ l.Sublist order := by
  induction n generalizing c order with
  | zero => simp [linearizeZero] at ok
  | succ n ih =>
    obtain ⟨rest,rfl,above⟩ := linearizeAbove ok
    rcases List.mem_cons.mp mem with rfl | later
    · exact ⟨_,ok,List.Sublist.refl _⟩
    · obtain ⟨b,hb,l,found,inside⟩ := above.covered d later
      obtain ⟨l',found',within⟩ := ih found inside
      obtain ⟨l'',again,kept⟩ := above.inherited b hb
      cases Option.some.inj (again.symm.trans found)
      exact ⟨l',linearizeMore found',(within.trans kept).cons c⟩

theorem linearizeReaches {n : Nat} {c : ClassId} {order : List ClassId}
    (ok : m.linearizeWithin n c = some order) (d : ClassId) :
    d ∈ order ↔ ∃ j, m.Climb j c d := by
  constructor
  · intro mem
    induction n generalizing c order with
    | zero => simp [linearizeZero] at ok
    | succ n ih =>
      obtain ⟨rest,rfl,above⟩ := linearizeAbove ok
      rcases List.mem_cons.mp mem with rfl | later
      · exact ⟨0,.here d⟩
      · obtain ⟨b,hb,l,found,inside⟩ := above.covered d later
        obtain ⟨j,climb⟩ := ih found inside
        exact ⟨j + 1,.up hb climb⟩
  · rintro ⟨j,climb⟩
    induction climb generalizing n order with
    | here c =>
      obtain ⟨rest,rfl⟩ := linearizeHead ok
      exact List.mem_cons_self
    | up base rest ih =>
      cases n with
      | zero => simp [linearizeZero] at ok
      | succ n =>
        obtain ⟨rest,rfl,above⟩ := linearizeAbove ok
        obtain ⟨l,found,kept⟩ := above.inherited _ base
        exact List.mem_cons_of_mem _ (kept.subset (ih found))

theorem linearizeNodup {n : Nat} {c : ClassId} {order : List ClassId}
    (ok : m.linearizeWithin n c = some order) : order.Nodup := by
  induction n generalizing c order with
  | zero => simp [linearizeZero] at ok
  | succ n ih =>
    obtain ⟨rest,rfl,above⟩ := linearizeAbove ok
    by_cases again : c ∈ rest
    · obtain ⟨b,_,l,found,inside⟩ := above.covered c again
      obtain ⟨l',found',_⟩ := linearizeMember found inside
      cases Option.some.inj (ok.symm.trans (linearizeMore found'))
      exact ih found'
    · exact List.nodup_cons.mpr ⟨again,above.unique⟩

theorem linearizeDirect {n : Nat} {c d : ClassId} {order : List ClassId}
    (ok : m.linearizeWithin n c = some order) (mem : d ∈ order) :
    (d :: m.bases d).Sublist order := by
  obtain ⟨l,found,kept⟩ := linearizeMember ok mem
  cases n with
  | zero => simp [linearizeZero] at ok
  | succ n =>
    obtain ⟨rest,rfl,above⟩ := linearizeAbove found
    exact (above.direct.cons_cons d).trans kept

theorem linearizeNoCycle {n j k : Nat} {c d : ClassId} (climb : m.Climb j c d)
    (cycle : m.Climb (k + 1) d d) : m.linearizeWithin n c = none := by
  induction n generalizing j k c d with
  | zero => exact linearizeZero c
  | succ n ih =>
    have next : ∃ b ∈ m.bases c, ∃ i e i', m.Climb i b e ∧ m.Climb (i' + 1) e e := by
      cases climb with
      | here =>
        cases cycle with
        | up base rest => exact ⟨_,base,k,c,k,rest,.up base rest⟩
      | up base rest => exact ⟨_,base,_,d,k,rest,cycle⟩
    obtain ⟨b,base,i,e,i',way,around⟩ := next
    cases result : m.linearizeWithin (n + 1) c with
    | none => rfl
    | some order =>
      obtain ⟨rest,_,above⟩ := linearizeAbove result
      obtain ⟨l,found,_⟩ := above.inherited b base
      rw [ih way around] at found
      contradiction

end Model

end ConventionLint.Inference
