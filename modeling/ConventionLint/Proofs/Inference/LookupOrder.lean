import ConventionLint.Proofs.Inference.Hierarchy
import ConventionLint.Proofs.List

/-! When the bases of a class can be joined into one order of look-up, and what that order keeps of the
orders of the bases. Dropped bases can leave a class without any; behind `object` such a class breaks
the order, and nothing else does. -/
namespace ConventionLint.Inference
open ConventionLint.Tree

namespace Model
variable {m : Model}

structure Joins (m : Model) (c : ClassId) (s : List ClassId) : Prop where
  unique : s.Nodup
  direct : (m.bases c).Sublist s
  inherited : ∀ b ∈ m.bases c, ∀ l, m.linearize? b = some l → l.Sublist s

theorem joinsOfAbove {c : ClassId} {rest : List ClassId} (above : m.Above maxDepth c rest) :
    m.Joins c rest := by
  refine ⟨above.unique,above.direct,?_⟩
  intro b mem l found
  obtain ⟨l',found',kept⟩ := above.inherited b mem
  cases Option.some.inj (found.symm.trans (linearizeMore found'))
  exact kept

theorem linearizeOfJoins {c : ClassId} {s : List ClassId}
    (short : ∀ n d, m.Climb n c d → n ≤ maxDepth)
    (each : ∀ b ∈ m.bases c, (m.linearize? b).isSome) (joined : m.Joins c s) :
    ∃ order, m.linearize? c = some order := by
  have lower : ∀ b ∈ m.bases c, ∃ l, m.linearizeWithin maxDepth b = some l := by
    intro b mem
    obtain ⟨l,found⟩ := Option.isSome_iff_exists.mp (each b mem)
    refine ⟨l,linearizeEnough (k := maxDepth - 1) ?_ found⟩
    intro j d climb
    have := short (j + 1) d (.up mem climb)
    omega
  obtain ⟨above,found⟩ := mapMExists lower
  have inside : ∀ l ∈ above ++ [m.bases c], l.Sublist s := by
    intro l mem
    rcases List.mem_append.mp mem with inherited | own
    · obtain ⟨b,hb,found⟩ := (mapMSource found).2 l inherited
      exact joined.inherited b hb l (linearizeMore found)
    · rw [List.mem_singleton.mp own]
      exact joined.direct
  obtain ⟨rest,merged⟩ := (Linearization.mergeExistsIff _).mpr ⟨s,joined.unique,inside⟩
  exact ⟨c :: rest,linearizeSuccSome.mpr ⟨above,found,rest,merged,rfl⟩⟩

theorem mroNone {c : ClassId} (missing : m.linearize? c = none) : m.mro? c = none := by
  unfold linearize? at missing
  simp [mro?,missing]

/-- Below the bound on steps an order exists just when the orders of the bases agree, and it holds what
can be reached; above a cycle there is none. -/
theorem linearizeIffJoined (m : Model) (c : ClassId) :
    ((∀ n d, m.Climb n c d → n ≤ maxDepth) → (∀ b ∈ m.bases c, (m.linearize? b).isSome) →
      ((m.linearize? c).isSome ↔ ∃ s, m.Joins c s) ∧
      ∀ order, m.linearize? c = some order →
        (∃ s, m.Joins c s ∧ order = c :: s) ∧ ∀ d, d ∈ order ↔ ∃ n, m.Climb n c d) ∧
    ((∃ n d k, m.Climb n c d ∧ m.Climb (k + 1) d d) → m.mro? c = none) := by
  refine ⟨fun short each => ⟨⟨?_,?_⟩,?_⟩,?_⟩
  · intro found
    obtain ⟨order,ok⟩ := Option.isSome_iff_exists.mp found
    obtain ⟨rest,_,above⟩ := linearizeAbove ok
    exact ⟨rest,joinsOfAbove above⟩
  · rintro ⟨s,joined⟩
    exact Option.isSome_iff_exists.mpr (linearizeOfJoins short each joined)
  · intro order ok
    obtain ⟨rest,same,above⟩ := linearizeAbove ok
    exact ⟨⟨rest,joinsOfAbove above,same⟩,linearizeReaches ok⟩
  · rintro ⟨n,d,k,climb,cycle⟩
    exact mroNone (linearizeNoCycle climb cycle)

def climbsWithin (m : Model) : Nat → ClassId → Bool
  | 0, c => (m.bases c).isEmpty
  | n + 1, c => (m.bases c).all (climbsWithin m n)

theorem climbBound {n j : Nat} {c d : ClassId} (checked : m.climbsWithin n c = true)
    (climb : m.Climb j c d) : j ≤ n := by
  induction climb generalizing n with
  | here => exact Nat.zero_le n
  | up base rest ih =>
    cases n with
    | zero =>
      have noBases := List.isEmpty_iff.mp checked
      simp [noBases] at base
    | succ n =>
      have := ih (List.all_eq_true.mp checked _ base)
      omega

def diamond : Model := ofText
  "class A: pass\nclass B(A): pass\nclass C(A): pass\nclass D(B, C): pass\n".toList

theorem diamondJoined :
    (∀ n d, diamond.Climb n (.declared 9) d → n ≤ maxDepth) ∧
    diamond.linearize? (.declared 9) =
      some [.declared 9,.declared 3,.declared 6,.declared 1,.object] ∧
    (∃ s, diamond.Joins (.declared 9) s ∧
      [.declared 9,.declared 3,.declared 6,.declared 1,.object] = ClassId.declared 9 :: s) ∧
    ∀ d, d ∈ [.declared 9,.declared 3,.declared 6,.declared 1,.object] ↔
      ∃ n, diamond.Climb n (.declared 9) d := by
  obtain ⟨checked,each,found⟩ : diamond.climbsWithin maxDepth (.declared 9) = true ∧
      (∀ b ∈ diamond.bases (.declared 9), (diamond.linearize? b).isSome) ∧
      diamond.linearize? (.declared 9) =
        some [.declared 9,.declared 3,.declared 6,.declared 1,.object] := by decide +kernel
  have short : ∀ n d, diamond.Climb n (.declared 9) d → n ≤ maxDepth :=
    fun n d climb => climbBound checked climb
  have whole := (linearizeIffJoined diamond (.declared 9)).1 short each
  exact ⟨short,found,whole.2 _ found⟩

def Stranded (m : Model) (order : List ClassId) : Prop :=
  ∃ d, m.bases d = [] ∧ [.object,d].Sublist order

theorem mroSource {c : ClassId} {order : List ClassId} (ok : m.mro? c = some order) :
    ∃ found, m.linearize? c = some found ∧
      order = if .object ∈ found then found else found ++ [.object] := by
  obtain ⟨found,ok,same⟩ := Option.map_eq_some_iff.mp ok
  exact ⟨found,ok,by simpa using same.symm⟩

theorem mroOfLinearize {c : ClassId} {found : List ClassId} (ok : m.linearize? c = some found) :
    m.mro? c = some (if .object ∈ found then found else found ++ [.object]) := by
  unfold linearize? at ok
  simp [mro?,ok]

theorem mroKeepsFound {c : ClassId} {found order : List ClassId}
    (ok : m.mro? c = some order) (source : m.linearize? c = some found) : found.Sublist order := by
  cases Option.some.inj (ok.symm.trans (mroOfLinearize source))
  split
  · exact List.Sublist.refl _
  · exact List.sublist_append_left _ _

theorem mroNodup {c : ClassId} {order : List ClassId} (ok : m.mro? c = some order) :
    order.Nodup := by
  obtain ⟨found,source,rfl⟩ := mroSource ok
  have unique := linearizeNodup source
  split
  · exact unique
  · rename_i absent
    refine List.nodup_append.mpr ⟨unique,by simp,?_⟩
    intro a mem b last same
    rw [List.mem_singleton.mp last] at same
    exact absent (same ▸ mem)

theorem basesOrdered {c b : ClassId} {order : List ClassId} (ok : m.mro? c = some order)
    (base : b ∈ m.bases c) :
    ∃ l, m.linearize? b = some l ∧ l.Sublist order := by
  obtain ⟨found,source,_⟩ := mroSource ok
  obtain ⟨rest,rfl,above⟩ := linearizeAbove source
  obtain ⟨l,lower,kept⟩ := above.inherited b base
  exact ⟨l,linearizeMore lower,(kept.cons c).trans (mroKeepsFound ok source)⟩

theorem basesKept {c b : ClassId} {order above : List ClassId} (ok : m.mro? c = some order)
    (base : b ∈ m.bases c) (theirs : m.mro? b = some above) :
    (above.erase .object).Sublist order := by
  obtain ⟨l,found,kept⟩ := basesOrdered ok base
  cases Option.some.inj (theirs.symm.trans (mroOfLinearize found))
  split
  · exact List.erase_sublist.trans kept
  · rename_i absent
    simpa [List.erase_append_right _ absent] using kept

theorem basesKeptWhole {c b : ClassId} {order above : List ClassId} (ok : m.mro? c = some order)
    (last : order.getLast? = some .object) (base : b ∈ m.bases c) (theirs : m.mro? b = some above) :
    above.Sublist order := by
  obtain ⟨l,found,kept⟩ := basesOrdered ok base
  cases Option.some.inj (theirs.symm.trans (mroOfLinearize found))
  split
  · exact kept
  · rename_i absent
    obtain ⟨before,rfl⟩ := List.getLast?_eq_some_iff.mp last
    exact (sublistBeforeLast kept absent).append (List.Sublist.refl _)

theorem lastIsObject {c : ClassId} {order : List ClassId} (ok : m.mro? c = some order)
    (free : ¬ m.Stranded order) : order.getLast? = some .object := by
  have unique := mroNodup ok
  obtain ⟨found,source,same⟩ := mroSource ok
  split at same
  · rename_i present
    subst same
    obtain ⟨d,last⟩ : ∃ d, order.getLast? = some d := by
      cases order with
      | nil => simp at present
      | cons a l => exact ⟨_,List.getLast?_eq_some_getLast (by simp)⟩
    by_cases bottom : d = .object
    · rw [last,bottom]
    · obtain ⟨before,split⟩ := List.getLast?_eq_some_iff.mp last
      have inside : ClassId.object ∈ before := by
        rw [split] at present
        simpa [Ne.symm bottom] using present
      have nothing : m.bases d = [] := by
        refine List.eq_nil_iff_forall_not_mem.mpr fun e mem => ?_
        have direct := linearizeDirect source (List.mem_of_getLast? last)
        exact lastUnfollowed unique last
          (((List.singleton_sublist.mpr mem).cons_cons d).trans direct)
      refine absurd ⟨d,nothing,?_⟩ free
      rw [split]
      exact (List.singleton_sublist.mpr inside).append (List.Sublist.refl [d])
  · simp [same]

/-- An order begins with its class, repeats nothing and keeps the bases and all that is above them
but `object`. It keeps their orders whole and ends with `object` just when no class without a known base
comes after `object`. -/
theorem mroUnlessStranded {c : ClassId} {order : List ClassId} (ok : m.mro? c = some order) :
    order.head? = some c ∧ order.Nodup ∧ (m.bases c).Sublist order ∧
    (∀ b ∈ m.bases c, ∃ above, m.mro? b = some above ∧ (above.erase .object).Sublist order) ∧
    ((order.getLast? = some .object ∧
        ∀ b ∈ m.bases c, ∀ above, m.mro? b = some above → above.Sublist order) ↔
      ¬ m.Stranded order) ∧
    ((∀ n d, m.Climb n c d → m.bases d = [] → d = .object) → ¬ m.Stranded order) := by
  obtain ⟨found,source,same⟩ := mroSource ok
  obtain ⟨rest,rfl,above⟩ := linearizeAbove source
  have unique := mroNodup ok
  have kept := mroKeepsFound ok source
  refine ⟨?_,unique,(above.direct.cons c).trans kept,?_,⟨?_,?_⟩,?_⟩
  · rw [same]
    split <;> rfl
  · intro b base
    obtain ⟨l,lower,_⟩ := above.inherited b base
    have theirs := mroOfLinearize (linearizeMore lower)
    exact ⟨_,theirs,basesKept ok base theirs⟩
  · rintro ⟨last,_⟩ ⟨d,_,follows⟩
    exact lastUnfollowed unique last follows
  · intro free
    have last := lastIsObject ok free
    exact ⟨last,fun b base above theirs => basesKeptWhole ok last base theirs⟩
  · rintro rooted ⟨d,nothing,follows⟩
    have different : ClassId.object ≠ d := by
      have := unique.sublist follows
      simpa using this
    have mem : d ∈ order := follows.subset (by simp)
    have inside : d ∈ c :: rest := by
      rw [same] at mem
      split at mem
      · exact mem
      · simpa [Ne.symm different] using mem
    obtain ⟨n,climb⟩ := (linearizeReaches source d).mp inside
    exact different (rooted n d climb nothing).symm

def withMixin : Model := ofText
  "from somewhere import Mixin\nclass A: pass\nclass M(Mixin): pass\nclass C(A, M): pass\n".toList

theorem mixinAfterObject :
    withMixin.mro? (.declared 7) = some [.declared 7,.declared 2,.object,.declared 4] ∧
    ¬ ([ClassId.declared 7,.declared 2,.object,.declared 4].getLast? = some .object ∧
      ∀ b ∈ withMixin.bases (.declared 7), ∀ above, withMixin.mro? b = some above →
        above.Sublist [.declared 7,.declared 2,.object,.declared 4]) := by
  obtain ⟨ok,unknown⟩ : withMixin.mro? (.declared 7) =
        some [.declared 7,.declared 2,.object,.declared 4] ∧
      withMixin.bases (.declared 4) = [] := by decide +kernel
  refine ⟨ok,fun whole => ?_⟩
  exact (mroUnlessStranded ok).2.2.2.2.1.mp whole ⟨.declared 4,unknown,by decide⟩

end Model

end ConventionLint.Inference
