import Mathlib.Logic.Relation
import ConventionLint.Inference.Value
import ConventionLint.Proofs.Tree.Order

/-! What the bound on inference does to its answers. A node has one value at most, and it takes a number of steps
to find it. The bound cuts off what takes more steps and changes nothing else. What refers to itself, be it by
way of others, has no value at all, so that nothing is lost there. -/
namespace ConventionLint.Inference
open ConventionLint.Tree

namespace Model
variable {m : Model} {i c e : NodeId} {v w : Value} {k n d d' : Nat}

inductive Inferred (m : Model) : Nat → NodeId → Value → Prop where
  | constant {i l} (is : m.tree.payload i = .const l) : Inferred m 0 i .constant
  | classDef {i name bases doc} (is : m.tree.payload i = .classDef name bases doc) :
      Inferred m 0 i (.classObject (.declared i))
  | functionDef {i name params doc async} (is : m.tree.payload i = .functionDef name params doc async) :
      Inferred m 0 i (.function i)
  | builtin {i a v} (is : m.tree.payload i = .name a) (unbound : m.lookup? i a = none)
      (known : builtin? a = some v) : Inferred m 0 i v
  | declared {i a b c} (is : m.tree.payload i = .name a) (bound : m.lookup? i a = some b)
      (origin : b.origin = .classDef c) : Inferred m 0 i (.classObject (.declared c))
  | defined {i a b f} (is : m.tree.payload i = .name a) (bound : m.lookup? i a = some b)
      (origin : b.origin = .function f) : Inferred m 0 i (.function f)
  | imported {i a b p} (is : m.tree.payload i = .name a) (bound : m.lookup? i a = some b)
      (origin : b.origin = .path p) : Inferred m 0 i (Value.ofPath p)
  | assigned {k i a b e v} (is : m.tree.payload i = .name a) (bound : m.lookup? i a = some b)
      (origin : b.origin = .value e) (inner : Inferred m k e v) : Inferred m (k + 1) i v
  | access {k i a o p} (is : m.tree.payload i = .attribute a o) (inner : Inferred m k o (.module p)) :
      Inferred m (k + 1) i (Value.ofPath (p ++ "." ++ a))
  | made {k i f args keywords c} (is : m.tree.payload i = .call f args keywords)
      (inner : Inferred m k f (.classObject c)) : Inferred m (k + 1) i (.instanceOf c)

theorem withinOfInferred (inferred : m.Inferred k i v) (n : Nat) :
    m.inferWithin n i = if k < n then some v else none := by
  induction inferred generalizing n with
  | constant is | classDef is | functionDef is =>
    cases n with
    | zero => rfl
    | succ n => rw [inferWithin,is,if_pos n.succ_pos]
  | builtin is unbound known =>
    cases n with
    | zero => rfl
    | succ n =>
      rw [inferWithin,is,if_pos n.succ_pos]
      simp only [unbound,known]
  | declared is bound origin | defined is bound origin | imported is bound origin =>
    cases n with
    | zero => rfl
    | succ n =>
      rw [inferWithin,is,if_pos n.succ_pos]
      simp only [bound,origin]
  | assigned is bound origin _ ih =>
    cases n with
    | zero => rfl
    | succ n =>
      rw [inferWithin,is]
      simp only [bound,origin,ih,Nat.add_lt_add_iff_right]
  | @access k i _ _ _ is _ ih | @made k i _ _ _ _ is _ ih =>
    cases n with
    | zero => rfl
    | succ n =>
      rw [inferWithin,is]
      simp only [ih,Nat.add_lt_add_iff_right]
      by_cases enough : k < n
      · simp only [if_pos enough]
      · simp only [if_neg enough]

theorem inferredOfWithin (found : m.inferWithin n i = some v) : ∃ k, k < n ∧ m.Inferred k i v := by
  induction n generalizing i v with
  | zero => cases found
  | succ n ih =>
    rw [inferWithin] at found
    split at found
    · next is =>
      split at found
      · next unbound => exact ⟨0,n.succ_pos,.builtin is unbound found⟩
      · next bound =>
        split at found
        · next origin => cases found; exact ⟨0,n.succ_pos,.declared is bound origin⟩
        · next origin => cases found; exact ⟨0,n.succ_pos,.defined is bound origin⟩
        · next origin => cases found; exact ⟨0,n.succ_pos,.imported is bound origin⟩
        · next origin =>
          obtain ⟨k,lt,inner⟩ := ih found
          exact ⟨k + 1,Nat.succ_lt_succ lt,.assigned is bound origin inner⟩
        · cases found
    · next is =>
      split at found
      · next inside =>
        cases found
        obtain ⟨k,lt,inner⟩ := ih inside
        exact ⟨k + 1,Nat.succ_lt_succ lt,.access is inner⟩
      · cases found
    · next is =>
      split at found
      · next inside =>
        cases found
        obtain ⟨k,lt,inner⟩ := ih inside
        exact ⟨k + 1,Nat.succ_lt_succ lt,.made is inner⟩
      · cases found
    · next is => cases found; exact ⟨0,n.succ_pos,.constant is⟩
    · next is => cases found; exact ⟨0,n.succ_pos,.classDef is⟩
    · next is => cases found; exact ⟨0,n.succ_pos,.functionDef is⟩
    · cases found

inductive RestsOn (m : Model) : NodeId → NodeId → Prop where
  | value {i a b e} (is : m.tree.payload i = .name a) (bound : m.lookup? i a = some b)
      (origin : b.origin = .value e) : RestsOn m i e
  | object {i a o} (is : m.tree.payload i = .attribute a o) : RestsOn m i o
  | callee {i f args keywords} (is : m.tree.payload i = .call f args keywords) : RestsOn m i f

theorem partInferred (rests : m.RestsOn i e) (inferred : m.Inferred k i v) :
    ∃ l w, l < k ∧ m.Inferred l e w := by
  have found := withinOfInferred inferred (k + 1)
  rw [if_pos k.lt_succ_self,inferWithin] at found
  have part : ∃ w, m.inferWithin k e = some w := by
    cases rests with
    | value is bound origin =>
      simp only [is,bound,origin] at found
      exact ⟨v,found⟩
    | object is | callee is =>
      simp only [is] at found
      split at found
      · next inside => exact ⟨_,inside⟩
      · cases found
  obtain ⟨w,inside⟩ := part
  obtain ⟨l,lt,inner⟩ := inferredOfWithin inside
  exact ⟨l,w,lt,inner⟩

theorem partsInferred (chain : Relation.TransGen m.RestsOn i e) (inferred : m.Inferred k i v) :
    ∃ l w, l < k ∧ m.Inferred l e w := by
  induction chain with
  | single rests => exact partInferred rests inferred
  | tail _ rests ih =>
    obtain ⟨l,_,lt,inner⟩ := ih
    obtain ⟨l',w,lt',inner'⟩ := partInferred rests inner
    exact ⟨l',w,Nat.lt_trans lt' lt,inner'⟩

theorem circleUnknown (circle : Relation.TransGen m.RestsOn c c) : ¬m.Inferred k c v := by
  induction k using Nat.strongRecOn generalizing v with
  | ind k ih =>
    intro inferred
    obtain ⟨l,w,lt,inner⟩ := partsInferred circle inferred
    exact ih l lt inner

def inferAt (m : Model) (depth : Nat) (i : NodeId) : Option Value := m.inferWithin (maxDepth + 1 - depth) i

theorem inferAtZero (m : Model) (i : NodeId) : m.inferAt 0 i = m.infer i := rfl

theorem atOfInferred (inferred : m.Inferred k i v) (d : Nat) :
    m.inferAt d i = if d + k ≤ maxDepth then some v else none := by
  have room : k < maxDepth + 1 - d ↔ d + k ≤ maxDepth := by omega
  simp only [inferAt,withinOfInferred inferred,room]

/-- A value that is found at a depth is the only one at every depth: it is found as long as the steps to it stay
within the bound, so at every smaller depth, and beyond nothing is. No circle is on the way to it. -/
theorem boundOnlyLoses (le : d' ≤ d) (found : m.inferAt d i = some v) :
    m.inferAt d' i = some v ∧ (∀ w, ∀ e, m.inferAt e i = some w → w = v) ∧
      (∃ k, m.Inferred k i v ∧ ∀ e, m.inferAt e i = if e + k ≤ maxDepth then some v else none) ∧
      ∀ c, Relation.ReflTransGen m.RestsOn i c → ¬Relation.TransGen m.RestsOn c c := by
  obtain ⟨k,lt,inferred⟩ := inferredOfWithin found
  have all := atOfInferred inferred
  refine ⟨?_,?_,⟨k,inferred,all⟩,?_⟩
  · rw [all,if_pos (by omega)]
  · intro w e other
    rw [all] at other
    split at other
    · exact (Option.some.inj other).symm
    · cases other
  · intro c way circle
    rcases Relation.reflTransGen_iff_eq_or_transGen.mp way with rfl | chain
    · exact circleUnknown circle inferred
    · obtain ⟨l,w,_,inner⟩ := partsInferred chain inferred
      exact circleUnknown circle inner

def chained : List Char :=
  "import unittest as u\na = u\nb = a.TestCase\nc = d\nd = c\nb()\nc\n".toList

theorem boundOnlyLosesChained : ∃ t, Tree.parse chained = .ok t ∧
    (ofTree t).inferAt 20 15 = some (.instanceOf (.wellKnown .unitTestCase)) ∧
    (ofTree t).infer 15 = some (.instanceOf (.wellKnown .unitTestCase)) ∧ (ofTree t).inferAt 21 15 = none ∧
    ∀ d, (ofTree t).inferAt d 17 = none := by
  obtain ⟨t,parsed,facts⟩ := okOfMap (x := Tree.parse chained) (f := fun t => decide (
    (ofTree t).inferAt 20 15 = some (.instanceOf (.wellKnown .unitTestCase)) ∧ (ofTree t).inferAt 21 15 = none ∧
    (t.payload 17 = .name "c" ∧ t.payload 11 = .name "d" ∧ t.payload 14 = .name "c") ∧
    ((ofTree t).lookup? 17 "c").map Binding.origin = some (.value 11) ∧
    ((ofTree t).lookup? 11 "d").map Binding.origin = some (.value 14) ∧
    ((ofTree t).lookup? 14 "c").map Binding.origin = some (.value 11))) (b := true) (by decide +kernel)
  obtain ⟨deep,deeper,⟨last,first,second⟩,toFirst,toSecond,back⟩ := of_decide_eq_true facts
  have rests {i e : NodeId} {a : String} (is : t.payload i = .name a)
      (bound : ((ofTree t).lookup? i a).map Binding.origin = some (.value e)) : (ofTree t).RestsOn i e := by
    obtain ⟨b,found,origin⟩ := Option.map_eq_some_iff.mp bound
    exact .value is found origin
  have circle := (Relation.TransGen.single (rests first toSecond)).tail (rests second back)
  have whole := (inferAtZero _ 15).symm.trans (boundOnlyLoses (Nat.zero_le 20) deep).1
  refine ⟨t,parsed,deep,whole,deeper,fun d => ?_⟩
  cases found : (ofTree t).inferAt d 17 with
  | none => rfl
  | some v => exact absurd circle ((boundOnlyLoses (Nat.le_refl d) found).2.2.2 11 (.single (rests last toFirst)))

end Model

end ConventionLint.Inference
