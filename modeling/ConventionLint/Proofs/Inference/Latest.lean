import ConventionLint.Proofs.Grammar.Lines
import ConventionLint.Proofs.Inference.Scope
import ConventionLint.Proofs.List
import ConventionLint.Proofs.Tree.Sites

/-! Which of several bindings a use of a name refers to. The bindings of a frame are listed in the order of
the text, so that the search from the end finds the last one on the greatest line that is not behind
the use. -/
namespace ConventionLint.Inference
open ConventionLint.Tree

namespace Binding
variable {t : Tree} {i u : NodeId} {b c : Binding}

structure Ordered (t : Tree) (b c : Binding) : Prop where
  site : b.site ≤ c.site
  start : (t.span b.site).start.offset ≤ (t.span c.site).start.offset
  line : b.line ≤ c.line

theorem ofNodeBinds (mem : b ∈ ofNode t i) : (t.payload i).binds := by
  unfold ofNode at mem
  split at mem
  · next is => rw [is]; rfl
  · next is => rw [is]; rfl
  · next is => rw [is]; rfl
  · next is => rw [is]; rfl
  · next is => rw [is]; rfl
  · cases mem

def Direct (t : Tree) (b : Binding) : Prop :=
  ∃ ts v, t.payload b.site = .assign ts (some v) ∧ b.origin = .value v ∧
    ∃ target ∈ ts, t.kind target = .name ∧ t.name? target = some b.name

theorem ofTargetDirect {site target v : NodeId} {n : Nat} {origin : Origin}
    (mem : b ∈ ofTarget t site n origin target) (value : b.origin = .value v) :
    t.kind target = .name ∧ t.name? target = some b.name := by
  have parts {m : Nat} (inside : b ∈ (t.elements target).flatMap (ofTarget t site m .unknown)) : False := by
    obtain ⟨e,_,inside⟩ := List.mem_flatMap.mp inside
    obtain ⟨_,_,origin | origin⟩ := ofTargetSource inside
    · rw [value] at origin
      cases origin
    · rw [value] at origin
      cases origin
  cases n with
  | zero => cases mem
  | succ n =>
    unfold ofTarget at mem
    split at mem
    · next kind =>
      obtain ⟨name,found,rfl⟩ := List.mem_map.mp mem
      exact ⟨kind,Option.mem_toList.mp found⟩
    · exact (parts mem).elim
    · exact (parts mem).elim
    · cases mem

theorem directOfValue {v : NodeId} (mem : b ∈ ofNode t b.site) (value : b.origin = .value v) :
    Direct t b := by
  obtain ⟨ts,is⟩ := (ofNodeMade mem).value v value
  refine ⟨ts,v,is,value,?_⟩
  unfold ofNode at mem
  rw [is] at mem
  obtain ⟨target,listed,inside⟩ := List.mem_flatMap.mp mem
  refine ⟨target,?_,ofTargetDirect inside value⟩
  unfold Tree.targets at listed
  rwa [is] at listed

/-- What a use can refer to: nothing that begins on a later line, and not the assignment around it if the
name is assigned its value there. -/
structure Eligible (t : Tree) (u : NodeId) (b : Binding) : Prop where
  line : b.line ≤ t.line u
  outside : ¬(Direct t b ∧ b.site ∈ t.ancestors u)

def IsLast (bs : List Binding) (p : Binding → Prop) (b : Binding) : Prop :=
  ∃ before after, bs = before ++ b :: after ∧ p b ∧ ∀ c ∈ after, ¬p c

inductive Latest (t : Tree) (u : NodeId) (bs : List Binding) (b : Binding) : Prop where
  | reached (last : IsLast bs (fun c => Eligible t u c ∧ ∀ d ∈ bs, Eligible t u d → d.line ≤ c.line) b)
  | fallback (ineligible : ∀ c ∈ bs, ¬Eligible t u c) (last : bs.getLast? = some b)

end Binding

open Binding

namespace Model
variable {text : List Char} {t : Tree} {u : NodeId} {id : String} {b c : Binding} {bs : List Binding}

theorem bindingsBySite (t : Tree) : (ofTree t).bindings.Pairwise fun b c => b.site ≤ c.site := by
  refine List.pairwise_flatMap.mpr ⟨fun i _ => ?_,List.pairwise_lt_range.imp fun before b hb c hc => ?_⟩
  · refine List.pairwise_of_forall_mem_list fun b hb c hc => ?_
    rw [(ofNodeMade hb).site,(ofNodeMade hc).site]
  · rw [(ofNodeMade hb).site,(ofNodeMade hc).site]
    exact Nat.le_of_lt before

theorem bindingsOrdered (parsed : Tree.parse text = .ok t) :
    (ofTree t).bindings.Pairwise (Ordered t) := by
  refine (bindingsBySite t).imp_of_mem fun {b c} hb hc site => ?_
  have first := ofNodeBinds (bindingSource hb).2
  have second := ofNodeBinds (bindingSource hc).2
  refine ⟨site,bindsInOrder Grammar.offsetAhead parsed site first second,?_⟩
  rw [(bindingMade hb).line,(bindingMade hc).line]
  exact bindsInOrder Grammar.lineAhead parsed site first second

theorem bindingsOfSite (t : Tree) (i : NodeId) :
    (ofTree t).bindings.filter (fun b => b.site == i) = ofNode t i := by
  have own (j : NodeId) : (ofNode t j).filter (fun b => b.site == i) = if j = i then ofNode t i else [] := by
    split
    · next same =>
      subst same
      exact List.filter_eq_self.mpr fun b mem => by simp [(ofNodeMade mem).site]
    · next other => exact List.filter_eq_nil_iff.mpr fun b mem => by simp [(ofNodeMade mem).site,other]
  unfold ofTree Tree.ids
  simp only [List.filter_flatMap,own]
  by_cases inside : i < t.size
  · exact flatMapOne inside
  · have nothing : ofNode t i = [] :=
      List.eq_nil_iff_forall_not_mem.mpr fun b mem => inside (insideOfBinding mem)
    simp [nothing]

theorem bindingsInOrdered (parsed : Tree.parse text = .ok t) (f : NodeId) (name : String) :
    ((ofTree t).bindingsIn f name).Pairwise (Ordered t) :=
  (bindingsOrdered parsed).filter _

theorem eligibleIff (mem : b ∈ (ofTree t).bindings) :
    (b.line ≤ t.line u && !(ofTree t).isWithin u b) = true ↔ Eligible t u b := by
  have direct {v : NodeId} := directOfValue (v := v) (bindingSource mem).2
  have within : (ofTree t).isWithin u b = true ↔ Direct t b ∧ b.site ∈ t.ancestors u := by
    unfold isWithin
    split
    · next v value => simp [direct value]
    · next other =>
      refine ⟨nofun,fun ⟨⟨_,v,_,value,_⟩,_⟩ => absurd value (other v)⟩
  constructor
  · intro both
    obtain ⟨line,outside⟩ := Bool.and_eq_true_iff.mp both
    exact ⟨of_decide_eq_true line,fun inside => by simp [within.mpr inside] at outside⟩
  · intro eligible
    refine Bool.and_eq_true_iff.mpr ⟨decide_eq_true eligible.line,?_⟩
    simpa using fun inside => eligible.outside (within.mp inside)

theorem nearestLatest (all : ∀ b ∈ bs, b ∈ (ofTree t).bindings) (ordered : bs.Pairwise (Ordered t))
    (found : (ofTree t).nearest? u bs = some b) : Latest t u bs b := by
  unfold nearest? at found
  dsimp only [treeOfTree] at found
  split at found
  · next c reached =>
    cases found
    obtain ⟨eligible,later,earlier,parted,passed⟩ := List.find?_eq_some_iff_append.mp reached
    have whole : bs = earlier.reverse ++ b :: later.reverse := by
      rw [← List.reverse_reverse bs,parted]
      simp
    have skipped : ∀ c ∈ later.reverse, ¬Eligible t u c := by
      intro c mem able
      have here := passed c (List.mem_reverse.mp mem)
      rw [(eligibleIff (all c (by rw [whole]; simp [List.mem_reverse.mp mem]))).mpr able] at here
      cases here
    -- what stands behind it is passed over, and what stands before it begins on no later line
    refine .reached ⟨_,_,whole,⟨(eligibleIff (all b (by rw [whole]; simp))).mp eligible,fun d mem able => ?_⟩,?_⟩
    · rw [whole] at mem ordered
      rcases List.mem_append.mp mem with before | mem
      · exact ((List.pairwise_append.mp ordered).2.2 d before b List.mem_cons_self).line
      · rcases List.mem_cons.mp mem with rfl | behind
        · exact Nat.le_refl _
        · exact absurd able (skipped d behind)
    · exact fun c mem able => skipped c mem able.1
  · next missing =>
    refine .fallback (fun c mem able => ?_) found
    exact List.find?_eq_none.mp missing c (List.mem_reverse.mpr mem) ((eligibleIff (all c mem)).mpr able)

/-- The bindings of a name in a frame stand in the order of the text, those of one statement in the order in
which it names them; and the innermost frame that binds a used name decides by the latest of them. -/
theorem lookupLatest (parsed : Tree.parse text = .ok t) :
    (∀ f name, ((ofTree t).bindingsIn f name).Pairwise (Ordered t)) ∧
      (∀ i, (ofTree t).bindings.filter (fun b => b.site == i) = ofNode t i) ∧
      ∀ u id, t.payload u = .name id → (ofTree t).bindingsIn (t.frame u) id ≠ [] →
        ∃ b, (ofTree t).lookup? u id = some b ∧ Latest t u ((ofTree t).bindingsIn (t.frame u) id) b := by
  refine ⟨bindingsInOrdered parsed,bindingsOfSite t,fun u id _ bound => ?_⟩
  obtain ⟨b,found⟩ := nearestSome bound
  obtain ⟨outer,around⟩ := framesHead t u
  refine ⟨b,?_,nearestLatest (fun c mem => (List.mem_filter.mp mem).1) (bindingsInOrdered parsed _ _) found⟩
  unfold lookup?
  simp only [treeOfTree,around,found]

theorem lookupLatestRebound : ∃ t, Tree.parse "a = 1\na = [a]\n".toList = .ok t ∧
    t.payload 7 = .name "a" ∧ ((ofTree t).bindingsIn (t.frame 7) "a").map Binding.site = [1,4] ∧
      ∃ b, (ofTree t).lookup? 7 "a" = some b ∧ b.site = 1 ∧
        Latest t 7 ((ofTree t).bindingsIn (t.frame 7) "a") b := by
  obtain ⟨t,parsed,facts⟩ := okOfMap (x := Tree.parse "a = 1\na = [a]\n".toList)
    (f := fun t => (t.payload 7,((ofTree t).bindingsIn (t.frame 7) "a").map Binding.site,
      ((ofTree t).lookup? 7 "a").map Binding.site)) (b := (.name "a",[1,4],some 1)) (by decide +kernel)
  simp only [Prod.mk.injEq,Option.map_eq_some_iff] at facts
  obtain ⟨name,sites,c,used,site⟩ := facts
  obtain ⟨b,found,latest⟩ := (lookupLatest parsed).2.2 7 "a" name fun empty => by simp [empty] at sites
  cases used.symm.trans found
  exact ⟨t,parsed,name,sites,c,found,site,latest⟩

end Model
end ConventionLint.Inference
