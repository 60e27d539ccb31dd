import Mathlib.Data.String.Basic
import ConventionLint.Proofs.Check.Runs
import ConventionLint.Proofs.List
import ConventionLint.Rule.RequiredBase

/-! What the rule about required bases says of a class. One of its ancestors speaks as soon as one of the
classes that it requires is missing, and then lists all that it requires. So the list is one of missing
classes only if nothing that the ancestor requires is there. -/
namespace ConventionLint.Rule.RequiredBase
open Check (Checker File Note)
open ConventionLint.Tree (NodeId)
open Inference (ClassId)

def Lacks (rs : List Requirement) (above : List String) (child : String) : Prop :=
  ∃ r ∈ rs, r.child = child ∧ r.parent ∉ above

instance (rs : List Requirement) (above : List String) (child : String) : Decidable (Lacks rs above child) :=
  inferInstanceAs (Decidable (∃ r ∈ rs, _))

structure Lists (rs : List Requirement) (child : String) (names : List String) : Prop where
  sorted : names.Pairwise (· < ·)
  all : ∀ p, p ∈ names ↔ ⟨child,p⟩ ∈ rs

variable {rs : List Requirement} {child : String} {above names : List String}

theorem listsRequired (rs : List Requirement) (child : String) : Lists rs child (requiredBy rs child) := by
  let parents := ((rs.filter fun r => r.child == child).map Requirement.parent).eraseDups
  have listed : (requiredBy rs child).Perm parents := List.mergeSort_perm _ _
  have ordered : (requiredBy rs child).Pairwise (· ≤ ·) := by
    refine (@List.pairwise_mergeSort _ (fun a b : String => decide (a ≤ b)) ?_ ?_ parents).imp
      fun le => of_decide_eq_true le
    · exact fun a b c ab bc => decide_eq_true (le_trans (of_decide_eq_true ab) (of_decide_eq_true bc))
    · exact fun a b => by simpa using le_total a b
  have apart : (requiredBy rs child).Nodup := listed.nodup_iff.mpr (nodupErased _)
  refine ⟨(ordered.and apart).imp fun ⟨le,ne⟩ => lt_of_le_of_ne le ne,fun p => ?_⟩
  rw [listed.mem_iff,List.mem_eraseDups,List.mem_map]
  constructor
  · rintro ⟨⟨_,_⟩,mem,rfl⟩
    obtain ⟨own,same⟩ := List.mem_filter.mp mem
    exact beq_iff_eq.mp same ▸ own
  · exact fun mem => ⟨_,List.mem_filter.mpr ⟨mem,beq_self_eq_true _⟩,rfl⟩

theorem listsUnique {names' : List String} (lists : Lists rs child names) (others : Lists rs child names') :
    names = names' := by
  have same : names.Perm names' :=
    (List.perm_ext_iff_of_nodup (lists.sorted.imp ne_of_lt) (others.sorted.imp ne_of_lt)).mpr fun p =>
      (lists.all p).trans (others.all p).symm
  exact same.eq_of_pairwise (fun a b _ _ ab ba => absurd ab (lt_asymm ba)) lists.sorted others.sorted

theorem lacksIff (lists : Lists rs child names) : Lacks rs above child ↔ ∃ p ∈ names, p ∉ above := by
  constructor
  · rintro ⟨⟨_,p⟩,mem,rfl,missing⟩
    exact ⟨p,(lists.all p).mpr mem,missing⟩
  · rintro ⟨p,mem,missing⟩
    exact ⟨_,(lists.all p).mp mem,rfl,missing⟩

theorem joinedLength (sep : String) {ss : List String} (nonempty : ss ≠ []) :
    (sep.intercalate ss).length + sep.length = (ss.map fun s => s.length + sep.length).sum := by
  induction ss with
  | nil => exact absurd rfl nonempty
  | cons s ss ih =>
    cases ss with
    | nil => simp
    | cons s' ss =>
      have rest := ih (List.cons_ne_nil _ _)
      rw [String.intercalate_cons_cons,String.length_append,String.length_append,List.map_cons,List.sum_cons,
        ← rest]
      omega

theorem joinedKept {sep : String} (separates : sep ≠ "") {ss : List String} {keep : String → Bool}
    (nonempty : ss.filter keep ≠ []) :
    sep.intercalate ss = sep.intercalate (ss.filter keep) ↔ ∀ s ∈ ss, keep s := by
  constructor
  · intro same
    have filled : ss ≠ [] := fun empty => nonempty (by rw [empty]; rfl)
    have whole := joinedLength sep filled
    rw [same,joinedLength sep nonempty] at whole
    refine keptByWeight (fun s => Nat.add_pos_right _ ?_) whole
    exact Nat.pos_of_ne_zero fun zero => separates (String.length_eq_zero_iff.mp zero)
  · intro all
    rw [List.filter_eq_self.mpr all]

theorem notesOfOrder {f : File} {i : NodeId} {order : List ClassId}
    (found : f.model.mro? (.declared i) = some order) :
    notes rs f i = ((order.filter fun c => Lacks rs (order.map (f.model.qualifiedName f.module))
      (f.model.qualifiedName f.module c)).map fun c => .at missingBase i [f.model.className (.declared i),
        ", ".intercalate (requiredBy rs (f.model.qualifiedName f.module c))]) := by
  have lacking (above : List String) (c : ClassId) :
      (!(requiredBy rs (f.model.qualifiedName f.module c)).all above.contains) =
        decide (Lacks rs above (f.model.qualifiedName f.module c)) := by
    rw [Bool.eq_iff_iff,decide_eq_true_iff,lacksIff (listsRequired rs _)]
    simp
  simp only [notes,found,unmet,List.map_map,List.filter_map,Function.comp_def,lacking]

/-- The rule speaks once for each ancestor that something is missing for, in their order, and lists all that
the ancestor requires. Only where none of this is there the list is one of what is missing. -/
theorem requiredBasesTold {f : File} {text : List Char} (rs : List Requirement)
    (parsed : Tree.parse text = .ok f.tree) :
    (checker rs).notes f =
      (f.tree.ids.filter fun i => f.tree.kind i == .classDef).flatMap (notes rs f) ∧
    ∀ i, (f.model.mro? (.declared i) = none → notes rs f i = []) ∧
      ∀ order, f.model.mro? (.declared i) = some order →
        let name := f.model.qualifiedName f.module
        let above := order.map name
        ∃ told : List (ClassId × List String),
          notes rs f i = told.map (fun e => .at missingBase i
            [f.model.className (.declared i),", ".intercalate e.2]) ∧
          told.map Prod.fst = (order.filter fun c => Lacks rs above (name c)) ∧
          ∀ e ∈ told, Lists rs (name e.1) e.2 ∧
            (", ".intercalate e.2 = ", ".intercalate (e.2.filter (· ∉ above)) ↔
              ∀ p, ⟨name e.1,p⟩ ∈ rs → p ∉ above) := by
  refine ⟨Checker.notesOfKind _ _ _ _ (by decide) parsed,fun i => ⟨fun noOrder => ?_,fun order found => ?_⟩⟩
  · simp only [notes,noOrder]
  · intro name above
    refine ⟨(order.filter fun c => Lacks rs above (name c)).map fun c => (c,requiredBy rs (name c)),?_,?_,?_⟩
    · rw [notesOfOrder found,List.map_map]
      rfl
    · simp [Function.comp_def]
    · refine List.forall_mem_map.mpr fun c mem => ?_
      have lists := listsRequired rs (name c)
      obtain ⟨p,listed,missing⟩ := (lacksIff lists).mp (of_decide_eq_true (List.mem_filter.mp mem).2)
      have nonempty : (requiredBy rs (name c)).filter (· ∉ above) ≠ [] :=
        List.ne_nil_of_mem (List.mem_filter.mpr ⟨listed,decide_eq_true missing⟩)
      refine ⟨lists,(joinedKept (by decide) nonempty).trans ?_⟩
      exact forall_congr' fun p => by rw [lists.all,decide_eq_true_iff]

theorem presentBaseTold :
    let text := "class P: pass\nclass A(P): pass\nclass B(A): pass\n".toList
    let rs := [⟨"a.A","a.Q"⟩,⟨"a.A","a.P"⟩,⟨"a.A","a.C"⟩]
    ∃ t, Tree.parse text = .ok t ∧
      let f := File.ofTree (.ofString "a.py") (.ofString "") t
      f.model.mro? (.declared 6) = some [.declared 6,.declared 3,.declared 1,.object] ∧
      .at missingBase 6 ["B","a.C, a.P, a.Q"] ∈ (checker rs).notes f ∧
      notes rs f 6 = [.at missingBase 6 ["B","a.C, a.P, a.Q"]] ∧
      ["a.C","a.P","a.Q"].filter (· ∉ ["a.B","a.A","a.P","object"]) = ["a.C","a.Q"] := by
  intro text rs
  have required : Lists rs "a.A" ["a.C","a.P","a.Q"] :=
    ⟨by decide,fun p => by simp [rs,or_comm,or_left_comm]⟩
  obtain ⟨t,parsed,read⟩ := Tree.okOfMap (x := Tree.parse text) (b := true) (f := fun t => decide
    (let f := File.ofTree (.ofString "a.py") (.ofString "") t
     f.model.mro? (.declared 6) = some [.declared 6,.declared 3,.declared 1,.object] ∧
     [ClassId.declared 6,.declared 3,.declared 1,.object].map (f.model.qualifiedName f.module) =
       ["a.B","a.A","a.P","object"] ∧
     f.model.className (.declared 6) = "B" ∧ 6 ∈ f.tree.ids ∧ f.tree.kind 6 = .classDef)) (by decide +kernel)
  obtain ⟨found,named,own,listed,isClass⟩ := of_decide_eq_true read
  obtain ⟨whole,each⟩ := requiredBasesTold rs (f := .ofTree (.ofString "a.py") (.ofString "") t) parsed
  obtain ⟨told,noted,speaking,lists⟩ := (each 6).2 _ found
  have alone : told.map Prod.fst = [.declared 3] := by
    rw [speaking,named]
    obtain ⟨b,a,p,o,-⟩ : _ ∧ _ ∧ _ ∧ _ ∧ True := by simpa using named
    simp [b,a,p,o,Lacks,rs]
  obtain ⟨⟨c,names⟩,rfl,rfl⟩ := List.map_eq_singleton_iff.mp alone
  have a : (File.ofTree (.ofString "a.py") (.ofString "") t).model.qualifiedName _ (.declared 3) = "a.A" :=
    (List.cons.inj (List.cons.inj named).2).1
  have all : names = ["a.C","a.P","a.Q"] := listsUnique (a ▸ (lists _ (.head _)).1) required
  have one : notes rs (.ofTree (.ofString "a.py") (.ofString "") t) 6 =
      [.at missingBase 6 ["B","a.C, a.P, a.Q"]] := by
    rw [noted,own,all]
    rfl
  refine ⟨t,parsed,found,?_,one,by decide⟩
  rw [whole]
  refine List.mem_flatMap.mpr ⟨6,List.mem_filter.mpr ⟨listed,beq_iff_eq.mpr isClass⟩,?_⟩
  rw [one]
  exact .head _

end ConventionLint.Rule.RequiredBase
