import ConventionLint.Proofs.Check.Registry
import ConventionLint.Proofs.Check.Walk
import ConventionLint.Proofs.List

/-! What a checker does in a parsed text, as the list of the runs of its handlers: which of them run on a
node, and on which nodes one of them runs. -/
namespace ConventionLint.Check
open ConventionLint.Tree (NodeId NodeKind)

def Handler.IsFor {σ : Type} (h : Handler σ) (phase : Phase) (kind : NodeKind) : Prop :=
  h.phase = phase ∧ NodeKind.Spells h.nodeType kind

instance {σ : Type} (h : Handler σ) (phase : Phase) (kind : NodeKind) : Decidable (h.IsFor phase kind) :=
  inferInstanceAs (Decidable (_ ∧ _))

namespace Checker
variable {c : Checker} {t : Tree} {text : List Char}

def registered (c : Checker) (phase : Phase) (kind : NodeKind) : List (Handler c.State × Nat) :=
  c.handlers.zipIdx.filter fun e => e.1.IsFor phase kind

def runs (c : Checker) (t : Tree) : List ((Handler c.State × Nat) × NodeId) :=
  (walk t).flatMap fun v => (c.registered v.phase (t.kind v.node)).map fun e => (e,v.node)

theorem handlesIff {σ : Type} (h : Handler σ) (phase : Phase) (kind : NodeKind) :
    h.handles phase kind = decide (h.IsFor phase kind) := by
  simp only [Handler.handles,Handler.IsFor,NodeKind.spellsIff,Handler.kind?,Bool.decide_and,
    Bool.beq_eq_decide_eq]

theorem registeredHandlers (phase : Phase) (kind : NodeKind) :
    (c.registered phase kind).map Prod.fst = c.handlers.filter (·.handles phase kind) := by
  simp only [handlesIff]
  have whole : c.handlers = c.handlers.zipIdx.map Prod.fst := by simp
  conv_rhs => rw [whole,List.filter_map]
  rfl

theorem notesOfRuns (f : File) :
    c.notes f = (inTurn (fun e => e.1.1.run f e.2) (c.runs f.tree) c.initial).2 := by
  have one (v : Visit) : c.respond f v.phase v.node = inTurn (fun e => e.1.1.run f e.2)
      ((c.registered v.phase (f.tree.kind v.node)).map fun e => (e,v.node)) := by
    funext s
    rw [inTurnMap,respond,← registeredHandlers,inTurnMap]
  simp only [notes,notesOfInTurn,runs,inTurnFlatMap,one]

theorem runsAt (parsed : Tree.parse text = .ok t) (phase : Phase) (i : NodeId) :
    ((c.runs t).filter fun e => e.1.1.phase == phase && e.2 == i).map Prod.fst =
      if i < t.size then c.registered phase (t.kind i) else [] := by
  have one (v : Visit) : (((c.registered v.phase (t.kind v.node)).map fun e => (e,v.node)).filter
      fun e => e.1.1.phase == phase && e.2 == i).map Prod.fst =
        if v == ⟨phase,i⟩ then c.registered phase (t.kind i) else [] := by
    obtain ⟨own,j⟩ := v
    have same : ∀ e ∈ c.registered own (t.kind j), e.1.phase = own := by
      intro e mem
      exact (of_decide_eq_true (List.mem_filter.mp mem).2).1
    by_cases here : own = phase ∧ j = i
    · obtain ⟨rfl,rfl⟩ := here
      rw [List.filter_eq_self.mpr]
      · simp [Function.comp_def]
      · simp only [List.mem_map,Bool.and_eq_true,beq_iff_eq]
        rintro _ ⟨e,mem,rfl⟩
        exact ⟨same e mem,rfl⟩
    · rw [List.filter_eq_nil_iff.mpr]
      · simp [here]
      · simp only [List.mem_map,Bool.and_eq_true,beq_iff_eq]
        rintro _ ⟨e,mem,rfl⟩ ⟨hit,rfl⟩
        exact here ⟨(same e mem).symm.trans hit,rfl⟩
  rw [runs,List.filter_flatMap,List.map_flatMap]
  simp only [one,flatMapSingle,visitsOnce parsed]
  by_cases inside : i < t.size
  · simp [inside]
  · simp [inside]

theorem runsOf (parsed : Tree.parse text = .ok t) {j : Nat} {h : Handler c.State}
    (found : c.handlers[j]? = some h) :
    (((c.runs t).filter fun e => e.1.2 == j).map Prod.snd).Perm
      (t.ids.filter fun i => NodeKind.Spells h.nodeType (t.kind i)) := by
  have own : ∀ e ∈ c.runs t, e.1.2 = j → e.1.1 = h := by
    intro e mem same
    obtain ⟨v,_,ran⟩ := List.mem_flatMap.mp mem
    obtain ⟨d,chosen,rfl⟩ := List.mem_map.mp ran
    have listed := List.mk_mem_zipIdx_iff_getElem?.mp (List.mem_filter.mp chosen).1
    rw [same,found] at listed
    exact (Option.some.inj listed).symm
  refine List.perm_iff_count.mpr fun i => ?_
  calc (((c.runs t).filter fun e => e.1.2 == j).map Prod.snd).count i
      = ((((c.runs t).filter fun e => e.1.1.phase == h.phase && e.2 == i).map Prod.fst).countP
          fun e => e.2 == j) := by
        rw [List.count,List.countP_map,List.countP_map,List.countP_filter,List.countP_filter]
        refine List.countP_congr fun e mem => ?_
        have same := own e mem
        simp only [Function.comp,Bool.and_eq_true,beq_iff_eq]
        exact ⟨fun hit => ⟨hit.2,by rw [same hit.2],hit.1⟩,fun hit => ⟨hit.2.2,hit.1⟩⟩
    _ = if i < t.size ∧ NodeKind.Spells h.nodeType (t.kind i) then 1 else 0 := by
        rw [runsAt parsed]
        by_cases inside : i < t.size
        · have one := countNumbered found (fun e => e.1.IsFor h.phase (t.kind i)) 0
          simp only [Nat.zero_add] at one
          rw [if_pos inside,registered,List.countP_filter]
          simpa [inside,Handler.IsFor,and_comm,Bool.and_comm] using one
        · simp [inside]
    _ = _ := by
        by_cases spelled : NodeKind.Spells h.nodeType (t.kind i)
        · rw [List.count_filter (by simpa using spelled),Tree.ids,List.nodup_range.count]
          simp [spelled]
        · rw [List.count_eq_zero_of_not_mem (by simp [spelled])]
          simp [spelled]

theorem notesOfKind {nodeType : String} {kind : NodeKind} (name description : String)
    (messages : List Report.Message) (own : File → NodeId → List Note) {f : File} {text : List Char}
    (named : NodeKind.ofName? nodeType = some kind) (parsed : Tree.parse text = .ok f.tree) :
    (stateless name description messages [.simple nodeType own]).notes f =
      (f.tree.ids.filter fun i => f.tree.kind i == kind).flatMap (own f) := by
  let c := stateless name description messages [.simple nodeType own]
  have answer (v : Visit) : c.respond f v.phase v.node () =
      ((),if v.phase = .enter ∧ f.tree.kind v.node = kind then own f v.node else []) := by
    have chosen : c.handlers.filter (·.handles v.phase (f.tree.kind v.node)) =
        if v.phase = .enter ∧ f.tree.kind v.node = kind then [Handler.simple nodeType own] else [] := by
      have fits : (Handler.simple nodeType own).handles v.phase (f.tree.kind v.node) = true ↔
          v.phase = .enter ∧ f.tree.kind v.node = kind := by
        simp only [Handler.handles,Handler.simple,Handler.kind?,named,Bool.and_eq_true,beq_iff_eq,
          Option.some.injEq]
        exact and_congr eq_comm eq_comm
      simp only [c,stateless,List.filter_cons,fits,List.filter_nil]
    rw [respond,chosen]
    split <;> simp only [inTurn,List.append_nil] <;> rfl
  have visits (vs : List Visit) : (inTurn (fun v => c.respond f v.phase v.node) vs ()).2 =
      ((entered vs).filter fun i => f.tree.kind i == kind).flatMap (own f) := by
    induction vs with
    | nil => rfl
    | cons v vs ih =>
      simp only [inTurn,answer,ih]
      obtain ⟨phase,i⟩ := v
      cases phase with
      | leave => simp [entered]
      | enter => by_cases same : f.tree.kind i = kind <;> simp [entered,same]
  obtain ⟨program,_,same⟩ := Tree.outlineOfParse parsed
  rw [notes,notesOfInTurn]
  refine (visits _).trans ?_
  rw [same,enteredOutline]

end Checker

end ConventionLint.Check
