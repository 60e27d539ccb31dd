import ConventionLint.Check.Checker
import ConventionLint.Proofs.Annotation.Told

/-! The notes of a checker. They are those of its handlers on the nodes that are visited; what holds of all of them
is shown for each handler, with an invariant of the state that the handlers pass on. -/
namespace ConventionLint.Check
open ConventionLint.Tree (NodeId NodeKind)

namespace Checker
variable {f : File} {n : Note}

theorem memReact {hs : List (Handler Unit)} {i : NodeId} :
    n ∈ (react f i hs ()).2 ↔ ∃ h ∈ hs, n ∈ (h.run f i ()).2 := by
  induction hs with
  | nil => simp [react]
  | cons h hs ih => simp [react,ih]

theorem memNotesOf (handlers : List (NodeKind × Handler Unit)) {vs : List Visit} :
    n ∈ notesOf handlers f vs () ↔ ∃ v ∈ vs, ∃ e ∈ handlers,
      (e.2.phase = v.phase ∧ e.1 = f.tree.kind v.node) ∧ n ∈ (e.2.run f v.node ()).2 := by
  induction vs with
  | nil => simp [notesOf]
  | cons v vs ih =>
    have own : n ∈ (react f v.node ((handlers.filter fun e =>
        e.2.phase == v.phase && e.1 == f.tree.kind v.node).map Prod.snd) ()).2 ↔ ∃ e ∈ handlers,
        (e.2.phase = v.phase ∧ e.1 = f.tree.kind v.node) ∧ n ∈ (e.2.run f v.node ()).2 := by
      rw [memReact]
      constructor
      · rintro ⟨h,chosen,noted⟩
        obtain ⟨e,kept,rfl⟩ := List.mem_map.mp chosen
        obtain ⟨listed,fits⟩ := List.mem_filter.mp kept
        exact ⟨e,listed,by simpa using fits,noted⟩
      · rintro ⟨e,listed,fits,noted⟩
        exact ⟨e.2,List.mem_map_of_mem (List.mem_filter.mpr ⟨listed,by simpa using fits⟩),noted⟩
    simp only [notesOf,List.mem_append,own,ih,List.mem_cons,exists_eq_or_imp]

theorem notedAtCall {name description : String} {messages : List Report.Message}
    {own : File → NodeId → List Note}
    (noted : n ∈ (stateless name description messages [.simple "call" own]).notes f) :
    ∃ i, f.tree.kind i = .call ∧ n ∈ own f i := by
  have resolved : (stateless name description messages [.simple "call" own]).resolved =
      [(.call,.simple "call" own)] := by
    have named : Tree.NodeKind.ofName? "call" = some .call := by decide
    simp [Checker.resolved,stateless,Handler.kind?,Handler.simple,named]
  rw [Checker.notes,resolved] at noted
  obtain ⟨⟨phase,i⟩,_,e,listed,⟨_,kind⟩,told⟩ := (memNotesOf [(.call,.simple "call" own)]).mp noted
  obtain rfl := List.mem_singleton.mp listed
  exact ⟨i,kind.symm,told⟩

end Checker

section Notes
variable {σ : Type} {f : File} {I : σ → Prop} {P : Note → Prop}

def Handler.Keeps (h : Handler σ) (f : File) (I : σ → Prop) (P : Note → Prop) : Prop :=
  ∀ i s, I s → I (h.run f i s).1 ∧ ∀ n ∈ (h.run f i s).2, P n

theorem reactKeeps {hs : List (Handler σ)} (all : ∀ h ∈ hs, h.Keeps f I P) (i : NodeId) {s : σ} (own : I s) :
    I (Checker.react f i hs s).1 ∧ ∀ n ∈ (Checker.react f i hs s).2, P n := by
  induction hs generalizing s with
  | nil => exact ⟨own,nofun⟩
  | cons h hs ih =>
    have ⟨first,rest⟩ := List.forall_mem_cons.mp all
    have ⟨kept,noted⟩ := first i s own
    have ⟨last,more⟩ := ih rest kept
    exact ⟨last,List.forall_mem_append.mpr ⟨noted,more⟩⟩

theorem notesOfKeeps {hs : List (Tree.NodeKind × Handler σ)} (all : ∀ e ∈ hs, e.2.Keeps f I P)
    (visits : List Visit) {s : σ} (own : I s) : ∀ n ∈ Checker.notesOf hs f visits s, P n := by
  induction visits generalizing s with
  | nil => exact nofun
  | cons v vs ih =>
    have chosen : ∀ h ∈ (hs.filter fun e => e.2.phase == v.phase && e.1 == f.tree.kind v.node).map Prod.snd,
        h.Keeps f I P :=
      List.forall_mem_map.mpr fun e mem => all e (List.mem_filter.mp mem).1
    have ⟨kept,noted⟩ := reactKeeps chosen v.node own
    exact List.forall_mem_append.mpr ⟨noted,ih kept⟩

theorem Checker.notesKeep {c : Checker} {I : c.State → Prop} (start : I c.initial)
    (all : ∀ h ∈ c.handlers, h.Keeps f I P) : ∀ n ∈ c.notes f, P n := by
  refine notesOfKeeps (fun e mem => ?_) _ start
  obtain ⟨h,listed,found⟩ := List.mem_filterMap.mp mem
  obtain ⟨k,_,rfl⟩ := Option.map_eq_some_iff.mp found
  exact all h listed

theorem simpleKeeps {nodeType : String} {notes : File → NodeId → List Note} {I : Unit → Prop}
    (own : ∀ i, ∀ n ∈ notes f i, P n) : (Handler.simple nodeType notes).Keeps f I P :=
  fun i _ kept => ⟨kept,own i⟩

theorem statelessNotes {name description nodeType : String} {messages : List Report.Message}
    {notes : File → NodeId → List Note} (own : ∀ i, ∀ n ∈ notes f i, P n) :
    ∀ n ∈ (Checker.stateless name description messages [.simple nodeType notes]).notes f, P n :=
  Checker.notesKeep (I := fun _ => True) trivial (List.forall_mem_singleton.mpr (simpleKeeps own))

end Notes

def Note.line? : Note → Option Nat
  | .finding ⟨_, .line n, _⟩ => some n
  | .finding ⟨_, .node _, _⟩ => none
  | .visited _ => none

def Anchored (groups : List Annotation.Group) (notes : List Note) : Prop :=
  ∀ n ∈ notes, ∀ line, n.line? = some line → ∃ g ∈ groups, g.Covers line

structure Checker.Anchors (c : Checker) : Prop where
  notes : ∀ f, Anchored f.groups (c.notes f)

end ConventionLint.Check
