import ConventionLint.Proofs.Check.Walk
import ConventionLint.Proofs.List
import ConventionLint.Proofs.Tree.Calls

/-! The calls that checkers meet. A call of the program is a node just if it is read by lowering, and every
checker is led to that node once. -/
namespace ConventionLint

namespace Tree
open ConventionLint.Grammar (Concrete Span)
open Lowering

def callSpans (t : Tree) : List Span := (t.ids.filter fun i => t.kind i == .call).map t.span

mutual

theorem callsOfNumber (parent : Option NodeId) (next : NodeId) (o : Outline) :
    ((o.number parent next).filter fun n => n.kind == .call).map Node.span = o.calls := by
  cases o with
  | node k s p os =>
    rw [Outline.number,Outline.calls,← callsOfNumberAll next (next + 1) os,List.filter_cons]
    by_cases call : k = .call
    · simp [call]
    · simp [call]

theorem callsOfNumberAll (parent next : NodeId) (os : List Outline) :
    ((Outline.numberAll parent next os).filter fun n => n.kind == .call).map Node.span =
      Outline.callsOf os := by
  cases os with
  | nil => rfl
  | cons o os =>
    rw [Outline.numberAll,List.filter_append,List.map_append,callsOfNumber (some parent) next o,
      callsOfNumberAll parent (next + o.size) os,Outline.callsOf]

end

theorem nodesByNumber (t : Tree) : t.ids.map t.node = t.nodes.toList := by
  refine List.ext_getElem (by simp [Tree.ids,Tree.size]) fun i short long => ?_
  simp only [List.length_map,Tree.ids,List.length_range] at short
  simp [Tree.ids,Tree.node,Array.getD,show i < t.nodes.size from short]

theorem callSpansOfOutline (text : List Char) (o : Outline) : callSpans (ofOutline text o) = o.calls := by
  have nodes := nodesByNumber (ofOutline text o)
  have calls := callsOfNumber none 0 o
  rw [← calls,show (o.number none 0) = (ofOutline text o).nodes.toList from rfl,← nodes,List.filter_map,
    List.map_map]
  rfl

end Tree

namespace Check
open ConventionLint.Tree Lowering
open ConventionLint.Grammar (Span)

/-- The calls among the nodes of a parsed text are those that are read, one for one and in the order of the
text, and each is entered once. They are all calls outside of types just if each of these is read. -/
theorem callsMet {text : List Char} {t : Tree} (parsed : Tree.parse text = .ok t) :
    ∃ program, Grammar.parse text = .ok program ∧
      (callsIn text .read program).map Prod.snd = writtenCalls program ∧
      t.callSpans = ((callsIn text .read program).filter fun e => e.1 == .read).map Prod.snd ∧
      (t.callSpans = ((callsIn text .read program).filter fun e => e.1 != .typed).map Prod.snd ↔
        ∀ e ∈ callsIn text .read program, e.1 ≠ .typed → e.1 = .read) ∧
      ∀ i, t.kind i = .call → (walk t).count ⟨.enter,i⟩ = 1 := by
  have entering := entersOnce parsed
  obtain ⟨program,ok,rfl⟩ := outlineOfParse parsed
  have kept : (ofOutline text (outline text program)).callSpans =
      ((callsIn text .read program).filter fun e => e.1 == .read).map Prod.snd :=
    (callSpansOfOutline text _).trans (outlineCalls ok)
  refine ⟨program,ok,callsInWritten _ program,kept,?_,fun i call => ?_⟩
  · rw [kept,keptAll]
    · simp
    · simp
  · rw [entering,if_pos (insideOfKind (call ▸ nofun))]

theorem callInFormat :
    let text := "x: T() = f(f'\x7bg():\x7bh()\x7d\x7d')\n".toList
    ∃ t program, Tree.parse text = .ok t ∧ Grammar.parse text = .ok program ∧
      (callsIn text .read program).map (fun e => (e.1,e.2.start.offset)) =
        [(.typed,3),(.read,9),(.read,14),(.lost,19)] ∧
      t.callSpans.map (fun s => s.start.offset) = [9,14] ∧
      t.callSpans ≠ ((callsIn text .read program).filter fun e => e.1 != .typed).map Prod.snd := by
  intro text
  obtain ⟨t,parsed,spans⟩ : ∃ t, Tree.parse text = .ok t ∧ t.callSpans.map (fun s => s.start.offset) = [9,14] :=
    okOfMap (by decide +kernel)
  obtain ⟨program,ok,calls⟩ : ∃ program, Grammar.parse text = .ok program ∧
      (callsIn text .read program).map (fun e => (e.1,e.2.start.offset)) =
        [(.typed,3),(.read,9),(.read,14),(.lost,19)] := okOfMap (by decide +kernel)
  obtain ⟨same,ok',_,_,whole,_⟩ := callsMet parsed
  cases ok.symm.trans ok'
  refine ⟨t,program,parsed,ok,calls,spans,fun all => ?_⟩
  have lost : (Standing.lost,19) ∈ (callsIn text .read program).map (fun e => (e.1,e.2.start.offset)) := by
    simp [calls]
  obtain ⟨e,mem,here⟩ := List.mem_map.mp lost
  have standing : e.1 = .lost := congrArg Prod.fst here
  have read := whole.mp all e mem (by simp [standing])
  cases standing.symm.trans read

end Check
end ConventionLint
