import ConventionLint.Proofs.Tree.Every

/-! What a construct is lowered to with all its parts. The bound on the depth is met, so that a step lowers the
parts just as they are lowered alone, and a property of nodes may speak of what their parts are lowered to. -/
namespace ConventionLint.Tree
open ConventionLint.Grammar

namespace Lowering

def whole (text : List Char) : Reader := fun c => bounded text c.size c

def smaller (text : List Char) (limit : Nat) : Reader := fun c => if c.size < limit then whole text c else []

section Whole
variable {text : List Char} {I : Concrete → Prop} {P : NodeKind → Span → Payload Nat → List Outline → Prop}
  {c d : Concrete} {limit : Nat}

theorem wholeBounded {n : Nat} (enough : c.size ≤ n) : bounded text n c = whole text c :=
  boundedAgree enough (Nat.le_refl _) rfl fun _ _ => rfl

theorem wholeStep (text : List Char) (c : Concrete) : whole text c = step text (whole text) c := by
  obtain ⟨n,size⟩ : ∃ n, c.size = n + 1 := ⟨c.size - 1,by have := sizePositive c; omega⟩
  have parts (d : Concrete) (part : Part d c) : bounded text n d = whole text d :=
    wholeBounded (by have := partSmaller part; omega)
  rw [whole,size,bounded]
  exact stepAgree ⟨rfl,fun _ _ => rfl,parts⟩

theorem smallerAgree (text : List Char) (fits : c.size ≤ limit) : Agree text text (smaller text limit) (whole text) c :=
  ⟨rfl,fun _ _ => rfl,fun _ part => if_pos (Nat.lt_of_lt_of_le (partSmaller part) fits)⟩

theorem admitsSmaller (admits : Admits text I P (whole text)) (limit : Nat) :
    Admits text (fun c => I c ∧ c.size ≤ limit) P (smaller text limit) where
  parts c d h part := ⟨admits.parts c d h.1 part,Nat.le_trans (Nat.le_of_lt (partSmaller part)) h.2⟩
  plain c k p os h := admits.plain c k p os h.1
  name c h := admits.name c h.1
  call c h kind := by
    rw [(smallerAgree text h.2).call]
    exact admits.call c h.1 kind
  definition c ds d h defines := by
    have own := admits.definition c ds d h.1 defines
    have agree := smallerAgree text h.2
    cases defines with
    | bare => rwa [agree.definition [] rfl]
    | decorated _ found =>
      rwa [(agree.below (partChild found)).definition]
      exact List.flatMap_congr fun d mem =>
        (agree.below (partNamed (List.mem_filter.mp mem).1)).all fun _ => partNamed
  assign c h kind := by
    rw [(smallerAgree text h.2).assign]
    exact admits.assign c h.1 kind
  imports c h := admits.imports c h.1
  importFrom c h := admits.importFrom c h.1

theorem everyWhole (admits : Admits text I P (whole text)) : Yields I P (whole text) := by
  intro c h
  induction size : c.size using Nat.strongRecOn generalizing c with
  | ind n ih =>
    subst size
    have reads : Yields (fun d => I d ∧ d.size ≤ c.size) P (smaller text c.size) := by
      intro d inside o mem
      unfold smaller at mem
      split at mem
      · next below => exact ih d.size below d inside.1 rfl o mem
      · cases mem
    rw [wholeStep,← stepAgree (smallerAgree text (Nat.le_refl _))]
    exact everyStep (admitsSmaller admits c.size) reads c ⟨h,Nat.le_refl _⟩

end Whole

end Lowering

section Outline
variable {text : List Char} {I : Concrete → Prop} {P : NodeKind → Span → Payload Nat → List Outline → Prop}
  {program : Concrete}

theorem outlineWhole (text : List Char) (program : Concrete) :
    outline text program =
      .node .module program.span (.module (Lowering.docstring? text program))
        (program.named.flatMap (Lowering.whole text)) := by
  rw [outline]
  refine congrArg (Outline.node _ _ _) (List.flatMap_congr fun d mem => ?_)
  exact Lowering.wholeBounded (Nat.le_of_lt (Lowering.partSmaller (Lowering.partNamed mem)))

theorem outlineEveryWhole (admits : Lowering.Admits text I P (Lowering.whole text)) (h : I program) :
    (outline text program).Every P := by
  rw [outlineWhole]
  exact Lowering.everyPlain admits rfl rfl nofun h
    (Lowering.everyReads (Lowering.everyWhole admits) (admits.named h))

end Outline

end ConventionLint.Tree
