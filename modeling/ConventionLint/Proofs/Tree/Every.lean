import ConventionLint.Proofs.Tree.Lowering
import ConventionLint.Proofs.Tree.Order

/-! What holds of every node that lowering makes. Most nodes are plain, their data neither name nor bind
anything and have no arguments. The others stand for an identifier, a call, a definition, an assignment or an
import. So a property holds of all nodes as soon as plain nodes and these few have it, for constructs that
satisfy a condition which goes over to parts. -/
namespace ConventionLint.Tree
open ConventionLint.Grammar

def Payload.isPlain {ρ : Type} : Payload ρ → Bool
  | .name _ | .call .. | .classDef .. | .functionDef .. | .assign .. | .imports _ | .importFrom .. => false
  | _ => true

def NodeKind.isDefinition : NodeKind → Bool
  | .classDef | .functionDef => true
  | _ => false

namespace Outline

def Has (P : NodeKind → Span → Payload Nat → List Outline → Prop) : Outline → Prop
  | .node k s p cs => P k s p cs

inductive Every (P : NodeKind → Span → Payload Nat → List Outline → Prop) : Outline → Prop where
  | node {k : NodeKind} {s : Span} {p : Payload Nat} {cs : List Outline} (own : P k s p cs)
      (below : ∀ o ∈ cs, Every P o) : Every P (.node k s p cs)

theorem everyParts {P : NodeKind → Span → Payload Nat → List Outline → Prop} (k : NodeKind) (s : Span)
    (p : Payload Nat) (cs : List Outline) (every : (Outline.node k s p cs).Every P) :
    ∀ o ∈ cs, o.Every P := by
  cases every with
  | node _ below => exact below

end Outline

namespace Lowering

inductive Defines : Concrete → List Concrete → Concrete → Prop where
  | bare {c : Concrete} (kind : c.hasKind .classDefinition ∨ c.hasKind .functionDefinition) :
      Defines c [] c
  | decorated {c d : Concrete} (kind : c.hasKind .decoratedDefinition)
      (found : c.child? .definition = some d) :
      Defines c (c.named.filter fun e => e.hasKind .decorator) d

def IsConstant (text : List Char) (c : Concrete) (l : Literal) : Prop := ∀ r, step text r c = constant c l

structure Admits (text : List Char) (I : Concrete → Prop)
    (P : NodeKind → Span → Payload Nat → List Outline → Prop) (r : Reader) : Prop where
  parts : ∀ c d, I c → Part d c → I d
  plain : ∀ c k p os, I c → k.isDefinition = false → p.isPlain = true →
    (∀ l, p = .const l → k = .const ∧ IsConstant text c l) → P k c.span p os
  name : ∀ c, I c → c.hasKind .identifier → P .name c.span (.name (written text c)) []
  call : ∀ c, I c → c.hasKind .call → (call text r c).Has P
  definition : ∀ c ds d, I c → Defines c ds d → (definition text r ds d).Has P
  assign : ∀ c, I c → c.hasKind .assignment → (assign r c).Has P
  imports : ∀ c, I c → c.hasKind .importStatement → (importNode text c).Has P
  importFrom : ∀ c, I c → c.hasKind .importFromStatement ∨ c.hasKind .futureImportStatement →
    (importFrom text c).Has P

def Yields (I : Concrete → Prop) (P : NodeKind → Span → Payload Nat → List Outline → Prop) (r : Reader) : Prop :=
  ∀ c, I c → ∀ o ∈ r c, o.Every P

section Every
variable {text : List Char} {I : Concrete → Prop} {P : NodeKind → Span → Payload Nat → List Outline → Prop}
  {r : Reader} {c d : Concrete} {os : List Outline} {cs : List Concrete}

theorem Admits.named (admits : Admits text I P r) (h : I c) : ∀ d ∈ c.named, I d :=
  fun d mem => admits.parts c d h (partNamed mem)

theorem everyPlain (admits : Admits text I P r) {k : NodeKind} {p : Payload Nat}
    (other : k.isDefinition = false) (plain : p.isPlain = true)
    (constant : ∀ l, p = .const l → k = .const ∧ IsConstant text c l) (h : I c) (below : ∀ o ∈ os, o.Every P) :
    (Outline.node k c.span p os).Every P :=
  .node (admits.plain c k p os h other plain constant) below

theorem everySingle (admits : Admits text I P r) (reads : Yields I P r) (h : I c) :
    (single r c).Every P := by
  unfold single
  cases last : (r c).getLast? with
  | none => exact everyPlain admits rfl rfl nofun h (List.forall_mem_nil _)
  | some o => exact reads c h o (List.mem_of_getLast? last)

theorem everyReads (reads : Yields I P r) (h : ∀ d ∈ cs, I d) : ∀ o ∈ cs.flatMap r, o.Every P := by
  intro o mem
  obtain ⟨d,hd,inside⟩ := List.mem_flatMap.mp mem
  exact reads d (h d hd) o inside

theorem everySingles (admits : Admits text I P r) (reads : Yields I P r) (h : ∀ d ∈ cs, I d) :
    ∀ o ∈ cs.map (single r), o.Every P :=
  List.forall_mem_map.mpr fun d mem => everySingle admits reads (h d mem)

theorem everyOver (admits : Admits text I P r) (reads : Yields I P r) {k : NodeKind} {p : Payload Nat}
    (other : k.isDefinition = false) (plain : p.isPlain = true)
    (constant : ∀ l, p = .const l → k = .const ∧ IsConstant text c l) (h : I c) (part : Part d c) :
    (Outline.node k c.span p [single r d]).Every P :=
  everyPlain admits other plain constant h
    (List.forall_mem_singleton.mpr (everySingle admits reads (admits.parts c d h part)))

theorem everyKeyword (admits : Admits text I P r) (reads : Yields I P r) (h : I c) :
    (keyword text r c).Every P := by
  unfold keyword
  split
  · next found => exact everyOver admits reads rfl rfl nofun h (partChild found)
  · exact everyPlain admits rfl rfl nofun h (List.forall_mem_nil _)

theorem everySpread (admits : Admits text I P r) (reads : Yields I P r) (h : I c) :
    (spread r c).Every P := by
  refine everyPlain admits rfl rfl nofun h (List.forall_mem_singleton.mpr (everySingle admits reads ?_))
  cases first : c.named.head? with
  | none => exact h
  | some d => exact admits.named h d (List.mem_of_head? first)

theorem definedParts (admits : Admits text I P r) (h : I c) {ds : List Concrete}
    (defines : Defines c ds d) : I d ∧ ∀ e ∈ ds, I e := by
  cases defines with
  | bare => exact ⟨h,List.forall_mem_nil _⟩
  | decorated _ found =>
    exact ⟨admits.parts c d h (partChild found),
      fun e mem => admits.named h e (List.mem_filter.mp mem).1⟩

theorem everyDefinition (admits : Admits text I P r) (reads : Yields I P r) (h : I c)
    {ds : List Concrete} (defines : Defines c ds d) : (definition text r ds d).Every P := by
  have own := admits.definition c ds d h defines
  obtain ⟨here,decorators⟩ := definedParts admits h defines
  have above : ∀ o ∈ ds.flatMap fun d => d.named.flatMap r, o.Every P := by
    intro o mem
    obtain ⟨e,he,inside⟩ := List.mem_flatMap.mp mem
    exact everyReads reads (admits.named (decorators e he)) o inside
  have within (role : Role) : ∀ e ∈ namedIn d role, I e :=
    fun e mem => admits.parts d e here (partNamedIn mem)
  unfold definition at own ⊢
  dsimp only at own ⊢
  split at own
  · next isClass =>
    rw [if_pos isClass]
    refine .node own (List.forall_mem_append.mpr ⟨List.forall_mem_append.mpr ⟨above,?_⟩,?_⟩)
    · refine List.forall_mem_map.mpr fun e mem => ?_
      split
      · exact everySingle admits reads (within .superclasses e mem)
      · exact everyKeyword admits reads (within .superclasses e mem)
    · exact everyReads reads (within .body)
  · next other =>
    rw [if_neg other]
    refine .node own (List.forall_mem_append.mpr ⟨List.forall_mem_append.mpr ⟨above,?_⟩,?_⟩)
    · refine everySingles admits reads fun v mem => ?_
      obtain ⟨e,he,found⟩ := List.mem_filterMap.mp mem
      exact admits.parts e v (within .parameters e he) (partDefault found)
    · exact everyReads reads (within .body)

theorem everyArgument (admits : Admits text I P r) (reads : Yields I P r) (h : I c) :
    (argument text r c).Every P := by
  unfold argument
  split
  · exact everyKeyword admits reads h
  · exact everySpread admits reads h
  · exact everySingle admits reads h

theorem hasCall (calls : ∀ f as ks os, P .call c.span (.call f as ks) os)
    (missing : ∀ kind, P .other c.span (.other kind) []) : (call text r c).Has P := by
  unfold call
  split
  · exact calls _ _ _ _
  · exact missing _

theorem everyCall (admits : Admits text I P r) (reads : Yields I P r) (h : I c) (kind : c.hasKind .call) :
    (call text r c).Every P := by
  have own := admits.call c h kind
  unfold call at own ⊢
  cases found : c.child? .function with
  | none =>
    rw [found] at own
    exact .node own (List.forall_mem_nil _)
  | some f =>
    rw [found] at own
    refine .node own (List.forall_mem_cons.mpr ⟨?_,List.forall_mem_map.mpr fun d mem => ?_⟩)
    · exact everySingle admits reads (admits.parts c f h (partChild found))
    · exact everyArgument admits reads (admits.parts c d h (partArgument mem))

theorem everyAccess (admits : Admits text I P r) (reads : Yields I P r) (h : I c) :
    (access text r c).Every P := by
  unfold access
  split
  · next found => exact everyOver admits reads rfl rfl nofun h (partChild found)
  · exact everyPlain admits rfl rfl nofun h (List.forall_mem_nil _)

theorem everyString (admits : Admits text I P r) (reads : Yields I P r) (h : I c)
    (own : ∀ r, step text r c = [string text r c]) : (string text r c).Every P := by
  unfold string
  extract_lets pieces tokens
  have all : ∀ d ∈ pieces, I d := by
    dsimp only [pieces]
    split
    · exact admits.named h
    · exact List.forall_mem_singleton.mpr h
  split
  · refine everyPlain admits rfl rfl nofun h (everySingles admits reads fun v mem => ?_)
    obtain ⟨d,hd,inside⟩ := List.mem_flatMap.mp mem
    exact admits.parts d v (all d hd) (partInterpolated inside)
  · next plain =>
    refine everyPlain admits rfl rfl (fun l same => ⟨rfl,fun r' => ?_⟩) h (List.forall_mem_nil _)
    rw [own,string,← Payload.const.inj same]
    exact congrArg ([·]) (if_neg plain)

theorem everyNumber (admits : Admits text I P r) (h : I c) (own : ∀ r, step text r c = [number text c]) :
    (number text c).Every P := by
  unfold number at own ⊢
  split at own
  · exact everyPlain admits rfl rfl (fun _ same => ⟨rfl,Payload.const.inj same ▸ own⟩) h (List.forall_mem_nil _)
  · exact everyPlain admits rfl rfl nofun h (List.forall_mem_nil _)

theorem everyEntry (admits : Admits text I P r) (reads : Yields I P r) (h : I c) :
    ∀ o ∈ (DictPart.read r c).outlines, o.Every P := by
  have child {role : Role} {d : Concrete} (found : c.child? role = some d) : (single r d).Every P :=
    everySingle admits reads (admits.parts c d h (partChild found))
  unfold DictPart.read
  split
  · split
    · next k v foundKey foundValue =>
      exact List.forall_mem_cons.mpr ⟨child foundKey,List.forall_mem_singleton.mpr (child foundValue)⟩
    · exact List.forall_mem_nil _
  · exact reads c h

theorem everyDict (admits : Admits text I P r) (reads : Yields I P r) (h : I c) :
    (dict r c).Every P := by
  refine everyPlain admits rfl rfl nofun h fun o mem => ?_
  obtain ⟨_,listed,inside⟩ := List.mem_flatMap.mp mem
  obtain ⟨d,hd,rfl⟩ := List.mem_map.mp listed
  exact everyEntry admits reads (admits.named h d hd) o inside

theorem everyAssign (admits : Admits text I P r) (reads : Yields I P r) (h : I c)
    (kind : c.hasKind .assignment) : (assign r c).Every P := by
  have chained := @partChain c c.size
  refine .node (admits.assign c h kind) (everySingles admits reads (List.forall_mem_append.mpr ⟨?_,?_⟩))
  · exact fun d mem => admits.parts c d h (chained.1 d mem)
  · exact fun d mem => admits.parts c d h (chained.2 d (Option.mem_toList.mp mem))

theorem everyStep (admits : Admits text I P r) (reads : Yields I P r) : Yields I P (step text r) := by
  intro c h
  have parts : ∀ o ∈ c.named.flatMap r, o.Every P := everyReads reads (admits.named h)
  have singles := everySingles admits reads (admits.named h)
  have one {o : Outline} (own : o.Every P) : ∀ p ∈ [o], p.Every P := List.forall_mem_singleton.mpr own
  have sequence (k : NodeKind) (other : k.isDefinition = false) : ∀ p ∈ [sequence k r c], p.Every P :=
    one (everyPlain admits other rfl nofun h singles)
  have constant (l : Literal) (own : IsConstant text c l) : ∀ p ∈ constant c l, p.Every P :=
    one (everyPlain admits rfl rfl (fun _ same => ⟨rfl,Payload.const.inj same ▸ own⟩) h (List.forall_mem_nil _))
  unfold step
  cases found : c.kind? with
  | none => exact List.forall_mem_nil _
  | some k =>
    have kind : c.hasKind k = true := by simp [Concrete.hasKind,found]
    dsimp only
    split
    · exact parts
    · exact parts
    · intro o mem
      obtain ⟨d,first,rfl⟩ := Option.map_eq_some_iff.mp (Option.mem_toList.mp mem)
      exact everySingle admits reads (admits.named h d (List.mem_of_head? first))
    · intro o mem
      obtain ⟨d,inner,rfl⟩ := Option.map_eq_some_iff.mp (Option.mem_toList.mp mem)
      exact everyDefinition admits reads h (.decorated kind inner)
    · exact one (everyDefinition admits reads h (.bare (.inl kind)))
    · exact one (everyDefinition admits reads h (.bare (.inr kind)))
    · exact one (everyCall admits reads h kind)
    · exact one (everyKeyword admits reads h)
    · exact one (.node (admits.name c h kind) (List.forall_mem_nil _))
    · exact one (everyAccess admits reads h)
    · exact one (everyString admits reads h fun _ => by rw [step,found])
    · exact one (everyString admits reads h fun _ => by rw [step,found])
    · exact one (everyNumber admits h fun _ => by rw [step,found])
    · exact one (everyNumber admits h fun _ => by rw [step,found])
    · exact constant _ fun _ => by rw [step,found]
    · exact constant _ fun _ => by rw [step,found]
    · exact constant _ fun _ => by rw [step,found]
    · exact constant _ fun _ => by rw [step,found]
    · exact one (everyDict admits reads h)
    · exact sequence _ rfl
    · exact sequence _ rfl
    · exact sequence _ rfl
    · exact sequence _ rfl
    · exact sequence _ rfl
    · exact sequence _ rfl
    · exact sequence _ rfl
    · exact one (everyPlain admits rfl rfl nofun h singles)
    · exact one (everyAssign admits reads h kind)
    · exact one (.node (admits.imports c h kind) (List.forall_mem_nil _))
    · exact one (.node (admits.importFrom c h (.inl kind)) (List.forall_mem_nil _))
    · exact one (.node (admits.importFrom c h (.inr kind)) (List.forall_mem_nil _))
    · exact one (everyPlain admits rfl rfl nofun h parts)

theorem everyBounded (admits : ∀ n, Admits text I P (bounded text n)) (n : Nat) :
    Yields I P (bounded text n) := by
  induction n with
  | zero => exact fun c h => List.forall_mem_nil _
  | succ n ih => exact everyStep (admits n) ih

end Every
end Lowering

section Outline
variable {text : List Char} {I : Concrete → Prop} {P : NodeKind → Span → Payload Nat → List Outline → Prop}
  {program : Concrete}

theorem outlineEvery (admits : ∀ n, Lowering.Admits text I P (Lowering.bounded text n)) (h : I program) :
    (outline text program).Every P :=
  Lowering.everyPlain (admits 0) rfl rfl nofun h
    (Lowering.everyReads (Lowering.everyBounded admits _) ((admits 0).named h))

theorem everyPlace {o : Outline} (every : o.Every P) {i : NodeId} (inside : i < (ofOutline text o).size) :
    ∃ above k s p cs, Outline.Stored (ofOutline text o).nodes.toList above i (.node k s p cs) ∧ P k s p cs := by
  rw [sizeOfOutline] at inside
  obtain ⟨above,_,stored,every,_⟩ := Outline.storedEvery Outline.everyParts (storedTop text o) every
    (Nat.zero_le i) (by simpa [root] using inside)
  cases every with
  | node own _ => exact ⟨above,_,_,_,_,stored,own⟩

end Outline

end ConventionLint.Tree
