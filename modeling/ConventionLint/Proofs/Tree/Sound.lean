import ConventionLint.Tree.Lowering

/-! Lowering refers from the data of a node to the parts of that node only. A comparison without
operands is the exception: it still refers to a first one. -/
namespace ConventionLint.Tree
open ConventionLint.Grammar (Concrete)

def Payload.isCompare {ρ : Type} : Payload ρ → Bool
  | .compare .. => true
  | _ => false

inductive Outline.Sound : Outline → Prop where
  | node {k : NodeKind} {s : Grammar.Span} {p : Payload Nat} {cs : List Outline}
      (own : p.isCompare = false ∨ cs ≠ [] → ∀ r ∈ p.refs, r < cs.length)
      (below : ∀ c ∈ cs, Sound c) : Sound (.node k s p cs)

namespace Lowering

def AllSound (os : List Outline) : Prop := ∀ o ∈ os, o.Sound

def SoundReader (r : Reader) : Prop := ∀ c, AllSound (r c)

section Sound
variable {text : List Char} {r : Reader} {c : Concrete} {os ps : List Outline}

theorem allSoundNil : AllSound [] := fun o mem => by cases mem

theorem allSoundAppend : AllSound (os ++ ps) ↔ AllSound os ∧ AllSound ps := by
  simp only [AllSound,List.mem_append]
  exact ⟨fun h => ⟨fun o ho => h o (.inl ho),fun o ho => h o (.inr ho)⟩,
    fun h o ho => ho.elim (h.1 o) (h.2 o)⟩

theorem allSoundMap {α : Type} {f : α → Outline} (sound : ∀ a, (f a).Sound) (as : List α) :
    AllSound (as.map f) := by
  intro o mem
  obtain ⟨a,_,rfl⟩ := List.mem_map.mp mem
  exact sound a

theorem allSoundFlatMap {α : Type} {f : α → List Outline} (sound : ∀ a, AllSound (f a)) (as : List α) :
    AllSound (as.flatMap f) := by
  intro o mem
  obtain ⟨a,_,inside⟩ := List.mem_flatMap.mp mem
  exact sound a o inside

theorem allSoundSingle {o : Outline} (sound : o.Sound) : AllSound [o] := by
  intro p mem
  rw [List.mem_singleton.mp mem]
  exact sound

theorem soundPlain {k : NodeKind} {s : Grammar.Span} {p : Payload Nat} (noRefs : p.refs = [])
    (below : AllSound os) : (Outline.node k s p os).Sound :=
  .node (fun _ r mem => by rw [noRefs] at mem; cases mem) below

theorem soundUnmodelled (below : AllSound os) : (unmodelled c os).Sound := soundPlain rfl below

theorem soundSingle (reads : SoundReader r) (c : Concrete) : (single r c).Sound := by
  unfold single
  cases last : (r c).getLast? with
  | none => exact soundUnmodelled allSoundNil
  | some o => exact reads c o (List.mem_of_getLast? last)

theorem placesFromBound {α : Type} {p : α → Bool} {as : List α} {next i : Nat}
    (mem : i ∈ placesFrom next p as) : i < next + as.length := by
  induction as generalizing next with
  | nil => cases mem
  | cons a as ih =>
    simp only [placesFrom,List.length_cons] at mem ⊢
    split at mem
    · rcases List.mem_cons.mp mem with rfl | mem
      · omega
      · have := ih mem
        omega
    · have := ih mem
      omega

theorem placesBound {next count i : Nat} (mem : i ∈ places next count) : i < next + count := by
  have := List.mem_range'_1.mp mem
  omega

theorem soundKeyword (reads : SoundReader r) (c : Concrete) : (keyword text r c).Sound := by
  unfold keyword
  split
  · exact .node (by simp [Payload.refs]) (allSoundSingle (soundSingle reads _))
  · exact soundUnmodelled allSoundNil

theorem soundSpread (reads : SoundReader r) (c : Concrete) : (spread r c).Sound :=
  .node (by simp [Payload.refs]) (allSoundSingle (soundSingle reads _))

theorem soundClassDef (reads : SoundReader r) (c : Concrete) (before : AllSound os) :
    (classDef text r c os).Sound := by
  refine .node (fun _ i mem => ?_) ?_
  · have := placesFromBound mem
    simp only [List.length_append,List.length_map]
    omega
  · refine allSoundAppend.mpr ⟨allSoundAppend.mpr ⟨before,allSoundMap ?_ _⟩,allSoundFlatMap reads _⟩
    intro d
    split
    · exact soundSingle reads d
    · exact soundKeyword reads d

theorem soundFunctionDef (reads : SoundReader r) (c : Concrete) (before : AllSound os) :
    (functionDef text r c os).Sound := by
  refine soundPlain rfl (allSoundAppend.mpr ⟨allSoundAppend.mpr ⟨before,?_⟩,allSoundFlatMap reads _⟩)
  exact allSoundMap (soundSingle reads) _

theorem soundDefinition (reads : SoundReader r) (decorators : List Concrete) (c : Concrete) :
    (definition text r decorators c).Sound := by
  have before : AllSound (decorators.flatMap fun d => d.named.flatMap r) :=
    allSoundFlatMap (fun d => allSoundFlatMap reads _) _
  unfold definition
  dsimp only
  split
  · exact soundClassDef reads c before
  · exact soundFunctionDef reads c before

theorem soundArgument (reads : SoundReader r) (c : Concrete) : (argument text r c).Sound := by
  unfold argument
  split
  · exact soundKeyword reads c
  · exact soundSpread reads c
  · exact soundSingle reads c

theorem soundCall (reads : SoundReader r) (c : Concrete) : (call text r c).Sound := by
  unfold call
  split
  · refine .node (fun _ i mem => ?_) ?_
    · have bound : i = 0 ∨ i < 1 + (argumentsOf c).length := by
        rcases List.mem_append.mp mem with mem | mem
        · rcases List.mem_cons.mp mem with first | mem
          · exact .inl first
          · exact .inr (placesFromBound mem)
        · exact .inr (placesFromBound mem)
      simp only [List.length_cons,List.length_map]
      omega
    · intro o mem
      rcases List.mem_cons.mp mem with rfl | mem
      · exact soundSingle reads _
      · exact allSoundMap (soundArgument reads) _ o mem
  · exact soundUnmodelled allSoundNil

theorem soundAccess (reads : SoundReader r) (c : Concrete) : (access text r c).Sound := by
  unfold access
  split
  · exact .node (by simp [Payload.refs]) (allSoundSingle (soundSingle reads _))
  · exact soundUnmodelled allSoundNil

theorem soundString (reads : SoundReader r) (c : Concrete) : (string text r c).Sound := by
  unfold string
  extract_lets pieces tokens
  split
  · exact soundPlain rfl (allSoundMap (soundSingle reads) _)
  · exact soundPlain rfl allSoundNil

theorem soundNumber (c : Concrete) : (number text c).Sound := by
  unfold number
  split
  · exact soundPlain rfl allSoundNil
  · exact soundUnmodelled allSoundNil

theorem entriesFromBound {parts : List DictPart} {next i : Nat}
    (mem : i ∈ (DictPart.entriesFrom next parts).flatMap fun (k,v) => [k,v]) :
    i < next + (parts.flatMap DictPart.outlines).length := by
  induction parts generalizing next with
  | nil => cases mem
  | cons d parts ih =>
    cases d with
    | entry k v =>
      simp only [DictPart.entriesFrom,List.flatMap_cons,List.mem_append,List.mem_cons,
        List.not_mem_nil,or_false,DictPart.outlines,List.length_append,List.length_cons,
        List.length_nil] at mem ⊢
      rcases mem with (rfl | rfl) | mem
      · omega
      · omega
      · have := ih mem
        omega
    | other os =>
      simp only [DictPart.entriesFrom,List.flatMap_cons,DictPart.outlines,List.length_append] at mem ⊢
      have := ih mem
      omega

theorem soundEntry (reads : SoundReader r) (c : Concrete) : AllSound (DictPart.read r c).outlines := by
  unfold DictPart.read
  split
  · split
    · intro o mem
      simp only [DictPart.outlines,List.mem_cons,List.not_mem_nil,or_false] at mem
      rcases mem with rfl | rfl
      · exact soundSingle reads _
      · exact soundSingle reads _
    · exact allSoundNil
  · exact reads c

theorem soundDict (reads : SoundReader r) (c : Concrete) : (dict r c).Sound := by
  refine .node (fun _ i mem => ?_) ?_
  · have := entriesFromBound mem
    omega
  · rw [List.flatMap_map]
    exact allSoundFlatMap (soundEntry reads) _

theorem soundSequence (reads : SoundReader r) (k : NodeKind) (c : Concrete) :
    (sequence k r c).Sound := by
  refine .node (fun _ i mem => ?_) (allSoundMap (soundSingle reads) _)
  have := placesBound mem
  simp only [List.length_map]
  omega

theorem soundCompare (reads : SoundReader r) (c : Concrete) : (compare r c).Sound := by
  refine .node (fun guarded i mem => ?_) (allSoundMap (soundSingle reads) _)
  have operands : c.named ≠ [] := by
    rcases guarded with h | h
    · cases h
    · exact fun empty => h (by rw [empty]; rfl)
  have positive := List.length_pos_iff.mpr operands
  simp only [List.length_map]
  rcases List.mem_cons.mp mem with rfl | mem
  · exact positive
  · have := placesBound mem
    omega

theorem soundAssign (reads : SoundReader r) (c : Concrete) : (assign r c).Sound := by
  unfold assign
  dsimp only
  refine .node (fun _ i mem => ?_) (allSoundMap (soundSingle reads) _)
  simp only [List.length_map,List.length_append]
  rcases List.mem_append.mp mem with mem | mem
  · have := placesBound mem
    omega
  · cases value : (chain c.size c).2 with
    | none =>
      rw [value] at mem
      cases mem
    | some v =>
      rw [value] at mem
      cases List.mem_singleton.mp mem
      simp

theorem soundStep (reads : SoundReader r) : SoundReader (step text r) := by
  intro c
  unfold step
  cases found : c.kind? with
  | none => exact allSoundNil
  | some k =>
    have constant (l : Literal) : AllSound (constant c l) :=
      allSoundSingle (soundPlain rfl allSoundNil)
    dsimp only
    split
    · exact allSoundFlatMap reads _
    · exact allSoundFlatMap reads _
    · intro o mem
      obtain ⟨d,_,rfl⟩ := Option.map_eq_some_iff.mp (Option.mem_toList.mp mem)
      exact soundSingle reads d
    · intro o mem
      obtain ⟨d,_,rfl⟩ := Option.map_eq_some_iff.mp (Option.mem_toList.mp mem)
      exact soundDefinition reads _ d
    · exact allSoundSingle (soundDefinition reads _ c)
    · exact allSoundSingle (soundDefinition reads _ c)
    · exact allSoundSingle (soundCall reads c)
    · exact allSoundSingle (soundKeyword reads c)
    · exact allSoundSingle (soundPlain rfl allSoundNil)
    · exact allSoundSingle (soundAccess reads c)
    · exact allSoundSingle (soundString reads c)
    · exact allSoundSingle (soundString reads c)
    · exact allSoundSingle (soundNumber c)
    · exact allSoundSingle (soundNumber c)
    · exact constant _
    · exact constant _
    · exact constant _
    · exact constant _
    · exact allSoundSingle (soundDict reads c)
    · exact allSoundSingle (soundSequence reads _ c)
    · exact allSoundSingle (soundSequence reads _ c)
    · exact allSoundSingle (soundSequence reads _ c)
    · exact allSoundSingle (soundSequence reads _ c)
    · exact allSoundSingle (soundSequence reads _ c)
    · exact allSoundSingle (soundSequence reads _ c)
    · exact allSoundSingle (soundSequence reads _ c)
    · exact allSoundSingle (soundCompare reads c)
    · exact allSoundSingle (soundAssign reads c)
    · exact allSoundSingle (soundPlain rfl allSoundNil)
    · exact allSoundSingle (soundPlain rfl allSoundNil)
    · exact allSoundSingle (soundPlain rfl allSoundNil)
    · exact allSoundSingle (soundUnmodelled (allSoundFlatMap reads _))

theorem soundBounded (text : List Char) (n : Nat) : SoundReader (bounded text n) := by
  induction n with
  | zero => exact fun c => allSoundNil
  | succ n ih => exact soundStep ih

end Sound

end Lowering

theorem soundOutline (text : List Char) (program : Concrete) : (outline text program).Sound :=
  Lowering.soundPlain rfl (Lowering.allSoundFlatMap (Lowering.soundBounded text _) _)

end ConventionLint.Tree
