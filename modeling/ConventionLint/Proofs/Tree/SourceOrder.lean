import ConventionLint.Proofs.Grammar.Order
import ConventionLint.Proofs.Tree.Sound

/-! Lowering keeps the order of the places. The parts of a node come one behind the other within the
bounds of the construct that the node is made from; a node that stands for a decorated definition
begins behind its first parts. A comparison keeps an operand. -/
namespace ConventionLint.Tree
open ConventionLint.Grammar

namespace Outline

mutual

def Within (rank : Position → Nat) : Nat → Nat → Outline → Prop
  | lo, hi, .node _ s p cs => lo ≤ rank s.start ∧ rank s.start ≤ hi ∧
    (p.isCompare = true → cs ≠ []) ∧ WithinAll rank lo hi cs

def WithinAll (rank : Position → Nat) : Nat → Nat → List Outline → Prop
  | lo, hi, [] => lo ≤ hi
  | lo, hi, o :: os => ∃ mid, Within rank lo mid o ∧ WithinAll rank mid hi os

end

theorem withinAllIff {rank : Position → Nat} {lo hi : Nat} {os : List Outline} :
    WithinAll rank lo hi os ↔ Chain (Within rank) lo hi os := by
  induction os generalizing lo with
  | nil => exact Iff.rfl
  | cons o os ih => exact exists_congr fun mid => and_congr_right fun _ => ih

theorem withinLe {rank : Position → Nat} {lo hi : Nat} {o : Outline} (h : Within rank lo hi o) :
    lo ≤ hi := by
  cases o
  exact Nat.le_trans h.1 h.2.1

mutual

theorem withinWiden {rank : Position → Nat} : ∀ {lo hi lo' hi' : Nat} {o : Outline},
    Within rank lo hi o → lo' ≤ lo → hi ≤ hi' → Within rank lo' hi' o
  | _, _, _, _, .node .., h, below, above =>
    ⟨Nat.le_trans below h.1,Nat.le_trans h.2.1 above,h.2.2.1,withinAllWiden h.2.2.2 below above⟩

theorem withinAllWiden {rank : Position → Nat} : ∀ {lo hi lo' hi' : Nat} {os : List Outline},
    WithinAll rank lo hi os → lo' ≤ lo → hi ≤ hi' → WithinAll rank lo' hi' os
  | _, _, _, _, [], h, below, above => Nat.le_trans below (Nat.le_trans h above)
  | _, _, _, _, _ :: _, ⟨mid,first,rest⟩, below, above =>
    ⟨mid,withinWiden first below (Nat.le_refl mid),withinAllWiden rest (Nat.le_refl mid) above⟩

end

instance : Spanned Outline := ⟨Within,withinLe,withinWiden⟩

theorem spansOutline {rank : Position → Nat} {lo hi : Nat} {k : NodeKind} {s : Span}
    {p : Payload Nat} {cs : List Outline} : Spans rank lo hi (Outline.node k s p cs) ↔
      lo ≤ rank s.start ∧ rank s.start ≤ hi ∧ (p.isCompare = true → cs ≠ []) ∧ Spans rank lo hi cs :=
  and_congr_right fun _ => and_congr_right fun _ => and_congr_right fun _ => withinAllIff

end Outline

namespace Lowering
open Outline Concrete

def Orderly (rank : Position → Nat) (r : Reader) : Prop :=
  ∀ c lo hi, Spans rank lo hi c → Spans rank lo hi (r c)

section Orderly
variable {rank : Position → Nat} {text : List Char} {r : Reader} {c : Concrete} {lo hi : Nat}
  {os : List Outline}

theorem spansOver {k : NodeKind} {p : Payload Nat} (plain : p.isCompare = false)
    (h : Spans rank lo hi c) (below : Spans rank lo hi os) :
    Spans rank lo hi (Outline.node k c.span p os) :=
  spansOutline.mpr ⟨(spansStart h).1,(spansStart h).2,by simp [plain],below⟩

theorem spansAlone {k : NodeKind} {p : Payload Nat} (plain : p.isCompare = false)
    (h : Spans rank lo hi c) : Spans rank lo hi (Outline.node k c.span p []) :=
  spansOver plain h (spansNil (Spanned.le h))

theorem spansRead (reads : Orderly rank r) (h : Spans rank lo hi c) :
    Spans rank lo hi (single r c) := by
  unfold single
  cases last : (r c).getLast? with
  | none => exact spansAlone rfl h
  | some o => exact spansMember (reads c lo hi h) (List.mem_of_getLast? last)

theorem spansReads (reads : Orderly rank r) {cs : List Concrete} (h : Spans rank lo hi cs) :
    Spans rank lo hi (cs.map (single r)) := spansMap (fun _ _ _ _ own => spansRead reads own) h

theorem spansParts (reads : Orderly rank r) (h : Spans rank lo hi c) :
    Spans rank lo hi (c.named.flatMap r) :=
  spansFlatMap (fun d _ lo hi own => reads d lo hi own) (spansNamed h)

theorem spansNamedIn {role : Role} (le : lo ≤ hi)
    (own : ∀ d, c.child? role = some d → Spans rank lo hi d) : Spans rank lo hi (namedIn c role) := by
  unfold namedIn
  split
  · exact spansNamed (own _ ‹_›)
  · exact spansNil le

theorem spansKeyword (reads : Orderly rank r) (h : Spans rank lo hi c) :
    Spans rank lo hi (keyword text r c) := by
  unfold keyword
  split
  · next found => exact spansOver rfl h (spansSingle (spansRead reads (spansChild h found)))
  · exact spansAlone rfl h

theorem spansSpread (reads : Orderly rank r) (h : Spans rank lo hi c) : Spans rank lo hi (spread r c) := by
  refine spansOver rfl h (spansSingle (spansRead reads ?_))
  cases first : c.named.head? with
  | none => exact h
  | some d => exact spansMember (spansNamed h) (List.mem_of_head? first)

theorem spansClassDef {mid : Nat} (reads : Orderly rank r) (h : Spans rank mid hi c)
    (laid : LaidOut .classDefinition c.children) (before : Spans rank lo mid os) :
    Spans rank lo hi (classDef text r c os) := by
  obtain ⟨next,lower,upper,bases,body⟩ := spansInOrder laid.parts h
  have header := spansMap (f := fun d => if !d.hasKind .keywordArgument then single r d else keyword text r d)
    (fun d _ lo hi own => by
      split
      · exact spansRead reads own
      · exact spansKeyword reads own) (spansNamedIn lower bases)
  have statements := spansFlatMap (fun d _ lo hi own => reads d lo hi own) (spansNamedIn upper body)
  refine spansOver rfl (spansSince h (Spanned.le before)) ?_
  exact spansAppend (spansAppend before header (Nat.le_refl mid)) statements (Nat.le_refl next)

theorem spansFunctionDef {mid : Nat} (reads : Orderly rank r) (h : Spans rank mid hi c)
    (laid : LaidOut .functionDefinition c.children) (before : Spans rank lo mid os) :
    Spans rank lo hi (functionDef text r c os) := by
  obtain ⟨next,lower,upper,params,body⟩ := spansInOrder laid.parts h
  have defaults := spansFilterMap (f := defaultValue?) (fun d _ lo hi own v found => by
      unfold defaultValue? at found
      split at found
      · exact spansChild own found
      · exact spansChild own found
      · cases found) (spansNamedIn lower params)
  have statements := spansFlatMap (fun d _ lo hi own => reads d lo hi own) (spansNamedIn upper body)
  refine spansOver rfl (spansSince h (Spanned.le before)) ?_
  exact spansAppend (spansAppend before (spansReads reads defaults) (Nat.le_refl mid)) statements
    (Nat.le_refl next)

theorem spansDefinition {mid : Nat} {decorators : List Concrete} (reads : Orderly rank r)
    (before : Spans rank lo mid decorators) (h : Spans rank mid hi c)
    (kind : c.kind? = some .classDefinition ∨ c.kind? = some .functionDefinition) :
    Spans rank lo hi (definition text r decorators c) := by
  have above := spansFlatMap (fun d _ lo hi own => spansParts reads own) before
  unfold definition
  rcases kind with kind | kind
  · simp only [Concrete.hasKind,kind]
    exact spansClassDef reads h (spansLaidOut h kind) above
  · simp only [Concrete.hasKind,kind]
    exact spansFunctionDef reads h (spansLaidOut h kind) above

theorem spansDecorated {d : Concrete} (reads : Orderly rank r) (h : Spans rank lo hi c)
    (kind : c.kind? = some .decoratedDefinition) (found : c.child? .definition = some d) :
    Spans rank lo hi (definition text r (c.named.filter fun e => e.hasKind .decorator) d) := by
  have laid := spansLaidOut h kind
  have picked : inRoles [.definition] c.children = [d] := by
    unfold Concrete.child? at found
    simp [inRolesOne,inRole,found]
  have parts : ((c.children.filter fun e => e.hasKind .decorator) ++ [d]).Sublist c.children := by
    have used := laid.parts
    rw [usedParts,picked] at used
    exact used
  have decorators : (c.named.filter fun e => e.hasKind .decorator) =
      c.children.filter fun e => e.hasKind .decorator := by
    rw [Concrete.named,List.filter_filter]
    refine List.filter_congr fun e _ => ?_
    cases e <;> simp [Concrete.isNamed,Concrete.hasKind,Concrete.kind?]
  obtain ⟨mid,before,behind⟩ := spansSplit (spansSublist parts (spansChildren h))
  rw [decorators]
  exact spansDefinition reads before (spansMember behind (List.mem_singleton_self d))
    (laid.defined rfl d (by rw [picked]; exact List.mem_singleton_self d))

theorem spansArgument (reads : Orderly rank r) (h : Spans rank lo hi c) :
    Spans rank lo hi (argument text r c) := by
  unfold argument
  split
  · exact spansKeyword reads h
  · exact spansSpread reads h
  · exact spansRead reads h

theorem spansCall (reads : Orderly rank r) (h : Spans rank lo hi c) (kind : c.kind? = some .call) :
    Spans rank lo hi (call text r c) := by
  obtain ⟨mid,lower,upper,function,given⟩ := spansInOrder (spansLaidOut h kind).parts h
  have args : Spans rank mid hi (argumentsOf c) := by
    unfold argumentsOf
    split
    · next d found =>
      split
      · exact spansNamed (given d found)
      · exact spansSingle (given d found)
    · exact spansNil upper
  unfold call
  split
  · next f found =>
    refine spansOver rfl h (spansCons (spansRead reads (function f found)) ?_ (Nat.le_refl mid))
    exact spansMap (fun _ _ _ _ own => spansArgument reads own) args
  · exact spansAlone rfl h

theorem spansAccess (reads : Orderly rank r) (h : Spans rank lo hi c) :
    Spans rank lo hi (access text r c) := by
  unfold access
  split
  · next found => exact spansOver rfl h (spansSingle (spansRead reads (spansChild h found)))
  · exact spansAlone rfl h

theorem spansInterpolated (h : Spans rank lo hi c) : Spans rank lo hi (interpolated c) :=
  spansFilterMap (fun _ _ _ _ own _ found => spansChild own found)
    (spansSublist List.filter_sublist (spansNamed h))

theorem spansString (reads : Orderly rank r) (h : Spans rank lo hi c) :
    Spans rank lo hi (string text r c) := by
  unfold string
  extract_lets pieces tokens
  have all : Spans rank lo hi pieces := by
    dsimp only [pieces]
    split
    · exact spansNamed h
    · exact spansSingle h
  split
  · refine spansOver rfl h (spansReads reads (spansFlatMap ?_ all))
    exact fun _ _ _ _ own => spansInterpolated own
  · exact spansAlone rfl h

theorem spansNumber (h : Spans rank lo hi c) : Spans rank lo hi (number text c) := by
  unfold number
  split
  · exact spansAlone rfl h
  · exact spansAlone rfl h

theorem spansEntry (reads : Orderly rank r) (h : Spans rank lo hi c) :
    Spans rank lo hi (DictPart.read r c).outlines := by
  unfold DictPart.read
  split
  · next pair =>
    have laid := spansLaidOut h (k := .pair) (by simpa [Concrete.hasKind] using pair)
    obtain ⟨mid,lower,upper,key,value⟩ := spansInOrder laid.parts h
    split
    · next k v foundKey foundValue =>
      exact spansCons (spansRead reads (key k foundKey))
        (spansSingle (spansRead reads (value v foundValue))) (Nat.le_refl mid)
    · exact spansNil (Spanned.le h)
  · exact reads c lo hi h

theorem spansDict (reads : Orderly rank r) (h : Spans rank lo hi c) : Spans rank lo hi (dict r c) := by
  refine spansOver rfl h ?_
  rw [List.flatMap_map]
  exact spansFlatMap (fun _ _ _ _ own => spansEntry reads own) (spansNamed h)

theorem spansCompare (reads : Orderly rank r) (h : Spans rank lo hi c)
    (kind : c.kind? = some .comparisonOperator) : Spans rank lo hi (compare r c) := by
  obtain ⟨d,mem,named⟩ := (spansLaidOut h kind).operand rfl
  refine spansOutline.mpr ⟨(spansStart h).1,(spansStart h).2,fun _ => ?_,spansReads reads (spansNamed h)⟩
  have operand : d ∈ c.named := List.mem_filter.mpr ⟨mem,named⟩
  exact List.ne_nil_of_mem (List.mem_map_of_mem operand)

theorem spansChain (n : Nat) {c : Concrete} {lo : Nat} (h : Spans rank lo hi c)
    (kind : c.kind? = some .assignment) :
    Spans rank lo hi ((chain n c).1 ++ (chain n c).2.toList) := by
  induction n generalizing c lo with
  | zero => exact spansNil (Spanned.le h)
  | succ n ih =>
    obtain ⟨mid,lower,upper,left,right⟩ := spansInOrder (spansLaidOut h kind).parts h
    have target : Spans rank lo mid (c.child? .left).toList := by
      cases found : c.child? .left with
      | none => exact spansNil lower
      | some d => exact spansSingle (left d found)
    unfold chain
    cases found : c.child? .right with
    | none => exact spansAppend target (spansNil upper) (Nat.le_refl mid)
    | some v =>
      have value := right v found
      dsimp only
      split
      · next further =>
        rw [List.append_assoc]
        exact spansAppend target (ih value (by simpa [Concrete.hasKind] using further)) (Nat.le_refl mid)
      · exact spansAppend target (spansSingle value) (Nat.le_refl mid)

theorem orderlyStep (reads : Orderly rank r) : Orderly rank (step text r) := by
  intro c lo hi h
  have sequence (k : NodeKind) : Spans rank lo hi [sequence k r c] :=
    spansSingle (spansOver rfl h (spansReads reads (spansNamed h)))
  have constant (l : Literal) : Spans rank lo hi (constant c l) := spansSingle (spansAlone rfl h)
  unfold step
  cases found : c.kind? with
  | none => exact spansNil (Spanned.le h)
  | some k =>
    dsimp only
    split
    · exact spansParts reads h
    · exact spansParts reads h
    · cases first : c.named.head? with
      | none => exact spansNil (Spanned.le h)
      | some d => exact spansSingle (spansRead reads (spansMember (spansNamed h) (List.mem_of_head? first)))
    · cases defined : c.child? .definition with
      | none => exact spansNil (Spanned.le h)
      | some d => exact spansSingle (spansDecorated reads h found defined)
    · exact spansSingle (spansDefinition reads (spansNil (Nat.le_refl lo)) h (.inl found))
    · exact spansSingle (spansDefinition reads (spansNil (Nat.le_refl lo)) h (.inr found))
    · exact spansSingle (spansCall reads h found)
    · exact spansSingle (spansKeyword reads h)
    · exact spansSingle (spansAlone rfl h)
    · exact spansSingle (spansAccess reads h)
    · exact spansSingle (spansString reads h)
    · exact spansSingle (spansString reads h)
    · exact spansSingle (spansNumber h)
    · exact spansSingle (spansNumber h)
    · exact constant _
    · exact constant _
    · exact constant _
    · exact constant _
    · exact spansSingle (spansDict reads h)
    · exact sequence _
    · exact sequence _
    · exact sequence _
    · exact sequence _
    · exact sequence _
    · exact sequence _
    · exact sequence _
    · exact spansSingle (spansCompare reads h found)
    · exact spansSingle (spansOver rfl h (spansReads reads (spansChain c.size h found)))
    · exact spansSingle (spansAlone rfl h)
    · exact spansSingle (spansAlone rfl h)
    · exact spansSingle (spansAlone rfl h)
    · exact spansSingle (spansOver rfl h (spansParts reads h))

theorem orderlyBounded (text : List Char) (n : Nat) : Orderly rank (bounded text n) := by
  induction n with
  | zero => exact fun c lo hi h => spansNil (Spanned.le h)
  | succ n ih => exact orderlyStep ih

end Orderly
end Lowering

theorem spansProgram {rank : Position → Nat} {lo hi : Nat} {program : Concrete} (text : List Char)
    (begins : rank program.span.start ≤ hi) (h : Spans rank lo hi program.children) :
    Spans rank 0 hi (outline text program) := by
  have named : Spans rank lo hi program.named := spansSublist List.filter_sublist h
  have parts := spansFlatMap
    (fun d _ lo hi own => Lowering.orderlyBounded text program.size d lo hi own) named
  exact Outline.spansOutline.mpr
    ⟨Nat.zero_le _,begins,nofun,spansSince parts (Nat.zero_le lo)⟩

end ConventionLint.Tree
