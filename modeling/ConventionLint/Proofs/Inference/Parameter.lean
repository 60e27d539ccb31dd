import ConventionLint.Proofs.Inference.Scope
import ConventionLint.Proofs.Tree.Names

/-! What the parameters of a function hide. A parameter is bound to nothing known, so that whatever the name
means around the function does not count within it. A parameter that is taken apart introduces no name:
the names in such a pattern are looked up around the function. -/
namespace ConventionLint.Tree
open ConventionLint.Grammar (Concrete Kind Span)

namespace Lowering
variable {text : List Char} {program c d n : Concrete}

theorem identifierOnly (only : c.children = [n]) (name : n.hasKind .identifier) :
    identifierIn? c = some n := by
  simp [identifierIn?,Concrete.named,only,Grammar.namedOfKind name,name]

theorem typedIdentifier {t : Concrete} (parts : c.children = [d,t]) (marked : d.Marked n)
    (type : t.hasKind .type) :
    identifierIn? c = some n ∨ identifierIn? c = none ∧ (c.named.head? >>= identifierIn?) = some n := by
  have untyped : t.hasKind .identifier = false := Grammar.kindOnly type
  cases marked with
  | bare name => exact .inl (by simp [identifierIn?,Concrete.named,parts,Grammar.namedOfKind name,name])
  | starred starred only name =>
    have other : d.hasKind .identifier = false := starred.elim (Grammar.kindOnly ·) (Grammar.kindOnly ·)
    have both : c.named = [d,t] := by
      simp [Concrete.named,parts,starred.elim Grammar.namedOfKind Grammar.namedOfKind,Grammar.namedOfKind type]
    refine .inr ⟨by simp [identifierIn?,both,other,untyped],?_⟩
    rw [both]
    exact identifierOnly only name

theorem parameterNamed (introduces : c.Introduces n) : parameterName? text c = some (written text n) := by
  have kindOf {d : Concrete} {k : Kind} (kind : d.hasKind k) : d.kind? = some k := beq_iff_eq.mp kind
  cases introduces with
  | marked marked =>
    cases marked with
    | bare name => rw [parameterName?,kindOf name]
    | starred kind only name =>
      have found := identifierOnly only name
      rcases kind with kind | kind
      · rw [parameterName?,kindOf kind]
        simp only [found]
      · rw [parameterName?,kindOf kind]
        simp only [found]
  | typed kind parts marked type =>
    rw [parameterName?,kindOf kind]
    rcases typedIdentifier parts marked type with found | ⟨absent,found⟩
    · simp only [found]
    · simp only [absent,found,Option.map_some]
  | default kind child _ =>
    rcases kind with kind | kind
    · rw [parameterName?,kindOf kind]
      simp only [child,Option.map_some]
    · rw [parameterName?,kindOf kind]
      simp only [child,Option.map_some]

theorem parametersListed (regular : c.Regular) (kind : c.hasKind .functionDefinition) :
    ∀ d ∈ namedIn c .parameters, d.IsParameter := by
  obtain ⟨front,result,ps,b,parts,heads,listed,returned,_⟩ := regular.fits (beq_iff_eq.mp kind)
  intro d mem
  unfold namedIn at mem
  split at mem
  · next e found =>
    have role : e.role? = some .parameters := by simpa using List.find?_some found
    have among : e ∈ c.children := List.mem_of_find?_eq_some found
    -- neither the head of a definition nor the type of its result has the role of the parameters
    have here : e = ps.withRole .parameters := by
      rw [parts,List.mem_append,List.mem_append,List.mem_cons,List.mem_singleton] at among
      rcases among with (head | same | type) | rfl
      · rcases (heads e head).1 with noRole | named
        · cases noRole.symm.trans role
        · cases named.1.symm.trans role
      · exact same
      · cases (returned e type).2.symm.trans role
      · exact absurd role (roleElsewhere nofun)
    have fits := (regular.children e among).fits (k := .parameters) (by rw [here,Grammar.kindWithRole,listed.1])
    exact fits d (List.mem_filter.mp mem).1
  · cases mem

def ReadsParameters (text : List Char) (program : Concrete) (k : NodeKind) (s : Span) (p : Payload Nat)
    (_ : List Outline) : Prop :=
  k = .functionDef → ∃ c doc async, Inside program c ∧ c.hasKind .functionDefinition ∧ s = c.span ∧
    p = .functionDef (writtenChild text c .name)
      ((namedIn c .parameters).filterMap (parameterName? text)) doc async

theorem admitsParameters (text : List Char) (regular : program.Regular) (r : Reader) :
    Admits text (Inside program) (ReadsParameters text program) r where
  parts _ _ := insidePart
  plain _ _ _ _ _ other _ _ := by
    rintro rfl
    cases other
  name _ _ _ := nofun
  call _ _ _ := hasCall (fun _ _ _ _ => nofun) fun _ => nofun
  definition c ds d h defines := by
    obtain ⟨within,defined⟩ := insideDefined h defines
    unfold definition
    dsimp only
    split
    · exact nofun
    · next other =>
      have kind := (definedKind regular defined).resolve_left fun isClass => other (beq_iff_eq.mpr isClass)
      exact fun _ => ⟨d,_,_,within,beq_iff_eq.mpr kind,rfl,rfl⟩
  assign _ _ _ := nofun
  imports _ _ _ := nofun
  importFrom _ _ _ := nofun

end Lowering

open Lowering

structure FunctionOf (text : List Char) (program : Concrete) (t : Tree) (f : NodeId) (c : Concrete) : Prop where
  inside : Inside program c
  kind : c.hasKind .functionDefinition
  span : t.span f = c.span
  forms : ∀ d ∈ namedIn c .parameters, d.IsParameter
  payload : ∃ doc async, t.payload f = .functionDef (writtenChild text c .name)
    ((namedIn c .parameters).filterMap (parameterName? text)) doc async

section Function
variable {text : List Char} {program c d n : Concrete} {t : Tree} {f : NodeId}

theorem functionOf (parsed : Tree.parse text = .ok t) (ok : Grammar.parse text = .ok program)
    (function : t.kind f = .functionDef) : ∃ c, FunctionOf text program t f c := by
  have regular := Grammar.programIsRegular ok
  obtain ⟨_,read,rfl⟩ := outlineOfParse parsed
  cases ok.symm.trans read
  have every := outlineEvery (fun n => admitsParameters text regular _) (.inl rfl)
  have inside : f < (ofOutline text (outline text program)).size := insideOfKind (function ▸ nofun)
  obtain ⟨_,k,s,p,cs,stored,own⟩ := everyPlace every inside
  have node := nodeOfStored (Outline.storedNode stored)
  rw [Tree.kind,node] at function
  obtain ⟨c,doc,async,within,kind,span,rfl⟩ := own function
  refine ⟨c,within,kind,by rw [Tree.span,node,span],?_,doc,async,by rw [Tree.payload,node]; rfl⟩
  exact parametersListed (insideRegular regular within) kind

theorem FunctionOf.params (h : FunctionOf text program t f c) :
    t.params f = (namedIn c .parameters).filterMap (parameterName? text) := by
  obtain ⟨_,_,is⟩ := h.payload
  rw [Tree.params,is]

theorem FunctionOf.introduced (h : FunctionOf text program t f c) (mem : d ∈ namedIn c .parameters)
    (introduces : d.Introduces n) : written text n ∈ t.params f := by
  rw [h.params]
  exact List.mem_filterMap.mpr ⟨d,mem,parameterNamed introduces⟩

end Function

end ConventionLint.Tree

namespace ConventionLint.Inference
open ConventionLint.Tree
open ConventionLint.Grammar (Concrete)

namespace Model
variable {text : List Char} {t : Tree} {f u : NodeId} {p name : String} {b : Binding}
  {between around : List NodeId} {ps : List String} {doc : Option String} {async : Bool}

structure Reaches (t : Tree) (f u : NodeId) (p : String) : Prop where
  name : t.payload u = .name p
  inside : f ∈ t.ancestors u
  between : ∀ g ∈ t.ancestors u, f ∈ t.ancestors g → Tree.isFrame (t.kind g) → (ofTree t).bindingsIn g p = []
  own : ∀ b ∈ (ofTree t).bindingsIn f p, b.site = f

instance (t : Tree) (f u : NodeId) (p : String) : Decidable (Reaches t f u p) :=
  decidable_of_iff (t.payload u = .name p ∧ f ∈ t.ancestors u ∧
      (∀ g ∈ t.ancestors u, f ∈ t.ancestors g → Tree.isFrame (t.kind g) → (ofTree t).bindingsIn g p = []) ∧
      ∀ b ∈ (ofTree t).bindingsIn f p, b.site = f)
    ⟨fun ⟨name,inside,between,own⟩ => ⟨name,inside,between,own⟩,
      fun ⟨name,inside,between,own⟩ => ⟨name,inside,between,own⟩⟩

theorem ownBinding (is : t.payload f = .functionDef name ps doc async) (other : t.frame f ≠ f)
    (mem : b ∈ (ofTree t).bindingsIn f p) (own : b.site = f) : b.origin = .unknown ∧ p ∈ ps := by
  obtain ⟨listed,same⟩ := List.mem_filter.mp mem
  obtain ⟨frame,title⟩ := Bool.and_eq_true_iff.mp same
  have made := (bindingSource listed).2
  rw [own,Binding.ofNode,is] at made
  rcases List.mem_append.mp made with made | made
  · obtain ⟨_,_,rfl⟩ := List.mem_map.mp made
    exact absurd (beq_iff_eq.mp frame) other
  · obtain ⟨q,param,rfl⟩ := List.mem_map.mp made
    rw [Tree.params,is] at param
    exact ⟨rfl,beq_iff_eq.mp title ▸ param⟩

theorem parameterBound (is : t.payload f = .functionDef name ps doc async) (listed : p ∈ ps) :
    (ofTree t).bindingsIn f p ≠ [] := by
  have made : ⟨f,p,t.line f,f,.unknown⟩ ∈ Binding.ofNode t f := by
    rw [Binding.ofNode,is]
    exact List.mem_append_right _ (List.mem_map.mpr ⟨p,by rwa [Tree.params,is],rfl⟩)
  refine List.ne_nil_of_mem (a := ⟨f,p,t.line f,f,.unknown⟩) (List.mem_filter.mpr ⟨?_,by simp⟩)
  exact List.mem_flatMap.mpr ⟨f,List.mem_range.mpr (Binding.insideOfBinding made),made⟩

def lookupAround (t : Tree) (f : NodeId) (p : String) : Option Binding :=
  ((frames t f).filter fun g => t.kind g != .classDef).findSome? fun g => ((ofTree t).bindingsIn g p).getLast?

theorem lookupThrough (parted : frames t u = between ++ f :: frames t f) (function : t.kind f = .functionDef)
    (empty : ∀ g ∈ between, (ofTree t).bindingsIn g p = []) :
    (∃ b ∈ (ofTree t).bindingsIn f p, (ofTree t).lookup? u p = some b) ∨
      (ofTree t).bindingsIn f p = [] ∧ (ofTree t).lookup? u p = lookupAround t f p := by
  unfold lookup? lookupAround
  simp only [treeOfTree,parted]
  -- the innermost frame is searched by the line of the use, those around it are not
  cases between with
  | nil =>
    dsimp only [List.nil_append]
    cases found : (ofTree t).nearest? u ((ofTree t).bindingsIn f p) with
    | some b => exact .inl ⟨b,nearestMem found,rfl⟩
    | none => exact .inr ⟨nearestNone.mp found,rfl⟩
  | cons g rest =>
    obtain ⟨first,others⟩ := List.forall_mem_cons.mp empty
    have skipped : (rest.filter fun g => t.kind g != .classDef).findSome?
        (fun g => ((ofTree t).bindingsIn g p).getLast?) = none :=
      List.findSome?_eq_none_iff.mpr fun g mem => by rw [others g (List.mem_filter.mp mem).1]; rfl
    dsimp only [List.cons_append]
    rw [first,nearestNone.mpr rfl,List.filter_append,List.findSome?_append,skipped,Option.none_or,
      List.filter_cons,if_pos (by rw [function]; rfl),List.findSome?_cons]
    dsimp only
    cases last : ((ofTree t).bindingsIn f p).getLast? with
    | some b => exact .inl ⟨b,List.mem_of_getLast? last,rfl⟩
    | none => exact .inr ⟨List.getLast?_eq_none_iff.mp last,rfl⟩

/-- A parameter that is not taken apart hides what its name means around the function, and a name that no
parameter introduces is looked up there. -/
theorem parametersHide {program : Concrete} (ok : Grammar.parse text = .ok program)
    (parsed : Tree.parse text = .ok t) (function : t.kind f = .functionDef) :
    ∃ c, FunctionOf text program t f c ∧
      (∀ d ∈ Lowering.namedIn c .parameters, ∀ n, d.Introduces n → Lowering.written text n ∈ t.params f) ∧
      ∀ u p, Reaches t f u p → (p ∈ t.params f → (ofTree t).infer u = none) ∧
        (p ∉ t.params f → (ofTree t).lookup? u p = lookupAround t f p) := by
  obtain ⟨c,made⟩ := functionOf parsed ok function
  refine ⟨c,made,fun d mem n introduces => made.introduced mem introduces,fun u p reaches => ?_⟩
  obtain ⟨wired,isModule,_⟩ := parsedModule parsed
  obtain ⟨doc,async,is⟩ := made.payload
  rw [← made.params] at is
  have inside := (nameBelow parsed reaches.name).2
  have positive : 0 < f := by
    refine Nat.pos_of_ne_zero fun first => ?_
    rw [first] at function
    cases isModule.symm.trans function
  have other : t.frame f ≠ f := by
    obtain ⟨outer,around⟩ := framesHead t f
    have above : t.frame f ∈ frames t f := by rw [around]; exact List.mem_cons_self
    have within := Nat.lt_trans (ancestorsSmaller wired reaches.inside) inside
    rw [framesBelow wired isModule positive within] at above
    exact Nat.ne_of_lt (ancestorsSmaller wired (List.mem_filter.mp above).1)
  have frame : Tree.isFrame (t.kind f) := by rw [function]; rfl
  obtain ⟨between,parted,all⟩ := framesThrough wired isModule inside reaches.inside frame positive
  rcases lookupThrough (p := p) parted function fun g mem =>
    reaches.between g (all g mem).1 (all g mem).2.1 (all g mem).2.2 with ⟨b,mem,found⟩ | ⟨unbound,found⟩
  · obtain ⟨origin,listed⟩ := ownBinding is other mem (reaches.own b mem)
    refine ⟨fun _ => ?_,fun missing => absurd listed missing⟩
    rw [infer,maxDepth,inferWithin,treeOfTree,reaches.name]
    simp only [found,origin]
  · exact ⟨fun listed => absurd unbound (parameterBound is listed),fun _ => found⟩

def unpacking : List Char :=
  "class p: pass\nclass q: pass\ndef f((p, r), *q):\n class C:\n  def g(self):\n   p, q\n".toList

theorem parametersHideNested : ∃ t, Tree.parse unpacking = .ok t ∧ (ofTree t).infer 9 = none ∧
    (ofTree t).lookup? 8 "p" = lookupAround t 5 "p" ∧
    (ofTree t).infer 8 = some (.classObject (.declared 1)) := by
  obtain ⟨t,parsed,facts⟩ := okOfMap (x := Tree.parse unpacking) (f := fun t => decide (
    t.kind 5 = .functionDef ∧ t.params 5 = ["q"] ∧ Reaches t 5 8 "p" ∧ Reaches t 5 9 "q" ∧
    (ofTree t).infer 8 = some (.classObject (.declared 1)))) (b := true) (by decide +kernel)
  obtain ⟨function,params,unpacked,listed,value⟩ := of_decide_eq_true facts
  obtain ⟨program,ok,_⟩ := outlineOfParse parsed
  obtain ⟨_,_,_,hides⟩ := parametersHide ok parsed function
  refine ⟨t,parsed,(hides 9 "q" listed).1 (by rw [params]; decide),?_,value⟩
  exact (hides 8 "p" unpacked).2 (by rw [params]; decide)

end Model
end ConventionLint.Inference
