import ConventionLint.Proofs.Grammar.OnwardProgram
import ConventionLint.Proofs.Grammar.RegularStatements
import ConventionLint.Proofs.Tree.Every
import ConventionLint.Proofs.Tree.SourceOrder

/-! Where the statements stand that bind names. A definition comes before its decorators in the order of
the nodes, but behind them in the text. As there is no statement in a decorator, those that bind names are
met in the order of the text all the same. -/
namespace ConventionLint.Tree
open ConventionLint.Grammar

def Payload.binds {ρ : Type} : Payload ρ → Bool
  | .classDef .. | .functionDef .. | .assign .. | .imports _ | .importFrom .. => true
  | _ => false

theorem bindsMap {ρ σ : Type} (f : ρ → σ) (p : Payload ρ) : (p.map f).binds = p.binds := by
  cases p <;> rfl

theorem plainBinds {ρ : Type} {p : Payload ρ} (plain : p.isPlain = true) : p.binds = false := by
  cases p <;> first | rfl | cases plain

namespace Outline

mutual

def sites : Outline → List Position
  | .node _ s p cs => (if p.binds then [s.start] else []) ++ sitesOf cs

def sitesOf : List Outline → List Position
  | [] => []
  | o :: os => o.sites ++ sitesOf os

end

theorem sitesOfAppend (os ps : List Outline) : sitesOf (os ++ ps) = sitesOf os ++ sitesOf ps := by
  induction os with
  | nil => rfl
  | cons o os ih => simp only [List.cons_append,sitesOf,ih,List.append_assoc]

def Quiet (o : Outline) : Prop := o.Every fun _ _ p _ => p.binds = false

mutual

theorem sitesQuiet (o : Outline) (quiet : o.Quiet) : o.sites = [] := by
  cases o with
  | node k s p cs =>
    cases quiet with
    | node own below => rw [sites,own,sitesOfQuiet cs below]; rfl

theorem sitesOfQuiet (os : List Outline) (quiet : ∀ o ∈ os, o.Quiet) : sitesOf os = [] := by
  cases os with
  | nil => rfl
  | cons o os =>
    obtain ⟨first,rest⟩ := List.forall_mem_cons.mp quiet
    rw [sitesOf,sitesQuiet o first,sitesOfQuiet os rest,List.nil_append]

end

section Ascend
variable {rank : Position → Nat}

mutual

theorem sitesBetween {lo hi : Nat} (o : Outline) (spans : Spans rank lo hi o) :
    ∀ q ∈ o.sites, lo ≤ rank q ∧ rank q ≤ hi := by
  cases o with
  | node k s p cs =>
    obtain ⟨begins,ends,_,below⟩ := spansOutline.mp spans
    unfold sites
    refine List.forall_mem_append.mpr ⟨fun q mem => ?_,sitesOfBetween cs below⟩
    split at mem
    · cases List.mem_singleton.mp mem
      exact ⟨begins,ends⟩
    · cases mem

theorem sitesOfBetween {lo hi : Nat} (os : List Outline) (spans : Spans rank lo hi os) :
    ∀ q ∈ sitesOf os, lo ≤ rank q ∧ rank q ≤ hi := by
  cases os with
  | nil => exact List.forall_mem_nil _
  | cons o os =>
    obtain ⟨mid,first,rest⟩ := spans
    refine List.forall_mem_append.mpr ⟨fun q mem => ?_,fun q mem => ?_⟩
    · obtain ⟨lower,upper⟩ := sitesBetween o first q mem
      exact ⟨lower,Nat.le_trans upper (Spanned.le (α := List Outline) rest)⟩
    · obtain ⟨lower,upper⟩ := sitesOfBetween os rest q mem
      exact ⟨Nat.le_trans (Spanned.le first) lower,upper⟩

end

def Leads (rank : Position → Nat) (_ : NodeKind) (s : Span) (p : Payload Nat) (cs : List Outline) : Prop :=
  p.binds = true → ∃ before rest hi, cs = before ++ rest ∧ (∀ o ∈ before, o.Quiet) ∧
    Spans rank (rank s.start) hi rest

def Ascending (rank : Position → Nat) (ps : List Position) : Prop := ps.Pairwise fun p q => rank p ≤ rank q

mutual

theorem sitesAscend {lo hi : Nat} (o : Outline) (spans : Spans rank lo hi o)
    (leads : o.Every (Leads rank)) : Ascending rank o.sites := by
  cases o with
  | node k s p cs =>
    obtain ⟨_,_,_,below⟩ := spansOutline.mp spans
    cases leads with
    | node own parts =>
      have inside := sitesOfAscend cs below parts
      unfold sites
      split
      · next binds =>
        -- decorators stand in front of the node that they are parts of, but bind nothing
        obtain ⟨before,rest,hi',rfl,quiet,behind⟩ := own binds
        refine List.pairwise_cons.mpr ⟨fun q mem => ?_,inside⟩
        change q ∈ sitesOf (before ++ rest) at mem
        rw [sitesOfAppend,sitesOfQuiet before quiet] at mem
        exact (sitesOfBetween rest behind q mem).1
      · exact inside

theorem sitesOfAscend {lo hi : Nat} (os : List Outline) (spans : Spans rank lo hi os)
    (leads : ∀ o ∈ os, o.Every (Leads rank)) : Ascending rank (sitesOf os) := by
  cases os with
  | nil => exact .nil
  | cons o os =>
    obtain ⟨mid,first,rest⟩ := spans
    obtain ⟨own,others⟩ := List.forall_mem_cons.mp leads
    refine List.pairwise_append.mpr ⟨sitesAscend o first own,sitesOfAscend os rest others,?_⟩
    exact fun p hp q hq =>
      Nat.le_trans (sitesBetween o first p hp).2 (sitesOfBetween os rest q hq).1

end
end Ascend

end Outline

namespace Lowering
open Outline Concrete

theorem overParts {I : Concrete → Prop} (passes : ∀ c, I c → ∀ d ∈ c.children, I d) {c d : Concrete}
    (part : Part d c) (h : I c) : I d := by
  induction part with
  | child mem => exact passes _ h _ mem
  | deeper mem _ ih => exact ih (passes _ h _ mem)

section Quiet
variable {c d : Concrete}

theorem idleOther {k : Kind} (idle : c.Idle) (kind : c.hasKind k) (binding : Concrete.isBindingKind k = true) :
    False := by
  cases idle with
  | token => cases kind
  | node other _ =>
    cases beq_iff_eq.mp kind
    rw [binding] at other
    cases other

theorem idleUndefined {ds : List Concrete} (idle : c.Idle) (defines : Defines c ds d) : False := by
  cases defines with
  | bare kind => exact kind.elim (idleOther idle · rfl) (idleOther idle · rfl)
  | decorated kind _ => exact idleOther idle kind rfl

theorem admitsIdle (text : List Char) (r : Reader) :
    Admits text Concrete.Idle (fun _ _ p _ => p.binds = false) r where
  parts _ _ idle part := overParts (fun _ => Concrete.Idle.children) part idle
  plain _ _ _ _ _ _ plain _ := plainBinds plain
  name _ _ _ := rfl
  call _ _ _ := hasCall (fun _ _ _ _ => rfl) fun _ => rfl
  definition _ _ _ idle defines := (idleUndefined idle defines).elim
  assign _ idle kind := (idleOther idle kind rfl).elim
  imports _ idle kind := (idleOther idle kind rfl).elim
  importFrom _ idle kind := (kind.elim (idleOther idle · rfl) (idleOther idle · rfl)).elim

theorem idleQuiet {text : List Char} {n : Nat} {cs : List Concrete} (idle : ∀ c ∈ cs, c.Idle) :
    ∀ o ∈ cs.flatMap (bounded text n), o.Quiet :=
  everyReads (everyBounded (fun _ => admitsIdle text _) n) idle

end Quiet

structure InPlace (rank : Position → Nat) (c : Concrete) : Prop where
  regular : c.Regular
  spans : ∃ lo hi, Spans rank lo hi c

section Places
variable {text : List Char} {rank : Position → Nat} {c d : Concrete} {n : Nat}

theorem InPlace.part (h : InPlace rank c) (part : Part d c) : InPlace rank d := by
  refine overParts (fun c h d mem => ⟨h.regular.children d mem,?_⟩) part h
  obtain ⟨lo,hi,spans⟩ := h.spans
  exact ⟨lo,hi,spansMember (spansChildren spans) mem⟩

theorem leadsQuiet {k : NodeKind} {s : Span} {p : Payload Nat} {os : List Outline} (quiet : p.binds = false) :
    Leads rank k s p os := fun binds => by rw [quiet] at binds; cases binds

theorem leadsBehind {k : NodeKind} {s : Span} {p : Payload Nat} {os : List Outline} {hi : Nat}
    (behind : Spans rank (rank s.start) hi os) : Leads rank k s p os :=
  fun _ => ⟨[],os,hi,rfl,List.forall_mem_nil _,behind⟩

theorem definitionSplit (text : List Char) (r : Reader) (ds : List Concrete) (d : Concrete) :
    ∃ k p q rest, definition text r ds d =
        .node k d.span p ((ds.flatMap fun e => e.named.flatMap r) ++ rest) ∧
      definition text r [] d = .node k d.span q rest := by
  unfold definition classDef functionDef
  dsimp only
  split
  · exact ⟨_,_,_,_,congrArg _ (List.append_assoc ..),rfl⟩
  · exact ⟨_,_,_,_,congrArg _ (List.append_assoc ..),rfl⟩

theorem decoratorsQuiet (h : InPlace rank c) :
    ∀ o ∈ (c.named.filter fun e => e.hasKind .decorator).flatMap fun e => e.named.flatMap (bounded text n),
      o.Quiet := by
  intro o mem
  obtain ⟨e,listed,inside⟩ := List.mem_flatMap.mp mem
  obtain ⟨named,kind⟩ := List.mem_filter.mp listed
  have idle : ∀ a ∈ e.children, a.Idle := (h.part (partNamed named)).regular.fits (beq_iff_eq.mp kind)
  exact idleQuiet (fun a mem => idle a (List.mem_filter.mp mem).1) o inside

theorem definesKind {ds : List Concrete} (h : InPlace rank c) (defines : Defines c ds d) :
    d.kind? = some .classDefinition ∨ d.kind? = some .functionDefinition := by
  cases defines with
  | bare kind => exact kind.imp beq_iff_eq.mp beq_iff_eq.mp
  | decorated kind found =>
    obtain ⟨_,_,spans⟩ := h.spans
    refine (spansLaidOut spans (beq_iff_eq.mp kind)).defined rfl d ?_
    unfold Concrete.child? at found
    simp [inRolesOne,inRole,found]

theorem leadsDefinition {ds : List Concrete} (h : InPlace rank c) (defines : Defines c ds d) :
    (definition text (bounded text n) ds d).Has (Leads rank) := by
  have kind := definesKind h defines
  have inPlace : InPlace rank d := by
    cases defines with
    | bare => exact h
    | decorated _ found => exact h.part (partChild found)
  have quiet : ∀ o ∈ ds.flatMap fun e => e.named.flatMap (bounded text n), o.Quiet := by
    cases defines with
    | bare => exact List.forall_mem_nil _
    | decorated => exact decoratorsQuiet h
  obtain ⟨lo,hi,spans⟩ := inPlace.spans
  have own : Spans rank (rank d.span.start) hi (definition text (bounded text n) [] d) :=
    spansDefinition (orderlyBounded text n) (spansNil (Nat.le_refl _)) (spansFromStart spans) kind
  obtain ⟨k,p,q,rest,decorated,bare⟩ := definitionSplit text (bounded text n) ds d
  rw [bare] at own
  rw [decorated]
  exact fun _ => ⟨_,rest,hi,rfl,quiet,(spansOutline.mp own).2.2.2⟩

theorem admitsLeads (text : List Char) (rank : Position → Nat) (n : Nat) :
    Admits text (InPlace rank) (Leads rank) (bounded text n) where
  parts _ _ h part := h.part part
  plain _ _ _ _ _ _ plain _ := leadsQuiet (plainBinds plain)
  name _ _ _ := leadsQuiet rfl
  call _ _ _ := hasCall (fun _ _ _ _ => leadsQuiet rfl) fun _ => leadsQuiet rfl
  definition _ _ _ := leadsDefinition
  assign c h kind := by
    obtain ⟨lo,hi,spans⟩ := h.spans
    have parts := spansChain c.size (spansFromStart spans) (beq_iff_eq.mp kind)
    exact leadsBehind (k := .assign) (spansReads (orderlyBounded text n) parts)
  imports _ _ _ := leadsBehind (k := .imports) (spansNil (Nat.le_refl _))
  importFrom _ _ _ := leadsBehind (k := .importFrom) (spansNil (Nat.le_refl _))

end Places
end Lowering

theorem programSites {rank : Position → Nat} (ahead : ∀ p ds, rank p ≤ rank (p.advanceAll ds))
    {text : List Char} {program : Concrete} (ok : Grammar.parse text = .ok program) :
    Outline.Ascending rank (outline text program).sites := by
  obtain ⟨lo,hi,begins,children⟩ := parseInOrderBy ahead ok
  obtain ⟨span,body,rfl,regular⟩ := parsedRegular ok
  refine Outline.sitesAscend _ (spansProgram text begins children) (.node (Lowering.leadsQuiet rfl) ?_)
  refine Lowering.everyReads (Lowering.everyBounded (Lowering.admitsLeads text rank) _) fun c mem => ?_
  have child : c ∈ body := (List.mem_filter.mp mem).1
  exact ⟨regular c child,lo,hi,spansMember children child⟩

namespace Outline

mutual

theorem numberSites (parent : Option NodeId) (next : Nat) (o : Outline) :
    ((o.number parent next).filter fun n => n.payload.binds).map (fun n => n.span.start) = o.sites := by
  cases o with
  | node k s p cs =>
    rw [number,sites,← numberAllSites next (next + 1) cs,List.filter_cons,bindsMap]
    split
    · rfl
    · rfl

theorem numberAllSites (parent next : Nat) (os : List Outline) :
    ((numberAll parent next os).filter fun n => n.payload.binds).map (fun n => n.span.start) =
      sitesOf os := by
  cases os with
  | nil => rfl
  | cons o os =>
    rw [numberAll,sitesOf,List.filter_append,List.map_append,numberSites (some parent) next o,
      numberAllSites parent (next + o.size) os]

end

end Outline

theorem insideOfBinds {t : Tree} {i : NodeId} (binds : (t.payload i).binds) : i < t.size := by
  refine insideOfPayload fun nothing => ?_
  rw [nothing] at binds
  cases binds

theorem nodeAt {t : Tree} {i : NodeId} (inside : i < t.nodes.toList.length) : t.nodes.toList[i] = t.node i :=
  (nodeOfStored (List.getElem?_eq_getElem inside)).symm

section Parsed
variable {rank : Position → Nat} {text : List Char} {t : Tree} {i j : NodeId}

theorem nodesInOrder (ahead : ∀ p ds, rank p ≤ rank (p.advanceAll ds))
    (parsed : Tree.parse text = .ok t) : t.nodes.toList.Pairwise fun m n =>
      m.payload.binds → n.payload.binds → rank m.span.start ≤ rank n.span.start := by
  obtain ⟨program,read,rfl⟩ := outlineOfParse parsed
  have sites := programSites ahead read
  rwa [← Outline.numberSites none root,Outline.Ascending,List.pairwise_map,List.pairwise_filter] at sites

theorem bindsInOrder (ahead : ∀ p ds, rank p ≤ rank (p.advanceAll ds))
    (parsed : Tree.parse text = .ok t) (before : i ≤ j) (first : (t.payload i).binds)
    (second : (t.payload j).binds) : rank (t.span i).start ≤ rank (t.span j).start := by
  rcases Nat.eq_or_lt_of_le before with rfl | before
  · exact Nat.le_refl _
  have inside : j < t.nodes.toList.length := insideOfBinds second
  have ordered := List.pairwise_iff_getElem.mp (nodesInOrder ahead parsed) i j
    (Nat.lt_trans before inside) inside before
  rw [nodeAt,nodeAt] at ordered
  exact ordered first second

end Parsed

end ConventionLint.Tree
