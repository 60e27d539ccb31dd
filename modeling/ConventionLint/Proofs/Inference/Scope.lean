import ConventionLint.Inference.Value
import ConventionLint.Proofs.Tree.Continuation
import ConventionLint.Proofs.Tree.Order

/-! Bindings of a module that goes on. What is bound behind a module is bound by later nodes; as long
as a use refers to an earlier one, it refers to the same one without them. -/
namespace ConventionLint.Inference
open ConventionLint.Tree

namespace Binding
variable {t short long : Tree} {i : Nat} {b : Binding}

theorem ofTargetSource {site target : NodeId} {n : Nat} {origin : Origin}
    (mem : b ∈ ofTarget t site n origin target) :
    b.site = site ∧ b.line = t.line site ∧ (b.origin = origin ∨ b.origin = .unknown) := by
  induction n generalizing origin target with
  | zero => cases mem
  | succ n ih =>
    have deeper (inside : b ∈ (t.elements target).flatMap (ofTarget t site n .unknown)) :
        b.site = site ∧ b.line = t.line site ∧ (b.origin = origin ∨ b.origin = .unknown) := by
      obtain ⟨e,_,inside⟩ := List.mem_flatMap.mp inside
      obtain ⟨site,line,same⟩ := ih inside
      exact ⟨site,line,.inr (same.elim id id)⟩
    unfold ofTarget at mem
    split at mem
    · obtain ⟨name,_,rfl⟩ := List.mem_map.mp mem
      exact ⟨rfl,rfl,.inl rfl⟩
    · exact deeper mem
    · exact deeper mem
    · cases mem

structure Made (t : Tree) (i : NodeId) (b : Binding) : Prop where
  site : b.site = i
  line : b.line = t.line i
  ownClass : ∀ c, b.origin = .classDef c → c = i
  value : ∀ e, b.origin = .value e → ∃ ts, t.payload i = .assign ts (some e)

theorem madeOther (site : b.site = i) (line : b.line = t.line i) (noClass : ∀ c, b.origin ≠ .classDef c)
    (value : ∀ e, b.origin ≠ .value e) : Made t i b :=
  ⟨site,line,fun c same => absurd same (noClass c),fun e same => absurd same (value e)⟩

theorem madeUnknown (site : b.site = i) (line : b.line = t.line i) (origin : b.origin = .unknown) :
    Made t i b :=
  madeOther site line (by simp [origin]) (by simp [origin])

theorem ofDefinitionMade {origin : Origin} (ownClass : ∀ c, origin = .classDef c → c = i)
    (value : ∀ e, origin ≠ .value e) (mem : b ∈ ofDefinition t i origin) : Made t i b := by
  rcases List.mem_append.mp mem with mem | mem
  · obtain ⟨name,_,rfl⟩ := List.mem_map.mp mem
    exact ⟨rfl,rfl,ownClass,fun e same => absurd same (value e)⟩
  · obtain ⟨p,_,rfl⟩ := List.mem_map.mp mem
    exact madeUnknown rfl rfl rfl

theorem ofAssignmentMade {ts : List NodeId} {v : Option NodeId} (payload : t.payload i = .assign ts v)
    (mem : b ∈ ofAssignment t i) : Made t i b := by
  have value : t.value? i = v := by
    unfold Tree.value?
    rw [payload]
  obtain ⟨target,_,inside⟩ := List.mem_flatMap.mp mem
  obtain ⟨site,line,origin | origin⟩ := ofTargetSource inside
  · rw [value] at origin
    cases v with
    | none => exact madeUnknown site line origin
    | some v =>
      refine ⟨site,line,by simp [origin],fun e same => ⟨ts,?_⟩⟩
      rw [payload,Origin.value.inj (origin.symm.trans same)]
  · exact madeUnknown site line origin

theorem ofNodeMade (mem : b ∈ ofNode t i) : Made t i b := by
  unfold ofNode at mem
  split at mem
  · exact ofDefinitionMade (by simp) (by simp) mem
  · exact ofDefinitionMade (by simp) (by simp) mem
  · exact ofAssignmentMade ‹_› mem
  · obtain ⟨n,_,rfl⟩ := List.mem_map.mp mem
    unfold ofImport
    split
    · exact madeOther rfl rfl (by simp) (by simp)
    · exact madeOther rfl rfl (by simp) (by simp)
  · obtain ⟨n,_,made⟩ := List.mem_filterMap.mp mem
    unfold ofImportFrom at made
    split at made
    · cases made
    · cases made
      split
      · exact madeUnknown rfl rfl rfl
      · exact madeOther rfl rfl (by simp) (by simp)
  · cases mem

theorem insideOfBinding (mem : b ∈ ofNode t i) : i < t.size := by
  refine insideOfPayload fun nothing => ?_
  rw [ofNode,nothing] at mem
  cases mem

theorem ofClass {name : String} {bs : List NodeId} {doc : Option String}
    (is : t.payload i = .classDef name bs doc) (mem : b ∈ ofNode t i) : b.origin = .classDef i := by
  unfold ofNode ofDefinition Tree.params at mem
  simp only [is,List.map_nil,List.append_nil] at mem
  obtain ⟨n,_,rfl⟩ := List.mem_map.mp mem
  rfl

theorem ofTargetExtends (h : Extends short long) (ws : short.Wired) (wl : long.Wired) {site : Nat}
    (here : 0 < site) (inside : site < short.size) {n m target : Nat} {origin : Origin}
    (positive : 0 < target) (bound : target < short.size) (hn : short.size - target ≤ n)
    (hm : short.size - target ≤ m) :
    ofTarget long site n origin target = ofTarget short site m origin target := by
  induction n generalizing m target origin with
  | zero => omega
  | succ n ih =>
    obtain ⟨m,rfl⟩ : ∃ k, m = k + 1 := ⟨m - 1,by omega⟩
    have node := h.shared target positive bound
    have deeper : (long.elements target).flatMap (ofTarget long site n .unknown) =
        (short.elements target).flatMap (ofTarget short site m .unknown) := by
      have same : long.elements target = short.elements target := by
        unfold Tree.elements Tree.payload
        rw [node]
      rw [same]
      refine List.flatMap_congr fun e mem => ?_
      have child : e ∈ short.children target := by
        unfold Tree.elements at mem
        split at mem
        · rename_i es payload
          exact ws.refs target (by rw [payload]; rfl) e (by rw [payload]; exact mem)
        · cases mem
      obtain ⟨_,above,below⟩ := ws.child target e child
      exact ih (Nat.lt_trans positive above) below (by omega) (by omega)
    unfold ofTarget
    rw [h.kind bound,deeper,h.frame ws wl inside]
    unfold Tree.name? Tree.payload Tree.line Tree.span
    rw [node,h.shared site here inside]

theorem ofNodeExtends (h : Extends short long) (ws : short.Wired) (wl : long.Wired)
    (inside : i < short.size) : ofNode long i = ofNode short i := by
  by_cases first : i = root
  · obtain ⟨d,shortModule⟩ := h.shortRoot.2
    obtain ⟨d',longModule⟩ := h.longRoot.2
    unfold ofNode
    rw [first,shortModule,longModule]
  · have positive := Nat.pos_of_ne_zero first
    have node := h.shared i positive inside
    have payload : long.payload i = short.payload i := by
      unfold Tree.payload
      rw [node]
    have line : long.line i = short.line i := by
      unfold Tree.line Tree.span
      rw [node]
    have frame := h.frame ws wl inside
    have assigned (ts : List NodeId) (v : Option NodeId) (is : short.payload i = .assign ts v) :
        ofAssignment long i = ofAssignment short i := by
      unfold ofAssignment Tree.value? Tree.targets
      rw [payload,is]
      refine List.flatMap_congr fun target mem => ?_
      have child : target ∈ short.children i :=
        ws.refs i (by rw [is]; rfl) target (by rw [is]; exact List.mem_append_left _ mem)
      obtain ⟨_,above,below⟩ := ws.child i target child
      have bigger := h.bigger
      exact ofTargetExtends h ws wl positive inside (Nat.lt_trans positive above) below (by omega) (by omega)
    unfold ofNode
    rw [payload]
    split
    · unfold ofDefinition Tree.name? Tree.params
      rw [payload,line,frame]
    · unfold ofDefinition Tree.name? Tree.params
      rw [payload,line,frame]
    · exact assigned _ _ ‹_›
    · unfold ofImport
      rw [line,frame]
    · unfold ofImportFrom
      rw [line,frame]
    · rfl

end Binding

namespace Model
variable {short long : Tree} {u : Nat} {id : String} {b : Binding} {bs extra : List Binding}

theorem framesHead (t : Tree) (u : NodeId) : ∃ outer, frames t u = t.frame u :: outer := by
  unfold frames Tree.frame
  rw [← List.head?_filter]
  cases (t.ancestors u).filter fun a => Tree.isFrame (t.kind a) with
  | nil => exact ⟨[],rfl⟩
  | cons f fs => exact ⟨fs,rfl⟩

theorem framesBelow {t : Tree} (wired : t.Wired) (isModule : t.kind root = .module) (positive : 0 < u)
    (inside : u < t.size) : frames t u = (t.ancestors u).filter fun a => Tree.isFrame (t.kind a) := by
  have kept : root ∈ (t.ancestors u).filter fun a => Tree.isFrame (t.kind a) :=
    List.mem_filter.mpr ⟨rootAncestor wired positive inside,by rw [isModule]; rfl⟩
  unfold frames
  split
  · next empty =>
    rw [empty] at kept
    cases kept
  · rfl

theorem rootFrame {t : Tree} (wired : t.Wired) (isModule : t.kind root = .module) (positive : 0 < u)
    (inside : u < t.size) : root ∈ frames t u := by
  rw [framesBelow wired isModule positive inside]
  exact List.mem_filter.mpr ⟨rootAncestor wired positive inside,by rw [isModule]; rfl⟩

theorem framesThrough {t : Tree} (wired : t.Wired) (isModule : t.kind root = .module) (inside : u < t.size)
    {f : Nat} (mem : f ∈ t.ancestors u) (frame : Tree.isFrame (t.kind f)) (positive : 0 < f) :
    ∃ between, frames t u = between ++ f :: frames t f ∧
      ∀ g ∈ between, g ∈ t.ancestors u ∧ f ∈ t.ancestors g ∧ Tree.isFrame (t.kind g) := by
  have above := ancestorsSmaller wired mem
  obtain ⟨below,parted,all⟩ := ancestorsThrough wired inside mem
  refine ⟨below.filter fun a => Tree.isFrame (t.kind a),?_,fun g kept => ?_⟩
  · rw [framesBelow wired isModule (Nat.lt_trans positive above) inside,
      framesBelow wired isModule positive (Nat.lt_trans above inside),parted,List.filter_append,
      List.filter_cons,if_pos frame]
  · obtain ⟨mem,isFrame⟩ := List.mem_filter.mp kept
    exact ⟨by rw [parted]; exact List.mem_append_left _ mem,all g mem,isFrame⟩

theorem parsedModule {text : List Char} {t : Tree} (parsed : Tree.parse text = .ok t) :
    t.Wired ∧ t.kind root = .module ∧ ∃ d, t.payload root = .module d := by
  obtain ⟨program,_,rfl⟩ := outlineOfParse parsed
  exact ⟨wiredOfOutline text (soundOutline text program),rootOfModule⟩

theorem nameBelow {text : List Char} {t : Tree} (parsed : Tree.parse text = .ok t)
    (is : t.payload u = .name id) : 0 < u ∧ u < t.size := by
  obtain ⟨_,_,d,top⟩ := parsedModule parsed
  constructor
  · refine Nat.pos_of_ne_zero fun first => ?_
    rw [first] at is
    cases top.symm.trans is
  · exact insideOfPayload (is ▸ nofun)

theorem bindingsExtend (h : Extends short long) (ws : short.Wired) (wl : long.Wired) :
    ∃ extra, (ofTree long).bindings = (ofTree short).bindings ++ extra ∧
      ∀ b ∈ extra, short.size ≤ b.site := by
  obtain ⟨n,same⟩ : ∃ n, long.size = short.size + n := ⟨long.size - short.size,by have := h.bigger; omega⟩
  have early : (List.range short.size).flatMap (Binding.ofNode long) =
      (List.range short.size).flatMap (Binding.ofNode short) :=
    List.flatMap_congr fun i mem => Binding.ofNodeExtends h ws wl (List.mem_range.mp mem)
  refine ⟨((List.range n).map (short.size + ·)).flatMap (Binding.ofNode long),?_,?_⟩
  · unfold ofTree Tree.ids
    rw [same,List.range_add,List.flatMap_append,early]
  · intro b mem
    obtain ⟨i,hi,made⟩ := List.mem_flatMap.mp mem
    obtain ⟨j,_,rfl⟩ := List.mem_map.mp hi
    rw [(Binding.ofNodeMade made).site]
    exact Nat.le_add_right _ _

theorem bindingSource {t : Tree} (mem : b ∈ (ofTree t).bindings) :
    b.site < t.size ∧ b ∈ Binding.ofNode t b.site := by
  obtain ⟨i,inside,made⟩ := List.mem_flatMap.mp mem
  rw [(Binding.ofNodeMade made).site]
  exact ⟨List.mem_range.mp inside,made⟩

theorem bindingMade {t : Tree} (mem : b ∈ (ofTree t).bindings) : Binding.Made t b.site b :=
  Binding.ofNodeMade (bindingSource mem).2

theorem nearestMem {m : Model} (found : m.nearest? u bs = some b) : b ∈ bs := by
  unfold nearest? at found
  dsimp only at found
  split at found
  · cases found
    exact List.mem_reverse.mp (List.mem_of_find?_eq_some ‹_›)
  · exact List.mem_of_getLast? found

theorem nearestNone {m : Model} : m.nearest? u bs = none ↔ bs = [] := by
  constructor
  · intro missing
    unfold nearest? at missing
    dsimp only at missing
    split at missing
    · cases missing
    · exact List.getLast?_eq_none_iff.mp missing
  · rintro rfl
    rfl

theorem nearestSome {m : Model} (nonempty : bs ≠ []) : ∃ b, m.nearest? u bs = some b :=
  Option.ne_none_iff_exists'.mp fun missing => nonempty (nearestNone.mp missing)

theorem lastEarlier (found : (bs ++ extra).getLast? = some b) (old : b ∉ extra) :
    bs.getLast? = some b := by
  rw [List.getLast?_append] at found
  cases last : extra.getLast? with
  | none =>
    rw [last] at found
    simpa using found
  | some c =>
    rw [last] at found
    cases found
    exact absurd (List.mem_of_getLast? last) old

theorem nearestEarlier {m : Model} (found : m.nearest? u (bs ++ extra) = some b) (old : b ∉ extra) :
    m.nearest? u bs = some b := by
  unfold nearest? at found ⊢
  dsimp only at found ⊢
  rw [List.reverse_append,List.find?_append] at found
  cases later : extra.reverse.find? fun b => b.line ≤ m.tree.line u && !m.isWithin u b with
  | some c =>
    rw [later] at found
    cases found
    exact absurd (List.mem_reverse.mp (List.mem_of_find?_eq_some later)) old
  | none =>
    rw [later,Option.none_or] at found
    split at found
    · exact found
    · exact lastEarlier found old

theorem nearestExtends (h : Extends short long) (ws : short.Wired) (wl : long.Wired) (positive : 0 < u)
    (inside : u < short.size) (bs : List Binding) :
    (ofTree long).nearest? u bs = (ofTree short).nearest? u bs := by
  unfold nearest? isWithin ofTree Tree.line Tree.span
  dsimp only
  rw [h.shared u positive inside,h.ancestors ws wl inside]

theorem framesExtend (h : Extends short long) (ws : short.Wired) (wl : long.Wired)
    (inside : u < short.size) : frames long u = frames short u := by
  unfold frames
  rw [h.ancestors ws wl inside,List.filter_congr (h.isFrame ws inside)]

theorem framesInside {t : Tree} (wired : t.Wired) {f : Nat} (mem : f ∈ frames t u) (inside : u < t.size) :
    f < t.size := by
  unfold frames at mem
  split at mem
  · cases List.mem_singleton.mp mem
    exact Nat.lt_of_le_of_lt (Nat.zero_le u) inside
  · have up := ancestorsSmaller wired (List.mem_filter.mp mem).1
    exact Nat.lt_trans up inside

theorem bindingsInExtend (same : (ofTree long).bindings = (ofTree short).bindings ++ extra)
    (f : NodeId) (id : String) :
    (ofTree long).bindingsIn f id =
      (ofTree short).bindingsIn f id ++ extra.filter fun b => b.frame == f && b.name == id := by
  unfold bindingsIn
  rw [same,List.filter_append]

theorem findSomeEarlier {fs : List NodeId} {g g' : NodeId → Option Binding}
    (keep : ∀ f, g' f = some b → g f = some b) (absent : ∀ f, g' f = none → g f = none)
    (found : fs.findSome? g' = some b) : fs.findSome? g = some b := by
  induction fs with
  | nil => cases found
  | cons f fs ih =>
    rw [List.findSome?_cons] at found ⊢
    cases first : g' f with
    | none =>
      rw [first] at found
      rw [absent f first]
      exact ih found
    | some c =>
      rw [first] at found
      cases found
      rw [keep f first]

theorem lastNone (missing : (bs ++ extra).getLast? = none) : bs.getLast? = none := by
  rw [List.getLast?_eq_none_iff] at missing ⊢
  exact (List.append_eq_nil_iff.mp missing).1

@[simp] theorem treeOfTree (t : Tree) : (ofTree t).tree = t := rfl

theorem outerExtends (h : Extends short long) {fs : List NodeId} (all : ∀ f ∈ fs, f < short.size) :
    (fs.filter fun f => long.kind f != .classDef) = fs.filter fun f => short.kind f != .classDef :=
  List.filter_congr fun f mem => by rw [h.kind (all f mem)]

theorem lookupEarlier (h : Extends short long) (ws : short.Wired) (wl : long.Wired) (positive : 0 < u)
    (inside : u < short.size) (found : (ofTree long).lookup? u id = some b)
    (old : b.site < short.size) : (ofTree short).lookup? u id = some b := by
  obtain ⟨extra,same,later⟩ := bindingsExtend h ws wl
  have new (f : NodeId) : b ∉ extra.filter fun c => c.frame == f && c.name == id :=
    fun mem => Nat.not_lt.mpr (later b (List.mem_filter.mp mem).1) old
  unfold lookup? at found ⊢
  simp only [treeOfTree,framesExtend h ws wl inside,bindingsInExtend same] at found ⊢
  split at found
  · cases found
  · rename_i inner outer around
    rw [nearestExtends h ws wl positive inside] at found
    split at found
    · rename_i c nearest
      cases found
      rw [nearestEarlier nearest (new inner)]
    · rename_i nothing
      have empty := (List.append_eq_nil_iff.mp (nearestNone.mp nothing)).1
      rw [nearestNone.mpr empty]
      have around : ∀ f ∈ outer, f < short.size := fun f mem =>
        framesInside ws (by rw [around]; exact List.mem_cons_of_mem _ mem) inside
      rw [outerExtends h around] at found
      exact findSomeEarlier (fun f last => lastEarlier last (new f)) (fun f => lastNone) found

theorem lookupNone (h : Extends short long) (ws : short.Wired) (wl : long.Wired)
    (inside : u < short.size) (missing : (ofTree long).lookup? u id = none) :
    (ofTree short).lookup? u id = none := by
  obtain ⟨extra,same,_⟩ := bindingsExtend h ws wl
  unfold lookup? at missing ⊢
  simp only [treeOfTree,framesExtend h ws wl inside,bindingsInExtend same] at missing ⊢
  split at missing
  · rfl
  · rename_i inner outer around
    split at missing
    · cases missing
    · rename_i nothing
      have empty := (List.append_eq_nil_iff.mp (nearestNone.mp nothing)).1
      rw [nearestNone.mpr empty]
      have around : ∀ f ∈ outer, f < short.size := fun f mem =>
        framesInside ws (by rw [around]; exact List.mem_cons_of_mem _ mem) inside
      rw [outerExtends h around,List.findSome?_eq_none_iff] at missing
      exact List.findSome?_eq_none_iff.mpr fun f mem => lastNone (missing f mem)

end Model

end ConventionLint.Inference
