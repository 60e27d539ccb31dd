import Mathlib.Data.List.Count
import ConventionLint.Check.Checker
import ConventionLint.Proofs.Tree.Order

/-! The walk with its list of pending visits, the recursive traversal and the numbers of the nodes are
one order. All three are compared with the visits of an outline, which are found by recursion on it. -/
namespace ConventionLint.Check
open ConventionLint.Tree

mutual

def visitsOf (i : NodeId) : Outline → List Visit
  | .node _ _ _ cs => ⟨.enter,i⟩ :: (visitsOfAll (i + 1) cs ++ [⟨.leave,i⟩])

def visitsOfAll (next : NodeId) : List Outline → List Visit
  | [] => []
  | o :: os => visitsOf next o ++ visitsOfAll (next + o.size) os

end

inductive Nested : List Visit → Prop where
  | nil : Nested []
  | around {i : NodeId} {inner rest : List Visit} (within : Nested inner) (behind : Nested rest) :
      Nested (⟨.enter,i⟩ :: (inner ++ ⟨.leave,i⟩ :: rest))

theorem Nested.append {vs ws : List Visit} (first : Nested vs) (second : Nested ws) :
    Nested (vs ++ ws) := by
  induction first with
  | nil => exact second
  | around within _ _ ih =>
    rw [List.cons_append,List.append_assoc,List.cons_append]
    exact .around within ih

def entered (vs : List Visit) : List NodeId := (vs.filter fun v => v.phase == .enter).map Visit.node

theorem enteredAppend (vs ws : List Visit) : entered (vs ++ ws) = entered vs ++ entered ws := by
  simp [entered]

mutual

theorem nestedVisits (i : NodeId) (o : Outline) : Nested (visitsOf i o) := by
  cases o with
  | node k s p cs =>
    rw [visitsOf]
    exact .around (nestedVisitsAll (i + 1) cs) .nil

theorem nestedVisitsAll (next : NodeId) (os : List Outline) : Nested (visitsOfAll next os) := by
  cases os with
  | nil => exact .nil
  | cons o os => exact (nestedVisits next o).append (nestedVisitsAll (next + o.size) os)

end

mutual

theorem enteredVisits (i : NodeId) (o : Outline) : entered (visitsOf i o) = List.range' i o.size := by
  cases o with
  | node k s p cs =>
    have own : entered [⟨.enter,i⟩] = [i] ∧ entered [⟨.leave,i⟩] = [] := ⟨rfl,rfl⟩
    rw [visitsOf,← List.singleton_append,enteredAppend,enteredAppend,enteredVisitsAll (i + 1) cs,
      own.1,own.2,Outline.sizeNode,Nat.add_comm 1,List.range'_succ,List.append_nil]
    rfl

theorem enteredVisitsAll (next : NodeId) (os : List Outline) :
    entered (visitsOfAll next os) = List.range' next (Outline.sizeAll os) := by
  cases os with
  | nil => rfl
  | cons o os =>
    rw [visitsOfAll,enteredAppend,enteredVisits next o,enteredVisitsAll (next + o.size) os,
      Outline.sizeAll,List.range'_append_1]

end

theorem Nested.countLeave {vs : List Visit} (nested : Nested vs) (i : NodeId) :
    vs.count ⟨.leave,i⟩ = vs.count ⟨.enter,i⟩ := by
  induction nested with
  | nil => rfl
  | @around j inner rest _ _ ihInner ihRest =>
    by_cases same : j = i
    · subst same
      simp only [List.count_cons,List.count_append,ihInner,ihRest]
      simp
      omega
    · simp [List.count_append,ihInner,ihRest,same]

theorem countEnter (vs : List Visit) (i : NodeId) : vs.count ⟨.enter,i⟩ = (entered vs).count i := by
  induction vs with
  | nil => rfl
  | cons v vs ih =>
    obtain ⟨phase,j⟩ := v
    cases phase with
    | enter => simpa [entered,List.count_cons] using ih
    | leave => simpa [entered] using ih

section Stored
variable {t : Tree}

theorem walkNothing (n : Nat) : walkBounded t n [] = [] := by
  cases n <;> rfl

mutual

theorem walkStored {parent : Option NodeId} {i : NodeId} (o : Outline)
    (h : Outline.Stored t.nodes.toList parent i o) (n : Nat) (pending : List Visit) :
    walkBounded t (2 * o.size + n) (⟨.enter,i⟩ :: pending) = visitsOf i o ++ walkBounded t n pending := by
  cases o with
  | node k s p cs =>
    have steps : 2 * (Outline.node k s p cs).size + n = (2 * Outline.sizeAll cs + (n + 1)) + 1 := by
      rw [Outline.sizeNode]
      omega
    rw [steps,walkBounded,childrenOfStored h,walkStoredAll cs h.below (n + 1),walkBounded,visitsOf]
    simp only [List.cons_append,List.append_assoc,List.nil_append]

theorem walkStoredAll {i next : NodeId} (os : List Outline)
    (h : Outline.StoredAll t.nodes.toList i next os) (n : Nat) (pending : List Visit) :
    walkBounded t (2 * Outline.sizeAll os + n) ((Outline.numbers next os).map (Visit.mk .enter) ++ pending) =
      visitsOfAll next os ++ walkBounded t n pending := by
  cases os with
  | nil => simp [Outline.numbers,Outline.sizeAll,visitsOfAll]
  | cons o os =>
    rw [Outline.numbers,Outline.sizeAll,List.map_cons,List.cons_append,Nat.mul_add,Nat.add_assoc,
      walkStored o h.first,walkStoredAll os h.rest n,visitsOfAll,List.append_assoc]

end

mutual

theorem traversalStored {parent : Option NodeId} {i : NodeId} (o : Outline)
    (h : Outline.Stored t.nodes.toList parent i o) {depth : Nat} (deep : o.size ≤ depth) :
    visitsBelow t depth i = visitsOf i o := by
  cases o with
  | node k s p cs =>
    rw [Outline.sizeNode] at deep
    obtain ⟨n,rfl⟩ : ∃ n, depth = n + 1 := ⟨depth - 1,by omega⟩
    rw [visitsBelow,childrenOfStored h,traversalStoredAll cs h.below (by omega),visitsOf,List.cons_append]

theorem traversalStoredAll {i next : NodeId} (os : List Outline)
    (h : Outline.StoredAll t.nodes.toList i next os) {depth : Nat} (deep : Outline.sizeAll os ≤ depth) :
    (Outline.numbers next os).flatMap (visitsBelow t depth) = visitsOfAll next os := by
  cases os with
  | nil => rfl
  | cons o os =>
    rw [Outline.sizeAll] at deep
    rw [Outline.numbers,List.flatMap_cons,traversalStored o h.first (by omega),
      traversalStoredAll os h.rest (by omega),visitsOfAll]

end

theorem walkOfOutline (text : List Char) (o : Outline) : walk (ofOutline text o) = visitsOf Tree.root o := by
  have found := walkStored o (storedTop text o) 0 []
  rw [walkNothing,List.append_nil,Nat.add_zero] at found
  rw [walk,sizeOfOutline,found]

end Stored

namespace Checker
variable {σ : Type}

def inTurn (run : α → σ → σ × List Note) : List α → σ → σ × List Note
  | [], s => (s,[])
  | a :: as, s =>
    let (s,notes) := run a s
    let (s,more) := inTurn run as s
    (s,notes ++ more)

theorem inTurnAppend (run : α → σ → σ × List Note) (as bs : List α) (s : σ) :
    inTurn run (as ++ bs) s =
      ((inTurn run bs (inTurn run as s).1).1,
        (inTurn run as s).2 ++ (inTurn run bs (inTurn run as s).1).2) := by
  induction as generalizing s with
  | nil => rfl
  | cons a as ih => simp only [List.cons_append,inTurn,ih,List.append_assoc]

theorem inTurnFlatMap (run : α → σ → σ × List Note) (f : β → List α) (bs : List β) (s : σ) :
    inTurn run (bs.flatMap f) s = inTurn (fun b => inTurn run (f b)) bs s := by
  induction bs generalizing s with
  | nil => rfl
  | cons b bs ih => simp only [List.flatMap_cons,inTurnAppend,inTurn,ih]

theorem inTurnMap (run : α → σ → σ × List Note) (g : β → α) (bs : List β) (s : σ) :
    inTurn run (bs.map g) s = inTurn (fun b => run (g b)) bs s := by
  induction bs generalizing s with
  | nil => rfl
  | cons b bs ih => simp only [List.map_cons,inTurn,ih]

theorem reactInTurn (f : File) (i : NodeId) (hs : List (Handler σ)) (s : σ) :
    react f i hs s = inTurn (fun h => h.run f i) hs s := by
  induction hs generalizing s with
  | nil => rfl
  | cons h hs ih => simp only [react,inTurn,ih]

def respond (c : Checker) (f : File) (phase : Phase) (i : NodeId) : c.State → c.State × List Note :=
  inTurn (fun h => h.run f i) (c.handlers.filter (·.handles phase (f.tree.kind i)))

def descend (c : Checker) (f : File) : Nat → NodeId → c.State → c.State × List Note
  | 0, _, s => (s,[])
  | n + 1, i, s =>
    let (s,before) := c.respond f .enter i s
    let (s,within) := inTurn (descend c f n) (f.tree.children i) s
    let (s,behind) := c.respond f .leave i s
    (s,before ++ within ++ behind)

theorem chosenHandlers (c : Checker) (phase : Phase) (kind : NodeKind) :
    (c.resolved.filter fun e => e.2.phase == phase && e.1 == kind).map Prod.snd =
      c.handlers.filter (·.handles phase kind) := by
  unfold resolved
  induction c.handlers with
  | nil => rfl
  | cons h hs ih =>
    cases named : h.kind? with
    | none => simp [named,Handler.handles,ih]
    | some own =>
      by_cases chosen : h.phase = phase ∧ own = kind
      · simp [named,Handler.handles,chosen,ih]
      · simp [named,Handler.handles,chosen,ih]

theorem notesOfInTurn (c : Checker) (f : File) (vs : List Visit) (s : c.State) :
    notesOf c.resolved f vs s = (inTurn (fun v => c.respond f v.phase v.node) vs s).2 := by
  induction vs generalizing s with
  | nil => rfl
  | cons v vs ih => simp only [notesOf,inTurn,chosenHandlers,reactInTurn,respond,ih]

theorem visitsInTurn (c : Checker) (f : File) (depth : Nat) (i : NodeId) (s : c.State) :
    inTurn (fun v => c.respond f v.phase v.node) (visitsBelow f.tree depth i) s = c.descend f depth i s := by
  induction depth generalizing i s with
  | zero => rfl
  | succ n ih =>
    have below : (fun b => inTurn (fun v => c.respond f v.phase v.node) (visitsBelow f.tree n b)) =
        c.descend f n := by
      funext b s
      exact ih b s
    simp only [visitsBelow,List.cons_append,inTurn,inTurnAppend,inTurnFlatMap,below,descend,
      List.append_nil,List.append_assoc]

end Checker

theorem enteredOutline (text : List Char) (o : Outline) :
    entered (walk (ofOutline text o)) = (ofOutline text o).ids := by
  rw [walkOfOutline,enteredVisits,Tree.ids,sizeOfOutline,List.range_eq_range']
  rfl

theorem entersOnce {text : List Char} {t : Tree} (parsed : Tree.parse text = .ok t) (i : NodeId) :
    (walk t).count ⟨.enter,i⟩ = if i < t.size then 1 else 0 := by
  obtain ⟨program,_,rfl⟩ := outlineOfParse parsed
  rw [countEnter,enteredOutline,Tree.ids,List.nodup_range.count]
  simp only [List.mem_range]

theorem nestedWalk {text : List Char} {t : Tree} (parsed : Tree.parse text = .ok t) : Nested (walk t) := by
  obtain ⟨program,_,rfl⟩ := outlineOfParse parsed
  rw [walkOfOutline]
  exact nestedVisits _ _

theorem visitsOnce {text : List Char} {t : Tree} (parsed : Tree.parse text = .ok t) (phase : Phase)
    (i : NodeId) : (walk t).count ⟨phase,i⟩ = if i < t.size then 1 else 0 := by
  cases phase with
  | enter => exact entersOnce parsed i
  | leave => rw [(nestedWalk parsed).countLeave,entersOnce parsed]

/-- Every checker is led through a parsed text in the order of the recursive traversal. The walk enters
and leaves each node once, one within the other, and enters them in the order of their numbers, which
is the order from the top down. -/
theorem walkInOrder {text : List Char} {t : Tree} (parsed : Tree.parse text = .ok t) :
    (∀ depth, t.size ≤ depth → walk t = visitsBelow t depth Tree.root) ∧
    (∀ (c : Checker) (f : File), f.tree = t → ∀ depth, t.size ≤ depth →
      c.notes f = (c.descend f depth Tree.root c.initial).2) ∧
    Nested (walk t) ∧
    (∀ phase i, (walk t).count ⟨phase,i⟩ = if i < t.size then 1 else 0) ∧
    entered (walk t) = t.ids ∧ t.ids = Tree.root :: t.descendants Tree.root := by
  have nested := nestedWalk parsed
  have once := visitsOnce parsed
  obtain ⟨program,_,rfl⟩ := outlineOfParse parsed
  generalize outline text program = o at nested once ⊢
  have traversal : ∀ depth, (ofOutline text o).size ≤ depth →
      walk (ofOutline text o) = visitsBelow (ofOutline text o) depth Tree.root := by
    intro depth deep
    rw [walkOfOutline,traversalStored o (storedTop text o) (by rwa [sizeOfOutline] at deep)]
  have order := enteredOutline text o
  refine ⟨traversal,?_,nested,once,order,?_⟩
  · intro c f same depth deep
    rw [Checker.notes,Checker.notesOfInTurn,same,traversal depth deep,← same,Checker.visitsInTurn]
  · have positive := o.sizePositive
    rw [descendantsStored (storedTop text o),Tree.ids,sizeOfOutline,List.range_eq_range',
      ← List.range'_succ,Nat.sub_add_cancel positive]
    rfl

theorem walkOfCall :
    let probe := Checker.stateless "probe" "" []
      [⟨.leave,"Name",fun _ i _ => ((),[.finding ⟨⟨"C1","name","\x7b\x7d",""⟩,.node i,[]⟩])⟩]
    ∃ t, Tree.parse "f(x, y)\n".toList = .ok t ∧ t.size = 5 ∧
      walk t = visitsBelow t 5 Tree.root ∧
      probe.notes (.ofTree (.ofString "a.py") (.ofString "") t) =
        (probe.descend (.ofTree (.ofString "a.py") (.ofString "") t) 5 Tree.root ()).2 ∧
      Nested (walk t) ∧ (walk t).count ⟨.leave,4⟩ = 1 ∧ (walk t).count ⟨.leave,5⟩ = 0 ∧
      entered (walk t) = [0,1,2,3,4] := by
  intro probe
  obtain ⟨t,parsed,size⟩ :=
    @parsedOfSize "f(x, y)\n".toList 5 (by decide +kernel)
  obtain ⟨traversal,led,nested,once,order,_⟩ := walkInOrder parsed
  refine ⟨t,parsed,size,traversal 5 (by omega),led probe _ rfl 5 (by omega),nested,?_,?_,?_⟩
  · rw [once,size]
    rfl
  · rw [once,size]
    rfl
  · rw [order,Tree.ids,size]
    rfl

end ConventionLint.Check
