import ConventionLint.Proofs.Check.Notes
import ConventionLint.Proofs.Check.Runs
import ConventionLint.Proofs.Check.Suppression
import ConventionLint.Rule.ParentCall

/-! What the rule about calls of parents says of a method, without the list of the bases that are still to be
called: calls up to the first one by `super` are looked at one by one, and bases only if there is no such call. -/
namespace ConventionLint

namespace Rule.ParentCall
open Check (Checker File Note)
open ConventionLint.Tree (NodeId)
open Inference (ClassId Model)

def methodCalls (t : Tree) (method : String) (i : NodeId) : List (NodeId × NodeId) :=
  (t.descendants i).filterMap fun call => (t.func? call).bind fun func =>
    ((t.access? func).filter fun e => e.2 == method).map fun e => (func,e.1)

def StandsForParents (m : Model) (object : NodeId) : Prop :=
  (m.tree.func? object).bind m.tree.name? = some "super" ∨
    m.infer object = some (.instanceOf (.wellKnown .super))

instance (m : Model) (object : NodeId) : Decidable (StandsForParents m object) :=
  inferInstanceAs (Decidable (_ ∨ _))

def Gives (m : Model) (c : ClassId) (method : String) (b : ClassId) : Prop :=
  b ∈ m.bases c ∧ (m.provider? b method).isSome

instance (m : Model) (c : ClassId) (method : String) (b : ClassId) : Decidable (Gives m c method b) :=
  inferInstanceAs (Decidable (_ ∧ _))

def elsewhere (m : Model) (c : ClassId) (method : String) (calls : List (NodeId × NodeId)) : List Note :=
  calls.filterMap fun e =>
    match m.infer e.2 with
    | some (.classObject k) =>
      if Gives m c method k then none else some (.at calledElsewhere e.1 [method,m.className k])
    | _ => none

def missed (m : Model) (c : ClassId) (method : String) (i : NodeId) (calls : List (NodeId × NodeId)) : List Note :=
  (m.bases c).filterMap fun b => (m.provider? b method).bind fun source =>
    if b = .object ∨ source = .object ∨ ∃ e ∈ calls, m.infer e.2 = some (.classObject b) then none
    else some (.at notCalled i [method,m.className source])

/-- What there is to say about a method: calls count up to the first one on the parents as a whole. -/
def told (m : Model) (c : ClassId) (method : String) (i : NodeId) : List Note :=
  let calls := methodCalls m.tree method i
  elsewhere m c method (calls.takeWhile fun e => ¬ StandsForParents m e.2) ++
    if ∃ e ∈ calls, StandsForParents m e.2 then [] else missed m c method i calls

section Follow
variable {all left : List Provider} {calls : List (NodeId × Receiver)}

def stranger? (all : List Provider) (e : NodeId × Receiver) : Option (NodeId × ClassId) :=
  match e.2 with
  | .classObject c => if all.any fun p => p.base == c then none else some (e.1,c)
  | _ => none

theorem eraseByBase (distinct : (left.map Provider.base).Nodup) (c : ClassId) :
    left.eraseP (fun p => p.base == c) = left.filter fun p => p.base != c := by
  induction left with
  | nil => rfl
  | cons p left ih =>
    rw [List.map_cons,List.nodup_cons] at distinct
    by_cases here : p.base = c
    · subst here
      have others : ∀ q ∈ left, (q.base != p.base) = true := by
        intro q mem
        exact bne_iff_ne.mpr fun same => distinct.1 (same ▸ List.mem_map_of_mem mem)
      rw [List.eraseP_cons_of_pos (by simp),List.filter_cons_of_neg (by simp),List.filter_eq_self.mpr others]
    · rw [List.eraseP_cons_of_neg (by simpa using here),List.filter_cons_of_pos (by simpa using here),
        ih distinct.2]

theorem followStrangers (within : ∀ p ∈ left, p ∈ all) :
    (follow all left calls).1 = (calls.takeWhile fun e => e.2 != .parent).filterMap (stranger? all) := by
  induction calls generalizing left with
  | nil => rfl
  | cons e calls ih =>
    obtain ⟨func,r⟩ := e
    cases r with
    | parent => rfl
    | other => exact ih within
    | classObject c =>
      rw [follow,List.takeWhile_cons_of_pos rfl,List.filterMap_cons]
      -- a class that is left is a provider; one that was called before is one too, though no longer left
      by_cases among : left.any fun p => p.base == c
      · have listed : all.any fun p => p.base == c := by
          obtain ⟨p,mem,same⟩ := List.any_eq_true.mp among
          exact List.any_eq_true.mpr ⟨p,within p mem,same⟩
        have fewer : ∀ p ∈ left.eraseP fun p => p.base == c, p ∈ all := fun p mem =>
          within p (List.mem_of_mem_eraseP mem)
        simp only [among,if_true,stranger?,listed,ih fewer]
      · simp only [among,Bool.false_eq_true,if_false,ih within,stranger?]
        split <;> rfl

def isUnmet (calls : List (NodeId × Receiver)) (p : Provider) : Bool :=
  calls.all fun e => e.2 != .classObject p.base

theorem unmetOther {e : NodeId × Receiver} (other : ∀ c, e.2 ≠ .classObject c) :
    isUnmet (e :: calls) = isUnmet calls := by
  funext p
  rw [isUnmet,List.all_cons,bne_iff_ne.mpr (other p.base),Bool.true_and,isUnmet]

theorem followLeft (distinct : (left.map Provider.base).Nodup) : (follow all left calls).2 =
    if calls.any fun e => e.2 == .parent then none else some (left.filter (isUnmet calls)) := by
  induction calls generalizing left with
  | nil =>
    have unmet : isUnmet [] = fun _ => true := rfl
    rw [follow,unmet,List.filter_true]
    rfl
  | cons e calls ih =>
    obtain ⟨func,r⟩ := e
    cases r with
    | parent => rfl
    | other =>
      rw [unmetOther (e := (func,.other)) fun _ => nofun,List.any_cons]
      exact ih distinct
    | classObject c =>
      have away : (left.eraseP fun p => p.base == c).filter (isUnmet calls) =
          left.filter (isUnmet ((func,.classObject c) :: calls)) := by
        rw [eraseByBase distinct,List.filter_filter]
        refine List.filter_congr fun p _ => ?_
        rw [isUnmet,isUnmet,List.all_cons,Bool.and_comm]
        congr 1
        rw [Bool.eq_iff_iff,bne_iff_ne,bne_iff_ne,ne_eq,ne_eq,Receiver.classObject.injEq,eq_comm]
      have fewer : ((left.eraseP fun p => p.base == c).map Provider.base).Nodup :=
        distinct.sublist (List.eraseP_sublist.map _)
      rw [follow,List.any_cons,show ((func,Receiver.classObject c).2 == Receiver.parent) = false from rfl,
        Bool.false_or,← away]
      by_cases among : left.any fun p => p.base == c
      · simp only [among,if_true,ih fewer]
      · have gone : left.eraseP (fun p => p.base == c) = left := by
          rw [List.eraseP_of_forall_not]
          exact fun p mem same => among (List.any_eq_true.mpr ⟨p,mem,same⟩)
        rw [gone]
        simp only [among,Bool.false_eq_true,if_false,ih distinct]

end Follow

section Notes
variable {m : Model} {c : ClassId} {method : String} {i object : NodeId} {methods : List String} {f : File}

theorem receiverParent : receiver m object = .parent ↔ StandsForParents m object := by
  have named : isSuperCall m.tree object = true ↔ (m.tree.func? object).bind m.tree.name? = some "super" :=
    beq_iff_eq
  rw [receiver,StandsForParents,← named]
  cases isSuperCall m.tree object with
  | true => simp
  | false =>
    cases m.infer object with
    | none => simp
    | some v => cases v <;> simp [ClassId.isSuper]

theorem receiverClass (other : ¬ StandsForParents m object) {k : ClassId} :
    receiver m object = .classObject k ↔ m.infer object = some (.classObject k) := by
  have named : isSuperCall m.tree object = false :=
    Bool.eq_false_iff.mpr fun call => other (.inl (beq_iff_eq.mp call))
  rw [receiver,named,if_neg Bool.false_ne_true]
  split
  · next found => split <;> simp [found]
  · next found => simp [found]
  · next _ missing => simpa using missing k

theorem callsByReceiver :
    callsOf m method i = (methodCalls m.tree method i).map fun e => (e.1,receiver m e.2) := by
  rw [callsOf,methodCalls,List.map_filterMap]
  refine List.filterMap_congr fun call _ => ?_
  cases called : m.tree.func? call with
  | none => simp
  | some func =>
    cases accessed : m.tree.access? func with
    | none => simp [accessed]
    | some e => by_cases own : e.2 = method <;> simp [accessed,own,Option.filter]

theorem providerAmong (k : ClassId) :
    ((providers m c method).any fun p => p.base == k) = decide (Gives m c method k) := by
  rw [Bool.eq_iff_iff,List.any_eq_true,decide_eq_true_iff,Gives,Option.isSome_iff_exists]
  constructor
  · rintro ⟨p,mem,same⟩
    obtain ⟨b,listed,made⟩ := List.mem_filterMap.mp mem
    obtain ⟨source,found,rfl⟩ := Option.map_eq_some_iff.mp made
    obtain rfl : b = k := eq_of_beq same
    exact ⟨listed,source,found⟩
  · rintro ⟨listed,source,found⟩
    exact ⟨⟨k,source⟩,List.mem_filterMap.mpr ⟨k,listed,by rw [found]; rfl⟩,beq_self_eq_true k⟩

theorem providerBases (distinct : (m.bases c).Nodup) : ((providers m c method).map Provider.base).Nodup := by
  have sameBases : (providers m c method).map Provider.base =
      (m.bases c).filter fun b => (m.provider? b method).isSome := by
    rw [providers,List.map_filterMap,← List.filterMap_eq_filter]
    refine List.filterMap_congr fun b _ => ?_
    cases found : m.provider? b method <;> simp [Option.guard,found]
  rw [sameBases]
  exact distinct.filter _

theorem strangersElsewhere {calls : List (NodeId × NodeId)} (strangers : ∀ e ∈ calls, ¬ StandsForParents m e.2) :
    ((calls.map fun e => (e.1,receiver m e.2)).filterMap (stranger? (providers m c method))).map
      (fun e => Note.at calledElsewhere e.1 [method,m.className e.2]) = elsewhere m c method calls := by
  rw [List.filterMap_map,List.map_filterMap,elsewhere]
  refine List.filterMap_congr fun e mem => ?_
  have own {k : ClassId} := receiverClass (strangers e mem) (k := k)
  simp only [Function.comp,stranger?]
  split
  · next k found =>
    rw [own.mp found,providerAmong]
    by_cases gives : Gives m c method k <;> simp [gives]
  · next other =>
    split
    · next k found => exact absurd (own.mpr found) (other k)
    · rfl

theorem leftMissed {calls : List (NodeId × NodeId)} (strangers : ∀ e ∈ calls, ¬ StandsForParents m e.2) :
    (((providers m c method).filter (isUnmet (calls.map fun e => (e.1,receiver m e.2)))).filter isExpected).map
      (fun p => Note.at notCalled i [method,m.className p.source]) = missed m c method i calls := by
  rw [List.filter_filter,providers,List.filter_filterMap,List.map_filterMap,missed]
  refine List.filterMap_congr fun b _ => ?_
  cases found : m.provider? b method with
  | none => rfl
  | some source =>
    have unmet : isUnmet (calls.map fun e => (e.1,receiver m e.2)) ⟨b,source⟩ = true ↔
        ¬ ∃ e ∈ calls, m.infer e.2 = some (.classObject b) := by
      simp only [isUnmet,List.all_map,List.all_eq_true,Function.comp,bne_iff_ne,not_exists,not_and]
      exact forall₂_congr fun e mem => not_congr (receiverClass (strangers e mem))
    have leftOut :
        (isExpected ⟨b,source⟩ && isUnmet (calls.map fun e => (e.1,receiver m e.2)) ⟨b,source⟩) = true ↔
          ¬ (b = .object ∨ source = .object ∨ ∃ e ∈ calls, m.infer e.2 = some (.classObject b)) := by
      rw [Bool.and_eq_true,unmet,not_or,not_or,← and_assoc]
      simp [isExpected,ClassId.isObject]
    simp only [Option.map_some,Option.filter,Option.bind_some,leftOut,ite_not]
    exact apply_ite (Option.map _) _ _ _

theorem notesOnMethodSpec (distinct : (m.bases c).Nodup) :
    notesOnMethod m c method i = told m c method i := by
  have whole : notesOnMethod m c method i =
      ((follow (providers m c method) (providers m c method) (callsOf m method i)).1.map fun e =>
        Note.at calledElsewhere e.1 [method,m.className e.2]) ++
      ((((follow (providers m c method) (providers m c method) (callsOf m method i)).2.getD []).filter
        isExpected).map fun p => Note.at notCalled i [method,m.className p.source]) := rfl
  have parents : ((methodCalls m.tree method i).map fun e => (e.1,receiver m e.2)).any (fun e => e.2 == .parent) =
      decide (∃ e ∈ methodCalls m.tree method i, StandsForParents m e.2) := by
    rw [Bool.eq_iff_iff]
    simp [receiverParent]
  have before : (fun e : NodeId × Receiver => e.2 != .parent) ∘
      (fun e : NodeId × NodeId => (e.1,receiver m e.2)) = fun e => decide (¬ StandsForParents m e.2) := by
    funext e
    rw [Bool.eq_iff_iff]
    simp [receiverParent]
  rw [whole,followStrangers fun p mem => mem,followLeft (providerBases distinct),callsByReceiver,List.takeWhile_map,
    before,parents,strangersElsewhere fun e mem =>
      of_decide_eq_true (List.all_eq_true.mp List.all_takeWhile e mem)]
  refine congrArg (elsewhere m c method _ ++ ·) ?_
  by_cases parental : ∃ e ∈ methodCalls m.tree method i, StandsForParents m e.2
  · rw [if_pos parental,if_pos (decide_eq_true parental)]
    rfl
  · rw [if_neg parental,if_neg (by simpa using parental),Option.getD_some,leftMissed]
    exact fun e mem stands => parental ⟨e,mem,stands⟩

theorem ofChecker {text : List Char} (parsed : Tree.parse text = .ok f.tree) : (checker methods).notes f =
    (f.tree.ids.filter fun i => f.tree.kind i == .functionDef).flatMap (notes methods f) :=
  Checker.notesOfKind _ _ _ _ (by decide) parsed

theorem ownMessages {P : Note → Prop} (first : ∀ place args, P (.at notCalled place args))
    (second : ∀ place args, P (.at calledElsewhere place args)) : ∀ n ∈ notes methods f i, P n := by
  unfold notes
  split
  · split
    · exact List.forall_mem_append.mpr
        ⟨List.forall_mem_map.mpr fun _ _ => second _ _,List.forall_mem_map.mpr fun _ _ => first _ _⟩
    · exact nofun
  · exact nofun

theorem ofMethod {k : NodeId} (function : f.tree.kind i = .functionDef) (inside : f.tree.parent? i = some k)
    (isClass : f.tree.kind k = .classDef) (name : f.tree.name? i = some method) (among : method ∈ methods) :
    notes methods f i = notesOnMethod f.model (.declared k) method i := by
  have isMethod : f.tree.isMethod i = true := by simp [Tree.isMethod,function,inside,isClass]
  simp only [notes,name,inside,isMethod,List.contains_iff_mem.mpr among,Bool.and_self,if_true]

/-- All that the rule says, function by function, and what it says of a method. -/
theorem parentCallsExact {text : List Char} {config : Config} (methods : List String)
    (parsed : Tree.parse text = .ok f.tree)
    (first : config.isMessageEnabled notCalled.symbol notCalled.code = true)
    (second : config.isMessageEnabled calledElsewhere.symbol calledElsewhere.code = true) :
    ((checker methods).notes f).filter (Check.isLet config) =
      (f.tree.ids.filter fun i => f.tree.kind i == .functionDef).flatMap (notes methods f) ∧
    ∀ i k method, f.tree.kind i = .functionDef → f.tree.parent? i = some k → f.tree.kind k = .classDef →
      f.tree.name? i = some method → method ∈ methods → (f.model.bases (.declared k)).Nodup →
      notes methods f i = told f.model (.declared k) method i := by
  constructor
  · rw [← ofChecker parsed,List.filter_eq_self]
    exact Check.statelessNotes fun i => ownMessages (fun _ _ => first) fun _ _ => second
  · intro i k method function inside isClass name among distinct
    rw [ofMethod function inside isClass name among]
    exact notesOnMethodSpec distinct

theorem oneBaseMissed :
    let text := ("class A:\n    def setUp(self): pass\nclass B:\n    def setUp(self): pass\n" ++
      "class C:\n    def setUp(self): pass\nclass D(A, B):\n    def setUp(self):\n" ++
      "        A.setUp(self)\n        C.setUp(self)\n").toList
    ∃ t, Tree.parse text = .ok t ∧ t.kind 13 = .functionDef ∧ t.parent? 13 = some 10 ∧
      t.kind 10 = .classDef ∧ t.name? 13 = some "setUp" ∧ ((Model.ofTree t).bases (.declared 10)).Nodup ∧
      Config.default.isMessageEnabled notCalled.symbol notCalled.code = true ∧
      Config.default.isMessageEnabled calledElsewhere.symbol calledElsewhere.code = true ∧
      .at calledElsewhere 19 ["setUp","C"] ∈
        ((checker ["setUp"]).notes (.ofTree (.ofString "a.py") (.ofString "") t)).filter (Check.isLet .default) ∧
      notes ["setUp"] (.ofTree (.ofString "a.py") (.ofString "") t) 13 =
        [.at calledElsewhere 19 ["setUp","C"],.at notCalled 13 ["setUp","B"]] := by
  intro text
  obtain ⟨t,parsed,read⟩ := Tree.okOfMap (x := Tree.parse text) (b := true) (f := fun t => decide
    (t.kind 13 = .functionDef ∧ t.parent? 13 = some 10 ∧ t.kind 10 = .classDef ∧ t.name? 13 = some "setUp" ∧
      13 ∈ t.ids ∧ ((Model.ofTree t).bases (.declared 10)).Nodup ∧
      told (.ofTree t) (.declared 10) "setUp" 13 =
        [.at calledElsewhere 19 ["setUp","C"],.at notCalled 13 ["setUp","B"]])) (by decide +kernel)
  obtain ⟨function,inside,isClass,name,listed,distinct,ownNotes⟩ := of_decide_eq_true read
  have first : Config.default.isMessageEnabled notCalled.symbol notCalled.code = true := by decide
  have second : Config.default.isMessageEnabled calledElsewhere.symbol calledElsewhere.code = true := by decide
  obtain ⟨whole,each⟩ := parentCallsExact ["setUp"]
    (f := .ofTree (.ofString "a.py") (.ofString "") t) parsed first second
  have one := (each 13 10 "setUp" function inside isClass name (.head _) distinct).trans ownNotes
  refine ⟨t,parsed,function,inside,isClass,name,distinct,first,second,?_,one⟩
  rw [whole]
  refine List.mem_flatMap.mpr ⟨13,List.mem_filter.mpr ⟨listed,beq_iff_eq.mpr function⟩,?_⟩
  rw [one]
  exact .head _

end Notes

end Rule.ParentCall

end ConventionLint
