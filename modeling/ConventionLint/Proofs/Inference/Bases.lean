import ConventionLint.Proofs.Inference.Hierarchy
import ConventionLint.Proofs.Inference.Scope

/-! Which bindings decide on the bases of a class, and what further statements behind the class change
about them. The names in the header of a class are looked up as if they stood in its body. -/
namespace ConventionLint.Inference
open ConventionLint.Tree
open ConventionLint.Grammar (Concrete)

namespace Model

inductive Refers (m : Model) : NodeId → Binding → Prop where
  | name {i : NodeId} {id : String} {b : Binding} (is : m.tree.payload i = .name id)
      (found : m.lookup? i id = some b) : Refers m i b
  | value {i e : NodeId} {id : String} {b c : Binding} (is : m.tree.payload i = .name id)
      (found : m.lookup? i id = some b) (origin : b.origin = .value e) (next : Refers m e c) :
      Refers m i c
  | object {i o : NodeId} {a : String} {c : Binding} (is : m.tree.payload i = .attribute a o)
      (next : Refers m o c) : Refers m i c
  | callee {i f : NodeId} {as ks : List NodeId} {c : Binding} (is : m.tree.payload i = .call f as ks)
      (next : Refers m f c) : Refers m i c

section Refers
variable {t short long : Tree} {i : Nat} {b : Binding}

theorem lookupMem {m : Model} {id : String} (found : m.lookup? i id = some b) : b ∈ m.bindings := by
  have inside {f : NodeId} (mem : b ∈ m.bindingsIn f id) : b ∈ m.bindings := (List.mem_filter.mp mem).1
  unfold lookup? at found
  split at found
  · cases found
  · split at found
    · cases found
      exact inside (nearestMem ‹_›)
    · obtain ⟨f,_,last⟩ := List.exists_of_findSome?_eq_some found
      exact inside (List.mem_of_getLast? last)

theorem refersMem {m : Model} (refers : m.Refers i b) : b ∈ m.bindings := by
  induction refers with
  | name _ found => exact lookupMem found
  | value _ _ _ _ ih => exact ih
  | object _ _ ih => exact ih
  | callee _ _ ih => exact ih

theorem valueChild (wired : t.Wired) {e : Nat} (mem : b ∈ (ofTree t).bindings)
    (origin : b.origin = .value e) : e ∈ t.children b.site := by
  obtain ⟨ts,is⟩ := (bindingMade mem).value e origin
  exact wired.refs b.site (by rw [is]; rfl) e (by rw [is]; simp [Payload.refs])

theorem inferExtends (h : Extends short long) (ws : short.Wired) (wl : long.Wired) {n : Nat}
    (positive : 0 < i) (inside : i < short.size)
    (early : ∀ b, (ofTree long).Refers i b → b.site < short.size) :
    (ofTree long).inferWithin n i = (ofTree short).inferWithin n i := by
  induction n generalizing i with
  | zero => rfl
  | succ n ih =>
    have same : long.payload i = short.payload i := by
      unfold Tree.payload
      rw [h.shared i positive inside]
    have below (r : Nat) (plain : (short.payload i).isCompare = false)
        (mem : r ∈ (short.payload i).refs) : 0 < r ∧ r < short.size := by
      obtain ⟨_,above,bound⟩ := ws.child i r (ws.refs i plain r mem)
      exact ⟨Nat.lt_trans positive above,bound⟩
    unfold inferWithin
    simp only [treeOfTree,same]
    split
    · rename_i id is
      have is' := same.trans is
      cases found : (ofTree long).lookup? i id with
      | none => rw [lookupNone h ws wl inside found]
      | some b =>
        have old := early b (.name is' found)
        have found' := lookupEarlier h ws wl positive inside found old
        rw [found']
        dsimp only
        split
        · rfl
        · rfl
        · rfl
        · rename_i e origin
          obtain ⟨_,above,bound⟩ := ws.child b.site e (valueChild ws (lookupMem found') origin)
          refine ih (by omega) bound fun c refers => ?_
          exact early c (.value is' found origin refers)
        · rfl
    · rename_i a o is
      obtain ⟨here,bound⟩ := below o (by rw [is]; rfl) (by rw [is]; simp [Payload.refs])
      rw [ih here bound fun c refers => early c (.object (same.trans is) refers)]
    · rename_i f as ks is
      obtain ⟨here,bound⟩ := below f (by rw [is]; rfl) (by rw [is]; simp [Payload.refs])
      rw [ih here bound fun c refers => early c (.callee (same.trans is) refers)]
    · rfl
    · rfl
    · rfl
    · rfl

theorem inferDeclared {m : Model} {n c : Nat}
    (found : m.inferWithin n i = some (.classObject (.declared c))) :
    c = i ∨ ∃ b, m.Refers i b ∧ (b.origin = .classDef c ∨ b.origin = .value c) := by
  induction n generalizing i with
  | zero => cases found
  | succ n ih =>
    unfold inferWithin at found
    split at found
    · rename_i id is
      split at found
      · unfold builtin? at found
        split at found <;> cases found
      · rename_i b lookup
        split at found
        · rename_i d origin
          cases found
          exact .inr ⟨b,.name is lookup,.inl origin⟩
        · cases found
        · rename_i p origin
          unfold Value.ofPath at found
          split at found <;> cases found
        · rename_i e origin
          rcases ih found with rfl | ⟨d,refers,last⟩
          · exact .inr ⟨b,.name is lookup,.inr origin⟩
          · exact .inr ⟨d,.value is lookup origin refers,last⟩
        · cases found
    · split at found
      · unfold Value.ofPath at found
        split at found <;> cases found
      · cases found
    · split at found <;> cases found
    · cases found
    · cases found
      exact .inl rfl
    · cases found
    · cases found

end Refers

def latestBefore (m : Model) (i : NodeId) (id : String) : Option Binding :=
  ((m.bindingsIn root id).filter fun b => b.line < m.tree.line i).getLast?

section Header
variable {t short long : Tree} {k e : Nat} {id : String} {b : Binding}

theorem baseChild (wired : t.Wired) (mem : e ∈ t.baseExprs k) : e ∈ t.children k := by
  unfold Tree.baseExprs at mem
  split at mem
  · rename_i name bs doc is
    exact wired.refs k (by rw [is]; rfl) e (by rw [is]; exact mem)
  · cases mem

theorem framesOfChild (wired : t.Wired) (isModule : t.kind root = .module) (top : t.parent? k = some root)
    (isClass : t.kind k = .classDef) (child : e ∈ t.children k) : frames t e = [k,root] := by
  obtain ⟨parent,above,bound⟩ := wired.child k e child
  have positive : 0 < k := parentSmaller wired top
  obtain ⟨n,size⟩ : ∃ n, t.size = n + 3 := ⟨t.size - 3,by omega⟩
  have up : t.ancestors e = [k,root] := by
    unfold Tree.ancestors
    simp only [size,Tree.ancestorsBounded,parent,top,wired.top]
  unfold frames
  rw [up]
  simp [Tree.isFrame,isModule,isClass]

theorem lookupHeader (id : String) (wired : t.Wired) (isModule : t.kind root = .module) (top : t.parent? k = some root)
    (isClass : t.kind k = .classDef) (mem : e ∈ t.baseExprs k) :
    (ofTree t).lookup? e id = ((ofTree t).nearest? e ((ofTree t).bindingsIn k id)).or
      ((ofTree t).bindingsIn root id).getLast? := by
  have around := framesOfChild wired isModule top isClass (baseChild wired mem)
  unfold lookup?
  simp only [treeOfTree,around]
  cases (ofTree t).nearest? e ((ofTree t).bindingsIn k id) with
  | some b => rfl
  | none => simp [isModule]

theorem latestBeforeIff {m : Model} (earlier : ∃ b ∈ m.bindingsIn root id, b.line < m.tree.line k) :
    (m.bindingsIn root id).getLast? = m.latestBefore k id ↔
      ∀ b, (m.bindingsIn root id).getLast? = some b → b.line < m.tree.line k := by
  obtain ⟨b,mem,before⟩ := earlier
  constructor
  · intro same c last
    rw [same] at last
    simpa using List.of_mem_filter (List.mem_of_getLast? last)
  · intro early
    unfold latestBefore
    obtain ⟨front,c,whole⟩ : ∃ front c, m.bindingsIn root id = front ++ [c] := by
      cases last : (m.bindingsIn root id).getLast? with
      | none =>
        rw [List.getLast?_eq_none_iff.mp last] at mem
        cases mem
      | some c =>
        obtain ⟨front,same⟩ := List.getLast?_eq_some_iff.mp last
        exact ⟨front,c,same⟩
    have here := early c (by rw [whole]; simp)
    rw [whole]
    simp [here]

theorem headerIff {m : Model} (positive : 0 < k) {found : Option Binding} :
    (m.nearest? e (m.bindingsIn k id)).or found = m.latestBefore k id ↔
      m.bindingsIn k id = [] ∧ found = m.latestBefore k id := by
  constructor
  · intro same
    cases own : m.nearest? e (m.bindingsIn k id) with
    | none =>
      rw [own,Option.none_or] at same
      exact ⟨nearestNone.mp own,same⟩
    | some b =>
      rw [own,Option.some_or] at same
      have inner := (List.mem_filter.mp (nearestMem own)).2
      have outer := (List.mem_filter.mp (List.mem_filter.mp (List.mem_of_getLast? same.symm)).1).2
      simp only [Bool.and_eq_true,beq_iff_eq] at inner outer
      have clash : k = root := inner.1.symm.trans outer.1
      exact absurd clash (Nat.ne_of_gt positive)
  · rintro ⟨unbound,same⟩
    rw [nearestNone.mpr unbound,Option.none_or,same]

end Header

theorem ofTextParsed {text : List Char} {program : Concrete} (ok : Grammar.parse text = .ok program) :
    ofText text = ofTree (ofOutline text (outline text program)) := by
  unfold ofText Tree.parse
  rw [ok]
  rfl

theorem baseInferred {m : Model} {k c : Nat} (mem : ClassId.declared c ∈ m.bases (.declared k)) :
    ∃ e ∈ m.tree.baseExprs k, ∃ n, m.inferWithin n e = some (.classObject (.declared c)) := by
  simp only [bases] at mem
  split at mem
  · simp [ClassId.object] at mem
  · obtain ⟨e,he,found⟩ := List.mem_filterMap.mp mem
    unfold inferClass? infer at found
    split at found
    · cases found
      exact ⟨e,he,_,‹_›⟩
    · cases found

theorem notOwnBase {t : Tree} {k : Nat} (wired : t.Wired) (isModule : ∃ d, t.payload root = .module d)
    (top : t.parent? k = some root)
    (other : ∀ e ∈ t.baseExprs k, ∀ b, (ofTree t).Refers e b → b.site ≠ k) :
    ClassId.declared k ∉ (ofTree t).bases (.declared k) := by
  intro mem
  obtain ⟨e,he,n,found⟩ := baseInferred mem
  rcases inferDeclared found with rfl | ⟨b,refers,origin | origin⟩
  · obtain ⟨_,above,_⟩ := wired.child _ _ (baseChild wired he)
    exact Nat.lt_irrefl _ above
  · have made := bindingMade (refersMem refers)
    exact other e he b refers (made.ownClass k origin).symm
  · have mem := refersMem refers
    obtain ⟨ts,is⟩ := (bindingMade mem).value k origin
    obtain ⟨parent,_,_⟩ := wired.child b.site k (valueChild wired mem origin)
    obtain ⟨d,here⟩ := isModule
    rw [top] at parent
    rw [← Option.some.inj parent,here] at is
    cases is

theorem ownBase {t : Tree} {k e : Nat} {id : String} {b : Binding} (mem : e ∈ t.baseExprs k)
    (is : t.payload e = .name id) (found : (ofTree t).lookup? e id = some b) (own : b.site = k) :
    ClassId.declared k ∈ (ofTree t).bases (.declared k) := by
  have origin : b.origin = .classDef k := by
    have made := (bindingSource (lookupMem found)).2
    rw [own] at made
    unfold Tree.baseExprs at mem
    split at mem
    · exact Binding.ofClass ‹_› made
    · cases mem
  have value : (ofTree t).inferClass? e = some (.declared k) := by
    unfold inferClass? infer inferWithin
    simp [is,found,origin]
  simp only [bases,treeOfTree]
  split
  · rename_i empty
    rw [empty] at mem
    cases mem
  · exact List.mem_filterMap.mpr ⟨e,mem,value⟩

theorem basesExtend {short long : Tree} {k : Nat} (h : Extends short long) (ws : short.Wired)
    (wl : long.Wired) (positive : 0 < k) (inside : k < short.size)
    (early : ∀ e ∈ short.baseExprs k, ∀ b, (ofTree long).Refers e b → b.site < short.size) :
    (ofTree long).bases (.declared k) = (ofTree short).bases (.declared k) := by
  have same : long.baseExprs k = short.baseExprs k := by
    unfold Tree.baseExprs Tree.payload
    rw [h.shared k positive inside]
  have each : ∀ e ∈ short.baseExprs k,
      (ofTree long).inferClass? e = (ofTree short).inferClass? e := by
    intro e mem
    obtain ⟨_,above,bound⟩ := ws.child k e (baseChild ws mem)
    unfold inferClass? infer
    rw [inferExtends h ws wl (Nat.lt_trans positive above) bound (early e mem)]
  simp only [bases,treeOfTree,same]
  split
  · rfl
  · exact List.filterMap_congr each

/-- A name in the header of a class refers to the latest binding before the class just when the body does
not bind it and no later statement binds it again. The class is no base of itself unless its header refers
to it, and further statements change none of its bases unless its header refers to them. -/
theorem headerUntilRebound {text more : List Char} {program longer : Concrete} {further : List Concrete}
    {k : Nat} (ok : Grammar.parse text = .ok program) (ok' : Grammar.parse (text ++ more) = .ok longer)
    (continued : longer.children = program.children ++ further)
    (last : ((ofText text).tree.children root).getLast? = some k)
    (isClass : (ofText text).tree.kind k = .classDef)
    (bound : ∀ e ∈ (ofText text).tree.baseExprs k, ∃ id, (ofText text).tree.payload e = .name id ∧
      ∃ b ∈ (ofText text).bindingsIn root id, b.line < (ofText text).tree.line k) :
    (∀ e ∈ (ofText text).tree.baseExprs k, ∀ id, (ofText text).tree.payload e = .name id →
      (ofText (text ++ more)).lookup? e id =
        ((ofText (text ++ more)).nearest? e ((ofText (text ++ more)).bindingsIn k id)).or
          ((ofText (text ++ more)).bindingsIn root id).getLast? ∧
      ((ofText (text ++ more)).lookup? e id = (ofText (text ++ more)).latestBefore k id ↔
        (ofText (text ++ more)).bindingsIn k id = [] ∧
        ∀ b, ((ofText (text ++ more)).bindingsIn root id).getLast? = some b →
          b.line < (ofText text).tree.line k) ∧
      ∀ b, (ofText (text ++ more)).lookup? e id = some b → b.site = k →
        ClassId.declared k ∈ (ofText (text ++ more)).bases (.declared k)) ∧
    ((∀ e ∈ (ofText text).tree.baseExprs k, ∀ b, (ofText (text ++ more)).Refers e b → b.site ≠ k) →
      ClassId.declared k ∉ (ofText (text ++ more)).bases (.declared k)) ∧
    ((∀ e ∈ (ofText text).tree.baseExprs k, ∀ b, (ofText (text ++ more)).Refers e b →
        b ∈ (ofText text).bindings) →
      (ofText (text ++ more)).bases (.declared k) = (ofText text).bases (.declared k)) := by
  have extended := extendsOfContinued more ok continued
  have ws := wiredOfOutline text (soundOutline text program)
  have wl := wiredOfOutline (text ++ more) (soundOutline (text ++ more) longer)
  rw [ofTextParsed ok] at last isClass bound ⊢
  rw [ofTextParsed ok']
  generalize ofOutline text (outline text program) = short at *
  generalize ofOutline (text ++ more) (outline (text ++ more) longer) = long at *
  simp only [treeOfTree] at last isClass bound ⊢
  obtain ⟨top,positive,inside⟩ := ws.child root k (List.mem_of_getLast? last)
  have node := extended.shared k positive inside
  have top' : long.parent? k = some root := by rw [extended.parent ws wl inside,top]
  have isClass' : long.kind k = .classDef := by rw [extended.kind inside,isClass]
  have line : long.line k = short.line k := by
    unfold Tree.line Tree.span
    rw [node]
  have exprs : long.baseExprs k = short.baseExprs k := by
    unfold Tree.baseExprs Tree.payload
    rw [node]
  obtain ⟨extra,same,_⟩ := bindingsExtend extended ws wl
  refine ⟨fun e mem id is => ?_,fun other => ?_,fun early => ?_⟩
  · have mem' : e ∈ long.baseExprs k := by rw [exprs]; exact mem
    have found := lookupHeader id wl extended.longRoot.1 top' isClass' mem'
    refine ⟨found,?_,fun b refers own => ?_⟩
    · obtain ⟨id',is',b,here,before⟩ := bound e mem
      cases Payload.name.inj (is.symm.trans is')
      have there : b ∈ (ofTree long).bindingsIn root id := by
        rw [bindingsInExtend same]
        exact List.mem_append_left _ here
      have whole := latestBeforeIff (m := ofTree long) (k := k)
        ⟨b,there,by rw [treeOfTree,line]; exact before⟩
      rw [treeOfTree,line] at whole
      rw [found,headerIff positive,whole]
    · have is' : long.payload e = .name id := by
        obtain ⟨_,above,below⟩ := ws.child k e (baseChild ws mem)
        unfold Tree.payload at is ⊢
        rw [extended.shared e (Nat.lt_trans positive above) below,is]
      exact ownBase mem' is' refers own
  · exact notOwnBase wl extended.longRoot.2 top' fun e mem => other e (by rw [← exprs]; exact mem)
  · exact basesExtend extended ws wl positive inside fun e mem b refers =>
      (bindingSource (early e mem b refers)).1

theorem refersByName {m : Model} {i : NodeId} {id : String} {b c : Binding}
    (is : m.tree.payload i = .name id) (found : m.lookup? i id = some b) (refers : m.Refers i c) :
    c = b ∨ ∃ e, b.origin = .value e ∧ m.Refers e c := by
  cases refers with
  | name is' found' =>
    cases Payload.name.inj (is.symm.trans is')
    exact .inl (Option.some.inj (found'.symm.trans found))
  | value is' found' origin next =>
    cases Payload.name.inj (is.symm.trans is')
    cases Option.some.inj (found'.symm.trans found)
    exact .inr ⟨_,origin,next⟩
  | object is' _ => cases is.symm.trans is'
  | callee is' _ => cases is.symm.trans is'

def programOf (text : List Char) : Concrete :=
  (Grammar.parse text).toOption.getD (.node .module none ⟨.initial,.initial⟩ [])

def aliased : List Char := "class A: pass\nB = A\nclass K(B): pass\n".toList

def rebinding : List Char := "A = 1\n".toList

theorem aliasUntilRebound :
    Grammar.parse aliased = .ok (programOf aliased) ∧
    Grammar.parse (aliased ++ rebinding) = .ok (programOf (aliased ++ rebinding)) ∧
    (programOf (aliased ++ rebinding)).children =
      (programOf aliased).children ++ (programOf (aliased ++ rebinding)).children.drop 3 ∧
    ((ofText aliased).tree.children root).getLast? = some 6 ∧
    (ofText aliased).tree.kind 6 = .classDef ∧ (ofText aliased).tree.baseExprs 6 = [7] ∧
    (ofText (aliased ++ rebinding)).lookup? 7 "B" =
      (ofText (aliased ++ rebinding)).latestBefore 6 "B" ∧
    ClassId.declared 6 ∉ (ofText (aliased ++ rebinding)).bases (.declared 6) ∧
    (ofText (aliased ++ rebinding)).bases (.declared 6) = [.declared 1] := by
  obtain ⟨ok,ok',continued,last,isClass,exprs,is⟩ :
      Grammar.parse aliased = .ok (programOf aliased) ∧
      Grammar.parse (aliased ++ rebinding) = .ok (programOf (aliased ++ rebinding)) ∧
      (programOf (aliased ++ rebinding)).children =
        (programOf aliased).children ++ (programOf (aliased ++ rebinding)).children.drop 3 ∧
      ((ofText aliased).tree.children root).getLast? = some 6 ∧
      (ofText aliased).tree.kind 6 = .classDef ∧ (ofText aliased).tree.baseExprs 6 = [7] ∧
      (ofText aliased).tree.payload 7 = .name "B" := by decide +kernel
  obtain ⟨made,madeFirst,line,sameBases⟩ :
      ⟨0,"B",2,3,.value 5⟩ ∈ (ofText aliased).bindingsIn root "B" ∧
      ⟨0,"A",1,1,.classDef 1⟩ ∈ (ofText aliased).bindings ∧
      (ofText aliased).tree.line 6 = 3 ∧
      (ofText aliased).bases (.declared 6) = [.declared 1] := by decide +kernel
  obtain ⟨header,given,inner,meant,own,atEnd⟩ :
      (ofText (aliased ++ rebinding)).tree.payload 7 = .name "B" ∧
      (ofText (aliased ++ rebinding)).lookup? 7 "B" = some ⟨0,"B",2,3,.value 5⟩ ∧
      (ofText (aliased ++ rebinding)).tree.payload 5 = .name "A" ∧
      (ofText (aliased ++ rebinding)).lookup? 5 "A" = some ⟨0,"A",1,1,.classDef 1⟩ ∧
      (ofText (aliased ++ rebinding)).bindingsIn 6 "B" = [] ∧
      ((ofText (aliased ++ rebinding)).bindingsIn root "B").getLast? = some ⟨0,"B",2,3,.value 5⟩ := by
    decide +kernel
  have bound : ∀ e ∈ (ofText aliased).tree.baseExprs 6, ∃ id,
      (ofText aliased).tree.payload e = .name id ∧
        ∃ b ∈ (ofText aliased).bindingsIn root id, b.line < (ofText aliased).tree.line 6 := by
    intro e mem
    rw [exprs] at mem
    cases List.mem_singleton.mp mem
    exact ⟨"B",is,_,made,by rw [line]; decide⟩
  have early : ∀ e ∈ (ofText aliased).tree.baseExprs 6, ∀ b,
      (ofText (aliased ++ rebinding)).Refers e b → b ∈ (ofText aliased).bindings ∧ b.site ≠ 6 := by
    intro e mem b refers
    rw [exprs] at mem
    cases List.mem_singleton.mp mem
    rcases refersByName header given refers with rfl | ⟨e,origin,refers⟩
    · exact ⟨(List.mem_filter.mp made).1,by decide⟩
    · cases origin
      rcases refersByName inner meant refers with rfl | ⟨e,origin,_⟩
      · exact ⟨madeFirst,by decide⟩
      · cases origin
  have whole := headerUntilRebound ok ok' continued last isClass bound
  have latest := (whole.1 7 (by rw [exprs]; exact List.mem_singleton_self 7) "B" is).2.1.mpr
    ⟨own,fun b same => by rw [atEnd] at same; cases same; rw [line]; decide⟩
  have other := whole.2.1 fun e mem b refers => (early e mem b refers).2
  have kept := whole.2.2 fun e mem b refers => (early e mem b refers).1
  exact ⟨ok,ok',continued,last,isClass,exprs,latest,other,kept.trans sameBases⟩

end Model

end ConventionLint.Inference
