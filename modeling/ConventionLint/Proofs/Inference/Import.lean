import Mathlib.Data.List.Infix
import Mathlib.Data.List.TakeWhile
import ConventionLint.Proofs.Inference.Scope

/-! What an imported name stands for. All forms of absolute imports make a name stand for a dotted path,
and every attribute that is asked of it adds a part to the path until the path leads to a well-known class.
So it does not matter where a path is cut into what is imported and what is asked for, nor where in the
module this is asked. -/
namespace ConventionLint.Inference
open ConventionLint.Tree

def dotted (parts : List String) : String := ".".intercalate parts

theorem dottedOne (x : String) : dotted [x] = x := String.intercalate_singleton

theorem dottedCons (x y : String) (parts : List String) :
    dotted (x :: y :: parts) = x ++ "." ++ dotted (y :: parts) := String.intercalate_cons_cons

theorem dottedMore {parts : List String} (nonempty : parts ≠ []) (x : String) :
    dotted (parts ++ [x]) = dotted parts ++ "." ++ x := by
  induction parts with
  | nil => exact absurd rfl nonempty
  | cons y parts ih =>
    cases parts with
    | nil => simp [dotted,String.intercalate_cons_cons]
    | cons z parts =>
      have rest := ih (List.cons_ne_nil z parts)
      simp only [List.cons_append] at rest ⊢
      rw [dottedCons,rest,dottedCons]
      simp only [String.append_assoc]

theorem headOfDotted {h : String} (plain : '.' ∉ h.toList) (parts : List String) :
    Binding.headOf (dotted (h :: parts)) = h := by
  have kept : ∀ c ∈ h.toList, decide (c ≠ '.') = true :=
    fun c mem => decide_eq_true fun same => plain (by rwa [← same])
  unfold Binding.headOf
  cases parts with
  | nil => rw [dotted,String.intercalate_singleton,List.takeWhile_eq_self_iff.mpr kept,String.ofList_toList]
  | cons x parts =>
    rw [dottedCons,String.toList_append,String.toList_append,List.append_assoc,
      List.takeWhile_append_of_pos kept]
    simp

namespace WellKnown

def Leads (path : String) (k : WellKnown) : Prop := k.path = path ∨ k.otherPath? = some path

instance (path : String) (k : WellKnown) : Decidable (Leads path k) :=
  inferInstanceAs (Decidable (_ ∨ _))

theorem leadsOnce {path : String} {k k' : WellKnown} (leads : Leads path k) (leads' : Leads path k') :
    k = k' := by
  have distinct : ∀ k ∈ all, ∀ k' ∈ all, Leads k.path k' ∨ (k.otherPath?.any fun p => Leads p k') → k = k' := by
    decide +kernel
  refine distinct k (mem_all k) k' (mem_all k') ?_
  rcases leads with rfl | other
  · exact .inl leads'
  · exact .inr (by simp [other,leads'])

theorem leadsFound {path : String} {k : WellKnown} (found : ofPath? path = some k) : Leads path k := by
  simpa [Leads] using List.find?_some found

theorem ofPathLeads {path : String} {k : WellKnown} (leads : Leads path k) : ofPath? path = some k := by
  cases found : ofPath? path with
  | none =>
    have missing := List.find?_eq_none.mp found k (mem_all k)
    exact absurd leads (by simpa [Leads] using missing)
  | some k' => rw [leadsOnce (leadsFound found) leads]

end WellKnown

theorem ofPathOther {path : String} (noClass : ∀ k, ¬WellKnown.Leads path k) :
    Value.ofPath path = .module path := by
  unfold Value.ofPath
  cases found : WellKnown.ofPath? path with
  | none => rfl
  | some k => exact absurd (WellKnown.leadsFound found) (noClass k)

namespace Model
variable {t : Tree} {i u e : NodeId} {a : String} {p xs : List String} {b : Binding}

inductive Supplies (t : Tree) (i : NodeId) : String → List String → Prop where
  | head {names : List ImportName} {h : String} {rest : List String} (is : t.payload i = .imports names)
      (listed : ⟨dotted (h :: rest),none⟩ ∈ names) (plain : '.' ∉ h.toList) : Supplies t i h [h]
  | path {names : List ImportName} {a : String} {p : List String} (is : t.payload i = .imports names)
      (listed : ⟨dotted p,some a⟩ ∈ names) (nonempty : p ≠ []) : Supplies t i a p
  | member {names : List ImportName} {x : String} {new : Option String} {p : List String}
      (is : t.payload i = .importFrom (dotted p) 0 names) (listed : ⟨x,new⟩ ∈ names) (nonempty : p ≠ [])
      (named : x ≠ "*") : Supplies t i (new.getD x) (p ++ [x])

theorem suppliesSome (supplies : Supplies t i a p) : p ≠ [] := by
  cases supplies with
  | head => exact List.cons_ne_nil _ _
  | path _ _ nonempty => exact nonempty
  | member => exact List.append_ne_nil_of_right_ne_nil _ (List.cons_ne_nil _ _)

theorem suppliesMade (supplies : Supplies t i a p) :
    ⟨t.frame i,a,t.line i,i,.path (dotted p)⟩ ∈ Binding.ofNode t i := by
  unfold Binding.ofNode
  cases supplies with
  | head is listed plain =>
    rw [is]
    refine List.mem_map.mpr ⟨_,listed,?_⟩
    rw [Binding.ofImport,headOfDotted plain,dottedOne]
  | path is listed =>
    rw [is]
    exact List.mem_map.mpr ⟨_,listed,rfl⟩
  | member is listed nonempty named =>
    rw [is]
    refine List.mem_filterMap.mpr ⟨_,listed,?_⟩
    rw [Binding.ofImportFrom,if_neg (by simpa using named),dottedMore nonempty]
    rfl

theorem suppliesOnly (supplies : Supplies t i a p) (level : t.frame i = root)
    (once : ((ofTree t).bindingsIn root a).length = 1) :
    ∃ b, (ofTree t).bindingsIn root a = [b] ∧ b.origin = .path (dotted p) := by
  have made := suppliesMade supplies
  obtain ⟨b,only⟩ := List.length_eq_one_iff.mp once
  have inside := List.mem_range.mpr (Binding.insideOfBinding made)
  have mem : ⟨t.frame i,a,t.line i,i,.path (dotted p)⟩ ∈ (ofTree t).bindingsIn root a :=
    List.mem_filter.mpr ⟨List.mem_flatMap.mpr ⟨i,inside,made⟩,by simp [level]⟩
  refine ⟨b,only,?_⟩
  rw [only] at mem
  rw [← List.mem_singleton.mp mem]

theorem nearestOnly (m : Model) (u : NodeId) (b : Binding) : m.nearest? u [b] = some b := by
  obtain ⟨c,found⟩ := nearestSome (m := m) (u := u) (List.cons_ne_nil b [])
  rw [found,List.mem_singleton.mp (nearestMem found)]

theorem findSomeOnly {fs : List NodeId} {g : NodeId → Option Binding} {f : NodeId} (mem : f ∈ fs)
    (here : g f = some b) (others : ∀ h ∈ fs, h ≠ f → g h = none) : fs.findSome? g = some b := by
  cases found : fs.findSome? g with
  | none => exact absurd (List.findSome?_eq_none_iff.mp found f mem) (by simp [here])
  | some c =>
    obtain ⟨h,listed,first⟩ := List.exists_of_findSome?_eq_some found
    by_cases same : h = f
    · rw [← first,same,here]
    · cases (others h listed same).symm.trans first

theorem lookupModule (around : root ∈ frames t u) (isModule : t.kind root = .module)
    (only : (ofTree t).bindingsIn root a = [b])
    (free : ∀ f ∈ frames t u, f ≠ root → (ofTree t).bindingsIn f a = []) :
    (ofTree t).lookup? u a = some b := by
  obtain ⟨outer,whole⟩ := framesHead t u
  rw [whole] at around free
  unfold lookup?
  simp only [treeOfTree,whole]
  by_cases inner : t.frame u = root
  · rw [inner,only,nearestOnly]
  · rw [free _ List.mem_cons_self inner,nearestNone.mpr rfl]
    refine findSomeOnly (f := root) (List.mem_filter.mpr ⟨?_,by rw [isModule]; rfl⟩) (by rw [only]; rfl) ?_
    · exact (List.mem_cons.mp around).resolve_left fun same => inner same.symm
    · intro f mem other
      rw [free f (List.mem_cons_of_mem _ (List.mem_filter.mp mem).1) other]
      rfl

inductive Spells (t : Tree) (u : NodeId) (a : String) : NodeId → List String → Prop where
  | name (is : t.payload u = .name a) : Spells t u a u []
  | access {e o : NodeId} {x : String} {xs : List String} (is : t.payload e = .attribute x o)
      (inner : Spells t u a o xs) : Spells t u a e (xs ++ [x])

theorem spellsName (spells : Spells t u a e xs) : t.payload u = .name a := by
  induction spells with
  | name is => exact is
  | access _ _ ih => exact ih

theorem spelledPath {n : Nat} (spells : Spells t u a e xs) (nonempty : p ≠ [])
    (bound : (ofTree t).lookup? u a = some b) (origin : b.origin = .path (dotted p)) (deep : xs.length < n)
    (fresh : ∀ r, r <+: p ++ xs → r ≠ p ++ xs → ∀ k, ¬WellKnown.Leads (dotted r) k) :
    (ofTree t).inferWithin n e = some (Value.ofPath (dotted (p ++ xs))) := by
  induction spells generalizing n with
  | name is =>
    obtain ⟨n,rfl⟩ : ∃ m, n = m + 1 := ⟨n - 1,by omega⟩
    rw [inferWithin,treeOfTree,is]
    simp only [bound,origin,List.append_nil]
  | @access e o x xs is inner ih =>
    obtain ⟨n,rfl⟩ : ∃ m, n = m + 1 := ⟨n - 1,by omega⟩
    rw [List.length_append,List.length_singleton] at deep
    rw [← List.append_assoc] at fresh ⊢
    have proper (r : List String) (before : r <+: p ++ xs) : r ≠ p ++ xs ++ [x] := by
      rintro rfl
      have short := before.length_le
      simp only [List.length_append,List.length_singleton] at short
      omega
    -- a class would answer with its own attributes, so what has been spelled must still be a module
    have evaluated := ih (n := n) (by omega) fun r before _ =>
      fresh r (before.trans (List.prefix_append _ _)) (proper r before)
    rw [ofPathOther (fresh _ (List.prefix_append _ _) (proper _ (List.prefix_refl _)))] at evaluated
    rw [inferWithin,treeOfTree,is]
    simp only [evaluated]
    rw [dottedMore (List.append_ne_nil_of_left_ne_nil nonempty _)]

/-- A path that leads to no class before its end evaluates to the class at its end or to a module, however
it is cut into an import and attributes and wherever it is spelled. -/
theorem importedAlike {text : List Char} (parsed : Tree.parse text = .ok t) (supplies : Supplies t i a p)
    (level : t.frame i = root) (once : ((ofTree t).bindingsIn root a).length = 1)
    (spells : Spells t u a e xs) (short : xs.length ≤ maxDepth)
    (free : ∀ f ∈ frames t u, f ≠ root → (ofTree t).bindingsIn f a = [])
    (fresh : ∀ r, r <+: p ++ xs → r ≠ p ++ xs → ∀ k, ¬WellKnown.Leads (dotted r) k) :
    (∀ k, WellKnown.Leads (dotted (p ++ xs)) k →
      (ofTree t).infer e = some (.classObject (.wellKnown k))) ∧
    ((∀ k, ¬WellKnown.Leads (dotted (p ++ xs)) k) →
      (ofTree t).infer e = some (.module (dotted (p ++ xs)))) := by
  obtain ⟨b,only,origin⟩ := suppliesOnly supplies level once
  obtain ⟨wired,isModule,_⟩ := parsedModule parsed
  obtain ⟨positive,inside⟩ := nameBelow parsed (spellsName spells)
  have bound := lookupModule (rootFrame wired isModule positive inside) isModule only free
  have value := spelledPath spells (suppliesSome supplies) bound origin (Nat.lt_succ_of_le short) fresh
  refine ⟨fun k leads => ?_,fun noClass => ?_⟩
  · rw [infer,value,Value.ofPath,WellKnown.ofPathLeads leads]
  · rw [infer,value,ofPathOther noClass]

def nestedUse : List Char := "from django import test as t\ndef f():\n    class C:\n        t.TestCase\n".toList

theorem importedAlikeNested : ∃ t, Tree.parse nestedUse = .ok t ∧
    (ofTree t).infer 4 = some (.classObject (.wellKnown .testCase)) := by
  obtain ⟨t,parsed,facts⟩ := okOfMap (x := Tree.parse nestedUse)
    (f := fun t => ((t.payload 1,t.payload 4,t.payload 5),t.frame 1,((ofTree t).bindingsIn root "t").length,
      (frames t 5).all fun f => f == root || (ofTree t).bindingsIn f "t" == []))
    (b := ((.importFrom (dotted ["django"]) 0 [⟨"test",some "t"⟩],.attribute "TestCase" 5,.name "t"),
      root,1,true)) (by decide +kernel)
  simp only [Prod.mk.injEq] at facts
  obtain ⟨⟨imports,access,name⟩,level,once,free⟩ := facts
  have fresh : ∀ r ∈ ["django","test","TestCase"].inits, r ≠ ["django","test","TestCase"] →
      ∀ k ∈ WellKnown.all, ¬WellKnown.Leads (dotted r) k := by decide +kernel
  have supplies := Supplies.member (p := ["django"]) imports List.mem_cons_self (List.cons_ne_nil _ _)
    (by decide)
  refine ⟨t,parsed,(importedAlike parsed supplies level once (.access access (.name name)) (by decide) ?_ ?_).1 _
    (by decide +kernel)⟩
  · intro f mem other
    simpa [other] using List.all_eq_true.mp free f mem
  · exact fun r before proper k => fresh r ((List.mem_inits _ _).mpr before) proper k (WellKnown.mem_all k)

end Model

end ConventionLint.Inference
