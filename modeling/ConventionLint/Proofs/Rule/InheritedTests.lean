import ConventionLint.Proofs.Check.Runs
import ConventionLint.Proofs.Tree.Order
import ConventionLint.Rule.InheritedTests

/-! Classes that opt out of being tests. What counts is the first statement in the body of a class that names
`__test__` as a target, be it an annotation without a value. A class whose last assignment makes it false is
therefore left out if the first statement does so as well, and is a test class as if it had said nothing if not. -/
namespace ConventionLint.Rule.InheritedTests
open ConventionLint.Check
open ConventionLint.Inference (ClassId Model)
open ConventionLint.Tree (NodeId)

variable {f : File} {t : Tree} {i k d : NodeId} {a : ClassId} {given : List String} {text : List Char}

structure InheritsFrom (m : Model) (i : NodeId) (a : ClassId) : Prop where
  own : isTestClass m (.declared i) = true
  test : isTestClass m a = true
  tests : hasTests m a = true
  nearest : ∃ nearer further, m.ancestorsOf (.declared i) = nearer ++ a :: further ∧
    ∀ b ∈ nearer, isTestClass m b = true → hasTests m b = false

theorem sourceIff {m : Model} : source? m (.declared i) = some a ↔ InheritsFrom m i a := by
  unfold source?
  constructor
  · intro found
    split at found
    · next own =>
      obtain ⟨both,nearer,further,order,others⟩ := List.find?_eq_some_iff_append.mp found
      obtain ⟨test,tests⟩ := (Bool.and_eq_true ..).mp both
      refine ⟨own,test,tests,nearer,further,order,fun b mem isTest => ?_⟩
      simpa [isTest] using others b mem
    · cases found
  · rintro ⟨own,test,tests,nearer,further,order,others⟩
    rw [if_pos own]
    refine List.find?_eq_some_iff_append.mpr ⟨by simp [test,tests],nearer,further,order,fun b mem => ?_⟩
    cases isTest : isTestClass m b with
    | false => rfl
    | true => simp [others b mem isTest]

theorem inheritanceTold (parsed : Tree.parse text = .ok f.tree) :
    .at inheritsTests i given ∈ checker.notes f ↔ i ∈ f.tree.ids ∧ f.tree.kind i = .classDef ∧
      ∃ a, InheritsFrom f.model i a ∧ given = [f.model.className (.declared i),f.model.className a] := by
  have told : checker.notes f = (f.tree.ids.filter fun i => f.tree.kind i == .classDef).flatMap (notes f) :=
    Checker.notesOfKind _ _ _ notes rfl parsed
  rw [told,List.mem_flatMap]
  constructor
  · rintro ⟨j,kept,noted⟩
    obtain ⟨a,found,same⟩ := Option.map_eq_some_iff.mp (Option.mem_toList.mp noted)
    cases same
    obtain ⟨listed,isClass⟩ := List.mem_filter.mp kept
    exact ⟨listed,beq_iff_eq.mp isClass,a,sourceIff.mp found,rfl⟩
  · rintro ⟨listed,isClass,a,inherits,rfl⟩
    refine ⟨i,List.mem_filter.mpr ⟨listed,beq_iff_eq.mpr isClass⟩,?_⟩
    exact Option.mem_toList.mpr (Option.map_eq_some_iff.mpr ⟨a,sourceIff.mpr inherits,rfl⟩)

def settings (t : Tree) (k : NodeId) : List NodeId :=
  (t.children k).filter fun d => t.kind d == .assign && (t.targets d).any fun x => t.name? x == some "__test__"

def AssignsFalse (t : Tree) (d : NodeId) : Prop :=
  ∃ v l, t.value? d = some v ∧ t.literal? v = some l ∧ l.truthy = false

/-- The last statement that gives the attribute a value, and does not just annotate it, makes it false. -/
def OptsOut (t : Tree) (k : NodeId) : Prop :=
  ∃ d, ((settings t k).filter fun d => (t.value? d).isSome).getLast? = some d ∧ AssignsFalse t d

theorem localLiteralFirst (m : Model) :
    m.localLiteral? (.declared k) "__test__" =
      (settings m.tree k).head? >>= fun d => m.tree.value? d >>= m.tree.literal? := by
  rw [settings,List.head?_filter]
  rfl

theorem testClassIff {m : Model} (first : (settings m.tree k).head? = some d) :
    isTestClass m (.declared k) = true ↔
      m.isSubtypeOf (.declared k) "unittest.case.TestCase" = true ∧ ¬AssignsFalse m.tree d := by
  have decides : ((m.localLiteral? (.declared k) "__test__").map Tree.Literal.truthy).getD true = true ↔
      ¬AssignsFalse m.tree d := by
    rw [localLiteralFirst,first]
    cases value : m.tree.value? d with
    | none => simp [AssignsFalse,value]
    | some v => cases constant : m.tree.literal? v <;> simp [AssignsFalse,value,constant]
  rw [isTestClass,Bool.and_eq_true,decides]

theorem firstOfOptsOut (out : OptsOut t k) : ∃ first, (settings t k).head? = some first := by
  obtain ⟨d,last,_⟩ := out
  obtain ⟨mem,_⟩ := List.mem_filter.mp (List.mem_of_getLast? last)
  obtain ⟨first,others,listed⟩ := List.exists_cons_of_ne_nil (List.ne_nil_of_mem mem)
  exact ⟨first,by rw [listed]; rfl⟩

/-- A class opts out with its last assignment of the attribute. If the first statement that names it assigns
something false as well, neither the class nor any other is told about on account of the class. If it does not,
the class is a test class like any other, and those with it for their next ancestor are told about. -/
theorem optingOutHeeded (parsed : Tree.parse text = .ok f.tree) (out : OptsOut f.tree k) :
    (∀ i given, .at inheritsTests i given ∈ checker.notes f ↔ i ∈ f.tree.ids ∧ f.tree.kind i = .classDef ∧
      ∃ a, InheritsFrom f.model i a ∧ given = [f.model.className (.declared i),f.model.className a]) ∧
    ∃ first, (settings f.tree k).head? = some first ∧
      (AssignsFalse f.tree first → ∀ i a, InheritsFrom f.model i a → i ≠ k ∧ a ≠ .declared k) ∧
      (¬AssignsFalse f.tree first →
        isTestClass f.model (.declared k) = f.model.isSubtypeOf (.declared k) "unittest.case.TestCase" ∧
        ∀ i further, isTestClass f.model (.declared i) = true →
          f.model.ancestorsOf (.declared i) = .declared k :: further →
          f.model.isSubtypeOf (.declared k) "unittest.case.TestCase" = true →
          hasTests f.model (.declared k) = true → InheritsFrom f.model i (.declared k)) := by
  obtain ⟨first,listed⟩ := firstOfOptsOut out
  have decides := testClassIff (m := f.model) listed
  refine ⟨fun i given => inheritanceTold parsed,first,listed,fun optedOut i a inherits => ?_,fun kept => ⟨?_,?_⟩⟩
  · have noTest : isTestClass f.model (.declared k) ≠ true := fun test => (decides.mp test).2 optedOut
    constructor
    · rintro rfl
      exact noTest inherits.own
    · rintro rfl
      exact noTest inherits.test
  · exact Bool.eq_iff_iff.mpr ⟨fun test => (decides.mp test).1,fun sub => decides.mpr ⟨sub,kept⟩⟩
  · intro i further own order sub tests
    exact ⟨own,decides.mpr ⟨sub,kept⟩,tests,[],further,order,nofun⟩

theorem annotatedOptOutTold :
    let text := ("import unittest\nclass A(unittest.TestCase):\n    __test__: bool\n    __test__ = False\n" ++
      "    def test_one(self): pass\nclass B(A):\n    __test__ = True\n").toList
    ∃ t, Tree.parse text = .ok t ∧ OptsOut t 2 ∧
      let f := File.ofTree (.ofString "a.py") (.ofString "") t
      InheritsFrom f.model 12 (.declared 2) ∧ .at inheritsTests 12 ["B","A"] ∈ checker.notes f := by
  intro text
  obtain ⟨t,parsed,read⟩ := Tree.okOfMap (x := Tree.parse text) (b := true) (f := fun t => decide
    (let m := (File.ofTree (.ofString "a.py") (.ofString "") t).model
     settings t 2 = [5,7] ∧ t.value? 5 = none ∧ t.value? 7 = some 9 ∧ t.literal? 9 = some (.bool false) ∧
     isTestClass m (.declared 12) = true ∧ (m.ancestorsOf (.declared 12)).head? = some (.declared 2) ∧
     m.isSubtypeOf (.declared 2) "unittest.case.TestCase" = true ∧ hasTests m (.declared 2) = true ∧
     12 ∈ t.ids ∧ t.kind 12 = .classDef ∧
     [m.className (.declared 12),m.className (.declared 2)] = ["B","A"])) (by decide +kernel)
  obtain ⟨listed,annotated,value,constant,own,behind,sub,tests,inside,isClass,names⟩ := of_decide_eq_true read
  have out : OptsOut t 2 := by
    refine ⟨7,?_,9,_,value,constant,rfl⟩
    simp [listed,annotated,value]
  obtain ⟨told,first,found,_,kept⟩ :=
    optingOutHeeded (f := .ofTree (.ofString "a.py") (.ofString "") t) parsed out
  obtain rfl : 5 = first := by
    have head : (settings t 2).head? = some 5 := by rw [listed]; rfl
    exact Option.some.inj (head.symm.trans found)
  obtain ⟨further,order⟩ := List.head?_eq_some_iff.mp behind
  have speaks : ¬AssignsFalse t 5 := by
    rintro ⟨v,_,assigned,_⟩
    cases annotated.symm.trans assigned
  have inherits := (kept speaks).2 12 further own order sub tests
  exact ⟨t,parsed,out,inherits,(told 12 _).mpr ⟨inside,isClass,_,inherits,names.symm⟩⟩

end ConventionLint.Rule.InheritedTests
