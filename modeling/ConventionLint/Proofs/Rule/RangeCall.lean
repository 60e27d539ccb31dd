import ConventionLint.Proofs.Check.Notes
import ConventionLint.Proofs.Tree.Arguments
import ConventionLint.Rule.RangeCall

/-! Shorter calls of `range`. The shorter call gives the same numbers whenever each argument stands for one value.
It is found by counting arguments, though, and behind a star there may be any number of values, so that the
shorter call of one with a star can give other numbers, or fail where the call as written does not. -/
namespace ConventionLint.Rule.RangeCall
open ConventionLint.Check
open ConventionLint.Grammar (Concrete)
open ConventionLint.Tree (NodeId Passes Evaluates Restarred)
open ConventionLint.Tree.Lowering (placedArguments Starred IsLiteral spelledPlain)

variable {f : File} {t : Tree} {i : NodeId} {given names : List String} {better : Shorter} {text : List Char}
variable {es : List Concrete} {placed : List (List Int)} {numbers : List Int} {start stop step v : Int} {k : Nat}

def count (start stop step : Int) : Nat :=
  if 0 < step then ((stop - start + step - 1) / step).toNat else ((start - stop - step - 1) / -step).toNat

def progression (start stop step : Int) : List Int :=
  (List.range (count start stop step)).map fun (k : Nat) => start + step * k

/-- The numbers of a call with these values, if the call is one that can be made. No argument may have a name,
and a step of zero goes nowhere. -/
def rangeOf? (values : List Int) (names : List String) : Option (List Int) :=
  match values, names with
  | [stop], [] => some (progression 0 stop 1)
  | [start,stop], [] => some (progression start stop 1)
  | [start,stop,step], [] => if step = 0 then none else some (progression start stop step)
  | _, _ => none

theorem unnamed {values : List Int} (called : rangeOf? values names = some numbers) : names = [] := by
  unfold rangeOf? at called
  split at called
  · rfl
  · rfl
  · rfl
  · cases called

theorem ltCount (moves : step ≠ 0) :
    k < count start stop step ↔ 0 < step ∧ start + step * k < stop ∨ step < 0 ∧ stop < start + step * k := by
  have upTo {size s : Int} (up : 0 < s) : k < ((size + s - 1) / s).toNat ↔ s * k < size := by
    rw [Int.lt_toNat,← Int.add_one_le_iff,Int.le_ediv_iff_mul_le up,Int.add_mul,Int.mul_comm]
    omega
  unfold count
  split
  · next up =>
    rw [upTo up]
    omega
  · next down =>
    have up : 0 < -step := by omega
    rw [show start - stop - step - 1 = start - stop + -step - 1 by omega,upTo up,Int.neg_mul]
    omega

theorem progressionAt (moves : step ≠ 0) : (progression start stop step)[k]? = some v ↔
    v = start + step * k ∧ (0 < step ∧ v < stop ∨ step < 0 ∧ stop < v) := by
  rw [progression,List.getElem?_map,Option.map_eq_some_iff]
  constructor
  · rintro ⟨k',found,rfl⟩
    obtain ⟨inside,rfl⟩ := List.getElem?_eq_some_iff.mp found
    rw [List.length_range] at inside
    simpa using (ltCount moves).mp inside
  · rintro ⟨rfl,before⟩
    exact ⟨k,List.getElem?_range ((ltCount moves).mpr before),rfl⟩

theorem upToOther (n : Int) : progression n 1 1 ≠ progression 0 n 1 := by
  intro same
  have first {v : Int} : v = n ∧ v < 1 ↔ v = 0 ∧ v < n := by
    have here : (progression n 1 1)[0]? = some v ↔ (progression 0 n 1)[0]? = some v := by rw [same]
    simpa [progressionAt one_ne_zero] using here
  by_cases up : 0 < n
  · obtain ⟨rfl,_⟩ := first.mpr ⟨rfl,up⟩
    omega
  · obtain ⟨rfl,_⟩ := first.mp ⟨rfl,by omega⟩
    omega

def Shorter.kept {α : Type} : Shorter → List α → List α
  | .stopOnly, written => (written.drop 1).take 1
  | .startAndStop, written => written.take 2

theorem shorterCases {ns : List NodeId} (found : shorter? (ns.map (intOf t)) = some better) :
    (∃ a b, ns = [a,b] ∧ intOf t a = some 0 ∧ better = .stopOnly) ∨
    (∃ a b c, ns = [a,b,c] ∧ intOf t a = some 0 ∧ intOf t c = some 1 ∧ better = .stopOnly) ∨
    ∃ a b c, ns = [a,b,c] ∧ intOf t c = some 1 ∧ better = .startAndStop := by
  rcases ns with _ | ⟨a,_ | ⟨b,_ | ⟨c,_ | ⟨d,more⟩⟩⟩⟩
  · cases found
  · cases found
  · obtain ⟨zero,rfl⟩ : intOf t a = some 0 ∧ .stopOnly = better := by simpa [shorter?] using found
    exact .inl ⟨a,b,rfl,zero,rfl⟩
  · obtain ⟨one,same⟩ : intOf t c = some 1 ∧
        (if intOf t a = some 0 then .stopOnly else .startAndStop) = better := by simpa [shorter?] using found
    split at same
    · next zero => exact .inr (.inl ⟨a,b,c,rfl,zero,one,same.symm⟩)
    · exact .inr (.inr ⟨a,b,c,rfl,one,same.symm⟩)
  · cases found

inductive Shortens (text : List Char) : Shorter → List Concrete → Prop where
  | fromZero {a b : Concrete} (zero : IsLiteral text a (.int 0)) : Shortens text .stopOnly [a,b]
  | fromZeroByOne {a b c : Concrete} (zero : IsLiteral text a (.int 0)) (one : IsLiteral text c (.int 1)) :
      Shortens text .stopOnly [a,b,c]
  | byOne {a b c : Concrete} (one : IsLiteral text c (.int 1)) : Shortens text .startAndStop [a,b,c]

theorem literalOfInt {n : NodeId} (known : intOf t n = some v) : t.literal? n = some (.int v) := by
  obtain ⟨l,own,value⟩ := Option.bind_eq_some_iff.mp known
  cases l <;> cases value
  exact own

theorem callShortens (parsed : Tree.parse text = .ok t)
    (found : shorter? ((t.args i).map (intOf t)) = some better) :
    ∃ c, Tree.IsCallOf text t i c ∧ Shortens text better (placedArguments c) := by
  have nonempty : t.args i ≠ [] := by
    intro empty
    rw [empty] at found
    cases found
  obtain ⟨c,made⟩ := Tree.callWritten parsed nonempty
  have integers : List.Forall₂ (fun e n => ∀ v, intOf t n = some v → IsLiteral text e (.int v))
      (placedArguments c) (t.args i) :=
    made.arguments.imp fun _ _ argument v known => argument.literal (.int v) (literalOfInt known) (by simp)
  refine ⟨c,made,?_⟩
  generalize placedArguments c = es at integers ⊢
  obtain ⟨a,b,args,zero,rfl⟩ | ⟨a,b,c,args,zero,one,rfl⟩ | ⟨a,b,c,args,one,rfl⟩ := shorterCases found
  all_goals rw [args] at integers
  · obtain _ | ⟨first,_ | ⟨_,_ | _⟩⟩ := integers
    exact .fromZero (first 0 zero)
  · obtain _ | ⟨first,_ | ⟨_,_ | ⟨third,_ | _⟩⟩⟩ := integers
    exact .fromZeroByOne (first 0 zero) (third 1 one)
  · obtain _ | ⟨_,_ | ⟨_,_ | ⟨third,_ | _⟩⟩⟩ := integers
    exact .byOne (third 1 one)

theorem keptNumbers (shortens : Shortens text better es)
    (evaluated : List.Forall₂ (Passes text Tree.Literal.int?) es placed) (single : ∀ vs ∈ placed, vs.length = 1)
    (called : rangeOf? placed.flatten names = some numbers) :
    rangeOf? (better.kept placed).flatten [] = some numbers := by
  obtain rfl := unnamed called
  have valueOf {vs : List Int} (mem : vs ∈ placed) : ∃ v, vs = [v] := List.length_eq_one_iff.mp (single vs mem)
  cases shortens with
  | fromZero zero =>
    obtain _ | ⟨first,_ | ⟨_,_ | _⟩⟩ := evaluated
    obtain rfl := first.own _ 0 zero rfl
    obtain ⟨stop,rfl⟩ := valueOf (.tail _ (.head _))
    simpa [rangeOf?,Shorter.kept] using called
  | fromZeroByOne zero one =>
    obtain _ | ⟨first,_ | ⟨_,_ | ⟨third,_ | _⟩⟩⟩ := evaluated
    obtain rfl := first.own _ 0 zero rfl
    obtain rfl := third.own _ 1 one rfl
    obtain ⟨stop,rfl⟩ := valueOf (.tail _ (.head _))
    simpa [rangeOf?,Shorter.kept] using called
  | byOne one =>
    obtain _ | ⟨_,_ | ⟨_,_ | ⟨third,_ | _⟩⟩⟩ := evaluated
    obtain rfl := third.own _ 1 one rfl
    obtain ⟨start,rfl⟩ := valueOf (.head _)
    obtain ⟨stop,rfl⟩ := valueOf (.tail _ (.head _))
    simpa [rangeOf?,Shorter.kept] using called

theorem starChanges (shortens : Shortens text better es)
    (evaluated : List.Forall₂ (Passes text Tree.Literal.int?) es placed) (star : ∃ e ∈ es, Starred e) :
    ∃ other numbers, Restarred es placed other ∧ rangeOf? other.flatten [] = some numbers ∧
      rangeOf? (better.kept other).flatten [] ≠ some numbers := by
  cases shortens with
  | @fromZero a b zero =>
    -- two values behind the star are the stop and the step, and become the start and the stop
    obtain _ | ⟨first,_ | ⟨_,_ | _⟩⟩ := evaluated
    obtain rfl := first.own _ 0 zero rfl
    have second : Starred b := by simpa [spelledPlain zero] using star
    exact ⟨[[0],[5,2]],[0,2,4],.kept (.changed second .nil),by decide,by decide⟩
  | @fromZeroByOne a b c zero one =>
    -- without a value behind the star the step is the stop, and the shorter call has no argument
    obtain _ | ⟨first,_ | ⟨_,_ | ⟨third,_ | _⟩⟩⟩ := evaluated
    obtain rfl := first.own _ 0 zero rfl
    obtain rfl := third.own _ 1 one rfl
    have second : Starred b := by simpa [spelledPlain zero,spelledPlain one] using star
    exact ⟨[[0],[],[1]],[0],.kept (.changed second (.kept .nil)),by decide,by decide⟩
  | @byOne a b c one =>
    -- here as well the step is the stop, behind the one value that is left or behind none
    obtain _ | ⟨first,_ | ⟨second,_ | ⟨third,_ | _⟩⟩⟩ := evaluated
    obtain rfl := third.own _ 1 one rfl
    have upTo (v : Int) : rangeOf? [v] [] ≠ some (progression v 1 1) := fun same =>
      upToOther v (Option.some.inj same).symm
    have either : Starred a ∨ Starred b := by simpa [spelledPlain one] using star
    by_cases startStar : Starred a
    · by_cases stopStar : Starred b
      · exact ⟨[[],[],[1]],[0],.changed startStar (.changed stopStar (.kept .nil)),by decide,by decide⟩
      · obtain ⟨stop,rfl⟩ := second.single stopStar
        exact ⟨[[],[stop],[1]],progression stop 1 1,.changed startStar (.kept (.kept .nil)),rfl,upTo stop⟩
    · obtain ⟨start,rfl⟩ := first.single startStar
      exact ⟨[[start],[],[1]],progression start 1 1,.kept (.changed (either.resolve_left startStar) (.kept .nil)),
        rfl,upTo start⟩

theorem notedCall (noted : .at simplifiable i given ∈ checker.notes f) :
    ∃ name better, given = [name,better.text] ∧ f.tree.calleeIn? functions i = some name ∧
      shorter? ((f.tree.args i).map (intOf f.tree)) = some better := by
  obtain ⟨j,_,told⟩ := Checker.notedAtCall noted
  unfold notes at told
  split at told
  · next name better named found =>
    cases List.mem_singleton.mp told
    exact ⟨name,better,rfl,named,found⟩
  · cases told

/-- The call that a note speaks of gives the same numbers in its shorter form if each argument stands for one
value, as all do without a star. A star makes a difference for some values behind it, if the call can be made
with them at all, which it cannot if an argument has a name. -/
theorem shorterCallKeepsNumbers (parsed : Tree.parse text = .ok f.tree)
    (noted : .at simplifiable i given ∈ checker.notes f) :
    ∃ (name : String) (better : Shorter) (c : Concrete), given = [name,better.text] ∧
      f.tree.callee? i = some name ∧ Tree.IsCallOf text f.tree i c ∧
      ∀ placed, Evaluates text Tree.Literal.int? c placed →
        ((∀ vs ∈ placed, vs.length = 1) → ∀ names numbers, rangeOf? placed.flatten names = some numbers →
          rangeOf? (better.kept placed).flatten [] = some numbers) ∧
        ((∀ e ∈ placedArguments c, ¬Starred e) → ∀ vs ∈ placed, vs.length = 1) ∧
        ((∃ e ∈ placedArguments c, Starred e) → ∃ other numbers, Restarred (placedArguments c) placed other ∧
          Evaluates text Tree.Literal.int? c other ∧ rangeOf? other.flatten [] = some numbers ∧
            rangeOf? (better.kept other).flatten [] ≠ some numbers) := by
  obtain ⟨name,better,rfl,named,found⟩ := notedCall noted
  obtain ⟨c,made,shortens⟩ := callShortens parsed found
  refine ⟨name,better,c,rfl,(Option.filter_eq_some_iff.mp named).1,made,fun placed evaluated => ⟨?_,?_,?_⟩⟩
  · exact fun single names numbers called => keptNumbers shortens evaluated single called
  · exact Tree.singleValues evaluated
  · intro star
    obtain ⟨other,numbers,restarred,called,changed⟩ := starChanges shortens evaluated star
    exact ⟨other,numbers,restarred,Tree.passesRestarred evaluated restarred,called,changed⟩

theorem starredRangeTold :
    let text := "range(0, *xs)\n".toList
    ∃ t c, Tree.parse text = .ok t ∧ Tree.IsCallOf text t 1 c ∧
      .at simplifiable 1 ["range","single-argument"] ∈ checker.notes (.ofTree (.ofString "a.py") (.ofString "") t) ∧
      Evaluates text Tree.Literal.int? c [[0],[3]] ∧ rangeOf? [0,3] [] = some [0,1,2] ∧
      rangeOf? [3] [] = some [0,1,2] ∧
      Evaluates text Tree.Literal.int? c [[0],[5,2]] ∧ rangeOf? [0,5,2] [] = some [0,2,4] ∧
      rangeOf? [5,2] [] = some [] := by
  intro text
  obtain ⟨t,parsed,read⟩ := Tree.okOfMap (x := Tree.parse text) (b := true)
    (f := fun t => decide (.at simplifiable 1 ["range","single-argument"] ∈
        checker.notes (.ofTree (.ofString "a.py") (.ofString "") t) ∧
      t.args 1 = [3,4] ∧ t.literal? 3 = some (.int 0) ∧ t.payload 4 = .other "list_splat")) (by decide +kernel)
  obtain ⟨noted,args,zero,star⟩ := of_decide_eq_true read
  obtain ⟨name,better,c,told,_,made,each⟩ :=
    shorterCallKeepsNumbers (f := .ofTree (.ofString "a.py") (.ofString "") t) parsed noted
  obtain rfl : better = .stopOnly := by
    cases better with
    | stopOnly => rfl
    | startAndStop => exact absurd told (by simp [Shorter.text])
  have evaluates (vs : List Int) : Evaluates text Tree.Literal.int? c [[0],vs] := by
    have written : List.Forall₂ _ _ [3,4] := args ▸ made.arguments
    obtain ⟨a,_,first,second,whole⟩ := List.forall₂_cons_right_iff.mp written
    obtain ⟨b,_,behind,ended,rfl⟩ := List.forall₂_cons_right_iff.mp second
    obtain rfl := List.forall₂_nil_right_iff.mp ended
    rw [Evaluates,whole]
    exact .cons (.literal (first.literal _ zero (by simp)) rfl) (.cons (.starred (behind.star.mp star) vs) .nil)
  have one : rangeOf? [3] [] = some [0,1,2] :=
    (each [[0],[3]] (evaluates [3])).1 (by decide) [] [0,1,2] (by decide)
  exact ⟨t,c,parsed,made,noted,evaluates [3],by decide,one,evaluates [5,2],by decide,by decide⟩

end ConventionLint.Rule.RangeCall
