import ConventionLint.Inspection.Basic
import ConventionLint.Proofs.Check.Runs
import ConventionLint.Proofs.Glob.Pattern

/-! Setting an inspection up fails by the first fault: of the checkers, else of the patterns. If it does not
fail, the handlers of the checkers run where their types of nodes say. -/
namespace ConventionLint

namespace Glob.Pattern
variable {texts : List String} {e : PatternError}

theorem parseAllOk : (∃ ps, parseAll texts = .ok ps) ↔ ∀ text ∈ texts, ∃ p, parse text = .ok p := by
  induction texts with
  | nil => exact ⟨fun _ => nofun,fun _ => ⟨[],rfl⟩⟩
  | cons text texts ih =>
    rw [List.forall_mem_cons,← ih,parseAll]
    cases parse text <;> cases parseAll texts <;> simp [bind,Except.bind,pure,Except.pure]

theorem parseAllFirst {before after : List String} {text : String}
    (right : ∀ s ∈ before, ∃ p, parse s = .ok p) (wrong : parse text = .error e) :
    parseAll (before ++ text :: after) = .error e := by
  induction before with
  | nil => rw [List.nil_append,parseAll,wrong]; rfl
  | cons s before ih =>
    obtain ⟨⟨p,own⟩,rest⟩ := List.forall_mem_cons.mp right
    rw [List.cons_append,parseAll,own,ih rest]
    rfl

theorem parseAllError : parseAll texts = .error e ↔ ∃ before text after, texts = before ++ text :: after ∧
    (∀ s ∈ before, ∃ p, parse s = .ok p) ∧ parse text = .error e := by
  constructor
  · intro failed
    have wrong : ¬ ∀ text ∈ texts, ∃ p, parse text = .ok p := by
      rw [← parseAllOk,failed]
      exact fun ⟨_,ok⟩ => nomatch ok
    obtain ⟨before,text,after,rfl,right,bad⟩ := firstWrong wrong
    cases own : parse text with
    | ok p => exact absurd ⟨p,own⟩ bad
    | error d =>
      obtain rfl : d = e := Except.error.inj ((parseAllFirst right own).symm.trans failed)
      exact ⟨before,text,after,rfl,right,own⟩
  · rintro ⟨before,text,after,rfl,right,wrong⟩
    exact parseAllFirst right wrong

theorem parseOwnText {text : String} {p : Pattern} (read : parse text = .ok p) : p.text = text := by
  obtain ⟨_,_,rfl⟩ := okOfMapped read
  rfl

theorem parseAllEach {ps : List Pattern} (read : parseAll texts = .ok ps) :
    ps.map Pattern.text = texts ∧ ∀ p ∈ ps, parse p.text = .ok p := by
  induction texts generalizing ps with
  | nil =>
    obtain rfl : [] = ps := Except.ok.inj read
    exact ⟨rfl,nofun⟩
  | cons text texts ih =>
    cases own : parse text with
    | error e => simp [parseAll,own,bind,Except.bind] at read
    | ok p =>
      cases rest : parseAll texts with
      | error e => simp [parseAll,own,rest,bind,Except.bind] at read
      | ok qs =>
        obtain rfl : p :: qs = ps := by simpa [parseAll,own,rest,bind,Except.bind,pure,Except.pure] using read
        obtain ⟨same,each⟩ := ih rest
        have text := parseOwnText own
        exact ⟨by rw [List.map_cons,text,same],List.forall_mem_cons.mpr ⟨text ▸ own,each⟩⟩

theorem parseAllAppend {more : List String} : parseAll (texts ++ more) =
    (parseAll texts).bind fun ps => (parseAll more).map (ps ++ ·) := by
  induction texts with
  | nil =>
    rw [List.nil_append,parseAll]
    cases parseAll more <;> rfl
  | cons text texts ih =>
    rw [List.cons_append,parseAll,parseAll,ih]
    cases parse text <;> cases parseAll texts <;> cases parseAll more <;> rfl

end Glob.Pattern

namespace Inspection
open Check (Checker Known Together)
open Glob (Pattern)
open Storage (Path)
open ConventionLint.Tree (NodeKind)

inductive Request.Fault (r : Request) : SetupError → Prop where
  | registration {e : Check.RegistrationError} (fault : Check.Fault r.checkers e) :
      Fault r (.registration e)
  | pattern {e : Glob.PatternError} {before after : List String} {text : String}
      (known : Known r.checkers) (together : Together r.checkers)
      (order : r.excludeTexts ++ r.onlyTexts = before ++ text :: after)
      (right : ∀ s ∈ before, ∃ p, Pattern.parse s = .ok p) (wrong : Pattern.parse text = .error e) :
      Fault r (.pattern e)

variable {current : Path} {r : Request} {x : Inspection}

theorem setUpOk : (∃ x, setUp current r = .ok x) ↔ Check.Registry.validate r.checkers = .ok () ∧
    ∃ ps, Pattern.parseAll (r.excludeTexts ++ r.onlyTexts) = .ok ps := by
  rw [setUp,Pattern.parseAllAppend]
  cases Check.Registry.validate r.checkers <;> cases Pattern.parseAll r.excludeTexts <;>
    cases Pattern.parseAll r.onlyTexts <;> simp [Except.bind,Except.map]

theorem setUpRegistration {e : Check.RegistrationError} : setUp current r = .error (.registration e) ↔
    Check.Registry.validate r.checkers = .error e := by
  rw [setUp]
  cases Check.Registry.validate r.checkers <;> cases Pattern.parseAll r.excludeTexts <;>
    cases Pattern.parseAll r.onlyTexts <;> simp

theorem setUpPattern {e : Glob.PatternError} : setUp current r = .error (.pattern e) ↔
    Check.Registry.validate r.checkers = .ok () ∧
      Pattern.parseAll (r.excludeTexts ++ r.onlyTexts) = .error e := by
  rw [setUp,Pattern.parseAllAppend]
  cases Check.Registry.validate r.checkers <;> cases Pattern.parseAll r.excludeTexts <;>
    cases Pattern.parseAll r.onlyTexts <;> simp [Except.bind,Except.map]

theorem setUpFaultIff {e : SetupError} : setUp current r = .error e ↔ r.Fault e := by
  cases e with
  | registration e =>
    rw [setUpRegistration,Check.Registry.validateErrorIff]
    exact ⟨.registration,fun | .registration fault => fault⟩
  | pattern e =>
    rw [setUpPattern,Check.Registry.validateOkIff,Pattern.parseAllError]
    constructor
    · rintro ⟨⟨known,together⟩,before,text,after,order,right,wrong⟩
      exact .pattern known together order right wrong
    · intro fault
      cases fault with
      | pattern known together order right wrong =>
        exact ⟨⟨known,together⟩,_,_,_,order,right,wrong⟩

theorem setUpParts (done : setUp current r = .ok x) : x.checkers = r.checkers ∧
    x.root = r.absoluteRoot current ∧ Pattern.parseAll r.excludeTexts = .ok x.exclude := by
  revert done
  rw [setUp]
  cases Check.Registry.validate r.checkers <;> cases Pattern.parseAll r.excludeTexts <;>
    cases Pattern.parseAll r.onlyTexts <;> simp
  rintro rfl
  exact ⟨rfl,rfl,rfl⟩

/-- An inspection is set up if and only if all types of nodes exist, the checkers have names of their own
and codes and symbols of their own, and all patterns can be read; otherwise the first fault is the answer.
Then a checker says in a parsed text what its handlers say run by run, the ones for a node in the order of
registration, each of them once on each node of the kind that its type denotes. -/
theorem setUpFirstFault (current : Path) (r : Request) :
    (∀ e, setUp current r = .error e ↔ r.Fault e) ∧
    ((∃ x, setUp current r = .ok x) ↔
      (∀ c ∈ r.checkers, ∀ h ∈ c.handlers, ∃ k, NodeKind.Spells h.nodeType k) ∧
      (r.checkers.map Checker.name).Nodup ∧
      r.checkers.Pairwise (fun c d => ∀ key, c.Uses key → ¬ d.Uses key) ∧
      ∀ text ∈ r.excludeTexts ++ r.onlyTexts, ∃ p, Pattern.parse text = .ok p) ∧
    ∀ x, setUp current r = .ok x → x.checkers = r.checkers ∧
      ∀ (text : List Char) (t : Tree), Tree.parse text = .ok t → ∀ c ∈ x.checkers,
        (∀ f : Check.File, f.tree = t →
          c.notes f = (Checker.inTurn (fun e => e.1.1.run f e.2) (c.runs t) c.initial).2) ∧
        (∀ phase i, ((c.runs t).filter fun e => e.1.1.phase == phase && e.2 == i).map Prod.fst =
          if i < t.size then c.registered phase (t.kind i) else []) ∧
        ∀ j h, c.handlers[j]? = some h → (((c.runs t).filter fun e => e.1.2 == j).map Prod.snd).Perm
          (t.ids.filter fun i => NodeKind.Spells h.nodeType (t.kind i)) := by
  refine ⟨fun e => setUpFaultIff,?_,fun x done => ⟨(setUpParts done).1,fun text t parsed c _ => ?_⟩⟩
  · rw [setUpOk,Check.Registry.validateOkIff,Pattern.parseAllOk,Check.togetherIff,and_assoc,and_assoc]
    rfl
  · refine ⟨?_,Checker.runsAt parsed,fun j h => Checker.runsOf parsed⟩
    rintro f rfl
    exact Checker.notesOfRuns f

theorem setUpOfProbe :
    let probe := Checker.stateless "probe" "" [] [.simple "callfunc" fun _ _ => [],
      .simple "Name" fun _ _ => [],.simple "CALL" fun _ _ => []]
    let r : Request := ⟨none,none,[probe],["**/old/**"],[],false⟩
    setUp ⟨true,[]⟩ { r with checkers := [probe,probe] } =
      .error (.registration (.duplicateChecker "probe")) ∧
    setUp ⟨true,[]⟩ { r with only := ["a[","***"] } = .error (.pattern (.unclosedBracket 1)) ∧
    ∃ x, setUp ⟨true,[]⟩ r = .ok x ∧ x.checkers = [probe] ∧ ∃ t, Tree.parse "f(x, y)\n".toList = .ok t ∧
      (((probe.runs t).filter fun e => e.1.2 == 2).map Prod.snd).Perm
        (t.ids.filter fun i => NodeKind.Spells "CALL" (t.kind i)) := by
  intro probe r
  have known : Known r.checkers := List.forall_mem_singleton.mpr <|
    List.forall_mem_cons.mpr ⟨⟨.call,by decide⟩,List.forall_mem_cons.mpr ⟨⟨.name,by decide⟩,
      List.forall_mem_singleton.mpr ⟨.call,by decide⟩⟩⟩
  have old : Pattern.parse "**/old/**" =
      .ok ⟨"**/old/**",[.anyComponents,.char 'o',.char 'l',.char 'd',.char '/',.anyComponents]⟩ := by decide +kernel
  have readable : ∀ text ∈ ["**/old/**"], ∃ p, Pattern.parse text = .ok p := by
    intro text mem
    exact List.mem_singleton.mp mem ▸ ⟨_,old⟩
  obtain ⟨t,parsed,_⟩ := @Tree.parsedOfSize "f(x, y)\n".toList 5 (by decide +kernel)
  obtain ⟨_,able,led⟩ := setUpFirstFault ⟨true,[]⟩ r
  obtain ⟨x,done⟩ := able.mpr ⟨known,List.pairwise_singleton _ _,List.pairwise_singleton _ _,readable⟩
  obtain ⟨same,runs⟩ := led x done
  have listed : probe ∈ x.checkers := same ▸ List.mem_singleton_self probe
  refine ⟨?_,?_,x,done,same,t,parsed,(runs _ t parsed probe listed).2.2 2 _ rfl⟩
  · have both : Known ([probe] ++ [probe]) := fun c mem => known c (by simpa [r] using mem)
    exact ((setUpFirstFault _ _).1 _).mpr
      (.registration (.name both (List.pairwise_singleton _ _) (List.mem_singleton_self _)))
  · exact ((setUpFirstFault _ _).1 _).mpr
      (.pattern known (List.pairwise_singleton _ _) (show _ = ["**/old/**"] ++ _ :: _ from rfl) readable
        (by decide +kernel))

end Inspection

end ConventionLint
