import ConventionLint.Proofs.Check.Suppression
import ConventionLint.Proofs.Inspection.Survey

/-! A choice of checkers under some settings finds what all checkers find with nothing switched off, less
what is switched off. This holds for one source, and for a run over files if none of them is a record that the
run writes before it reads the file. -/
namespace ConventionLint.Inspection
open Check (Checker isFrom isWanted runWithin withSeverity)
open Report (Diagnostic)
open Storage (Path Store)

def withAll (x : Inspection) : Inspection := { x with checkers := Rule.all x.config }

def unrestricted (x : Inspection) : Inspection :=
  { x with
    checkers := Rule.all x.config.unrestricted
    config := x.config.unrestricted }

def silenced (x : Inspection) : Inspection :=
  { x with checkers := x.checkers.map (Checker.silenced (Check.isLet x.config)) }

variable {x y : Inspection} {s : Store} {paths : List Path} {path : Path} {source : Text.Bytes}
  {r : Check.Result}

theorem checkOk : x.check path source = .ok r ↔ ∃ t, Tree.parse (Encoding.decode source).text = .ok t ∧
    r = Check.run x.config x.checkers (.ofTree path x.root t) := by
  unfold check
  cases Tree.parse (Encoding.decode source).text <;> simp [Except.map,eq_comm]

theorem undisturbedFewer (sameRoot : x.root = y.root)
    (fewer : (Check.enabled x.config x.checkers).Sublist (Check.enabled y.config y.checkers))
    (undisturbed : y.Undisturbed s paths) : x.Undisturbed s paths := by
  refine undisturbed.imp ?_
  rintro path later apart ⟨r,checked,record,listed,hit⟩
  obtain ⟨source,read,outcome⟩ := checkedSome.mp checked
  obtain ⟨t,parsed,rfl⟩ := checkOk.mp outcome
  refine apart ⟨_,checkedSome.mpr ⟨source,read,checkOk.mpr ⟨t,parsed,rfl⟩⟩,record,?_,hit⟩
  rw [Check.runIsWithin,Check.recordsWithin] at listed ⊢
  rw [sameRoot] at listed
  exact (fewer.flatMap _).subset listed

theorem lookFiltered {keep : Diagnostic → Bool} {change : Diagnostic → Diagnostic}
    (sameRoot : x.root = y.root) (strict : x.isStrict = y.isStrict)
    (each : ∀ f, (Check.run x.config x.checkers f).diagnostics =
      ((Check.run y.config y.checkers f).diagnostics.filter keep).map change) (path : Path) :
    x.look s path = (y.look s path).map (filtered keep change) := by
  unfold look
  cases s.read? path with
  | none => rfl
  | some source =>
    dsimp only
    unfold check
    cases Tree.parse (Encoding.decode source).text with
    | error e =>
      simp only [Except.map,strict]
      split <;> rfl
    | ok t => simp [Except.map,filtered,each,sameRoot]

theorem severityKeepsKey (config : Config) (d : Diagnostic) : (withSeverity config d).key = d.key := by
  unfold withSeverity
  split <;> rfl

/-- Whatever is switched off, the rest is what would have been found anyway: in a source that is parsed,
and in a run over files none of which is a record that is written before the file is read. -/
theorem selectionFilters (selected : x.checkers.Sublist (Rule.all x.config)) :
    (∀ path source t, Tree.parse (Encoding.decode source).text = .ok t →
      ∃ r, x.check path source = .ok r ∧ r.diagnostics =
        ((runWithin x.config.unrestricted [] (Rule.all x.config.unrestricted)
          (.ofTree path x.root t)).diagnostics.filter fun d =>
            isFrom x.checkers d && x.config.isCheckerEnabled d.checker &&
              isWanted x.config (Comment.Suppression.ofText t.text) d).map (withSeverity x.config)) ∧
    (∀ path source, x.silenced.check path source = x.check path source) ∧
    (∀ s paths, x.withAll.Undisturbed s paths → (x.runOn s paths).map Progress.findings =
      (x.withAll.runOn s paths).map fun p => filtered (isFrom x.checkers) id p.findings) ∧
    ∀ s paths, x.unrestricted.Undisturbed s paths → (x.runOn s paths).map Progress.findings =
      (x.unrestricted.runOn s paths).map fun p => filtered (fun d => isFrom x.checkers d &&
        x.config.isCheckerEnabled d.checker && x.config.isMessageEnabled d.symbol d.code)
        (withSeverity x.config) p.findings := by
  have names := Rule.allNames x.config
  refine ⟨fun path source t parsed => ?_,fun path source => ?_,fun s paths undisturbed => ?_,
    fun s paths undisturbed => ?_⟩
  · refine ⟨_,checkOk.mpr ⟨t,parsed,rfl⟩,?_⟩
    rw [Rule.allUnrestricted]
    exact Check.filtersUnrestricted selected names
  · simp only [check,silenced,Check.runSilenced]
  · have fewer : x.Undisturbed s paths :=
      undisturbedFewer (x := x) (y := x.withAll) rfl (selected.filter _) undisturbed
    refine runOnFiltered (fun path => ?_) (fun _ => rfl) fewer undisturbed
    refine lookFiltered (x := x) (y := x.withAll) rfl rfl (fun f => ?_) path
    rw [List.map_id]
    exact Check.filtersChoice selected names
  · have all : Check.enabled x.unrestricted.config x.unrestricted.checkers = Rule.all x.config := by
      simp [Check.enabled,unrestricted,Rule.allUnrestricted]
    have fewer : x.Undisturbed s paths := by
      refine undisturbedFewer (x := x) (y := x.unrestricted) rfl ?_ undisturbed
      rw [all]
      exact List.filter_sublist.trans selected
    refine runOnFiltered (fun path => ?_) (severityKeepsKey x.config) fewer undisturbed
    refine lookFiltered (x := x) (y := x.unrestricted) rfl rfl (fun f => ?_) path
    simp only [unrestricted,Rule.allUnrestricted]
    exact Check.filtersUnsuppressed selected names

def recording (record : String) (settings : List (String × CheckerSettings)) (disabled : List String)
    (checkers : List Checker) : Inspection :=
  ⟨⟨true,[]⟩,checkers,[],[],
    { Config.default with
      disabled
      checkers := ("module-tracing-checker",⟨none,none,[("record_files",.string record)]⟩) :: settings },
    false⟩

def storeOf (files : List (String × String)) : Store :=
  ⟨files.map fun e => ([e.1],.file (Text.Utf8.encode e.2.toList)),[]⟩

theorem selectionOfTwo :
    let x := recording "log.txt" [("range-checker",⟨none,some .error,[]⟩)] ["C7630"]
      [Rule.RangeCall.checker,Rule.AttributeName.checker]
    let first := "range(0, 3)\nrange(0, 4) # pylint: disable=C7620\ngetattr(a, 'b')\n"
    let s := storeOf [("a.py",first),("b.py","range(0, 5)\n")]
    let paths := [Path.ofString "/b.py",Path.ofString "/a.py"]
    x.checkers.Sublist (Rule.all x.config) ∧ x.unrestricted.Undisturbed s paths ∧
    (∃ r, x.check (.ofString "/a.py") (Text.Utf8.encode first.toList) = .ok r ∧
      r.diagnostics.map (fun d => (d.location.line,d.severity)) = [(1,.error)]) ∧
    (x.runOn s paths).map Progress.findings =
      (x.withAll.runOn s paths).map (fun p => filtered (isFrom x.checkers) id p.findings) ∧
    (x.runOn s paths).map Progress.findings = (x.unrestricted.runOn s paths).map fun p =>
      filtered (fun d => isFrom x.checkers d && x.config.isCheckerEnabled d.checker &&
        x.config.isMessageEnabled d.symbol d.code) (withSeverity x.config) p.findings := by
  intro x first s paths
  have selected : x.checkers.Sublist (Rule.all x.config) :=
    .cons _ (.cons _ (.cons _ (.cons_cons _ (.cons_cons _ (List.nil_sublist _)))))
  have undisturbed : x.unrestricted.Undisturbed s paths := List.pairwise_of_forall_mem_list
    (undisturbedElsewhere "log.txt" ["log.txt"] (by decide +kernel) (by decide +kernel) (by decide +kernel))
  have found : (x.check (.ofString "/a.py") (Text.Utf8.encode first.toList)).toOption.map
      (fun r => r.diagnostics.map fun d => (d.location.line,d.severity)) = some [(1,.error)] := by
    decide +kernel
  have fewer : x.withAll.Undisturbed s paths :=
    undisturbedFewer (x := x.withAll) (y := x.unrestricted) rfl (.refl _) undisturbed
  obtain ⟨one,_,run,runUnrestricted⟩ := selectionFilters selected
  cases parsed : Tree.parse (Encoding.decode (Text.Utf8.encode first.toList)).text with
  | error e => simp [check,parsed,Except.map,Except.toOption] at found
  | ok t =>
    obtain ⟨r,checked,_⟩ := one (.ofString "/a.py") _ t parsed
    rw [checked] at found
    exact ⟨selected,undisturbed,⟨r,checked,Option.some.inj found⟩,run s paths fewer,
      runUnrestricted s paths undisturbed⟩

theorem runOnNumbers {α : Type} (number : Nat → Nat → α) : (x.runOn s paths).toOption.map
      (fun p => number p.findings.diagnostics.length p.findings.filesChecked) =
    (x.advanceAll ⟨.empty,s⟩ paths).toOption.map
      fun p => number p.findings.diagnostics.length p.findings.filesChecked := by
  rw [runOn]
  cases x.advanceAll ⟨.empty,s⟩ paths <;> simp [Except.map,Except.toOption,Report.inOrder]

/-- The record is one of the files, and gets a line that cannot be parsed before it is read. With fewer
checkers it is not written. -/
theorem selectionOfRecord :
    let x := recording "/b.py" [] [] [Rule.RangeCall.checker]
    let s := storeOf [("a.py","x\n"),("b.py","range(0, 5)\n")]
    let paths := [Path.ofString "/a.py",Path.ofString "/b.py"]
    x.checkers.Sublist (Rule.all x.config) ∧
    (x.runOn s paths).toOption.map (fun p => p.findings.diagnostics.length) = some 1 ∧
    (x.withAll.runOn s paths).toOption.map (fun p => p.findings.diagnostics.length) = some 0 ∧
    (x.runOn s paths).map Progress.findings ≠
      (x.withAll.runOn s paths).map (fun p => filtered (isFrom x.checkers) id p.findings) := by
  intro x s paths
  have own : (x.runOn s paths).toOption.map (fun p => p.findings.diagnostics.length) = some 1 := by
    rw [runOnNumbers fun found _ => found]
    decide +kernel
  have all : (x.withAll.runOn s paths).toOption.map (fun p => p.findings.diagnostics.length) =
      some 0 := by
    rw [runOnNumbers fun found _ => found]
    decide +kernel
  refine ⟨.cons _ (.cons _ (.cons _ (.cons_cons _ (List.nil_sublist _)))),own,all,fun same => ?_⟩
  cases done : x.withAll.runOn s paths with
  | error e => simp [done,Except.toOption] at all
  | ok q =>
    have nothing : q.findings.diagnostics = [] := by simpa [done,Except.toOption] using all
    cases first : x.runOn s paths with
    | error e => simp [first,Except.toOption] at own
    | ok p =>
      simp only [first,done,Except.map,Except.ok.injEq] at same
      simp [first,Except.toOption,same,filtered,nothing] at own

end ConventionLint.Inspection
