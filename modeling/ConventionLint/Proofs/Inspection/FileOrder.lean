import Mathlib.Data.List.Nodup
import ConventionLint.Proofs.Check.Location
import ConventionLint.Proofs.Check.Suppression
import ConventionLint.Proofs.Inspection.Selection
import ConventionLint.Proofs.List

/-! A run does not depend on the order in which files are given. Diagnostics of different files never tie,
as their files are told apart by the parts of their relative paths, so the only order that is kept is
that of the checkers within one file. -/
namespace ConventionLint.Inspection
open Report (Diagnostic Findings)
open Storage (Path Store)

variable {x : Inspection} {s : Store} {paths paths' : List Path} {path : Path}

def inPathOrder (x : Inspection) (paths : List Path) : List Path :=
  paths.mergeSort fun p q => !(q.relativeTo x.root).before (p.relativeTo x.root)

theorem surveyLenient (lenient : x.isStrict = false) (readable : ∀ p ∈ paths, (s.read? p).isSome) :
    x.survey s paths = .ok ⟨(paths.filterMap (x.checked? s)).flatMap (·.diagnostics),
      (paths.filterMap (x.checked? s)).length⟩ := by
  induction paths with
  | nil => rfl
  | cons path paths ih =>
    rw [List.forall_mem_cons] at readable
    obtain ⟨source,read⟩ := Option.isSome_iff_exists.mp readable.1
    rw [survey,look,read,ih readable.2]
    dsimp only
    cases checked : x.check path source with
    | error e =>
      have skipped : x.checked? s path = none := by simp [checked?,read,checked,Except.toOption]
      rw [List.filterMap_cons_none skipped]
      simp [lenient,Except.map,findingsEmpty]
    | ok r =>
      have listed : x.checked? s path = some r := by simp [checked?,read,checked,Except.toOption]
      rw [List.filterMap_cons_some listed]
      simp [Except.map,findingsAppend,Nat.add_comm]

theorem diagnosticFile {text : String} {r : Check.Result} {d : Diagnostic}
    (checked : x.checked? s (.ofString text) = some r) (mem : d ∈ r.diagnostics) :
    d.filePath.parts = ((Path.ofString text).relativeTo x.root).parts := by
  obtain ⟨source,_,outcome⟩ := checkedSome.mp checked
  obtain ⟨t,_,rfl⟩ := checkOk.mp outcome
  rw [Check.runIsWithin,Check.diagnosticsWithin] at mem
  obtain ⟨raw,listed,rfl⟩ := List.mem_map.mp mem
  have file := Check.everythingFile (List.mem_filter.mp listed).1
  rw [Diagnostic.filePath,Check.locationWithSeverity,file]
  exact Path.partsRelative text x.root

theorem inPathOrderPairwise (apart : (paths.map fun p => (p.relativeTo x.root).parts).Nodup) :
    ((x.inPathOrder paths).map fun p => p.relativeTo x.root).Pairwise fun p q => p.before q = true := by
  have upTo (p q : Path) : (!(q.relativeTo x.root).before (p.relativeTo x.root)) = true ↔
      (p.relativeTo x.root).key ≤ (q.relativeTo x.root).key := by
    rw [Bool.not_eq_true',← Bool.not_eq_true,Path.beforeIff,not_lt]
  have sorted : (x.inPathOrder paths).Pairwise fun p q =>
      (!(q.relativeTo x.root).before (p.relativeTo x.root)) = true := by
    refine List.pairwise_mergeSort (fun a b c ab bc => ?_) (fun a b => ?_) paths
    · rw [upTo] at *
      exact ab.trans bc
    · rw [Bool.or_eq_true,upTo,upTo]
      exact le_total _ _
  have distinct : (x.inPathOrder paths).Pairwise fun p q =>
      (p.relativeTo x.root).parts ≠ (q.relativeTo x.root).parts :=
    List.pairwise_map.mp (((List.mergeSort_perm paths _).map _).nodup_iff.mpr apart)
  refine List.pairwise_map.mpr ((sorted.and distinct).imp fun ⟨notAfter,other⟩ => ?_)
  rw [Path.beforeIff]
  exact ((upTo _ _).mp notAfter).lt_of_ne fun same => other (Path.keyInj.mp same)

theorem undisturbedInAnyOrder (calm : paths.Pairwise fun p q => ¬ x.Disturbs s p q ∧ ¬ x.Disturbs s q p)
    (same : paths'.Perm paths) : x.Undisturbed s paths' :=
  ((same.pairwise_iff And.symm).mpr calm).imp And.left

/-- In whatever order files are given, their diagnostics come file by file in the order of the relative
paths, and within a file by line, column and code; as many files are counted as can be parsed. -/
theorem sameFindingsInAnyOrder {texts : List String} (lenient : x.isStrict = false)
    (readable : ∀ p ∈ texts.map Path.ofString, (s.read? p).isSome)
    (apart : ((texts.map Path.ofString).map fun p => (p.relativeTo x.root).parts).Nodup)
    (calm : (texts.map Path.ofString).Pairwise fun p q => ¬ x.Disturbs s p q ∧ ¬ x.Disturbs s q p) :
    ∀ paths, paths.Perm (texts.map Path.ofString) →
      (x.runOn s paths).map Progress.findings = .ok
        ⟨((x.inPathOrder (texts.map Path.ofString)).filterMap (x.checked? s)).flatMap fun r =>
            r.diagnostics.mergeSort fun a b => !b.beforeInFile a,
          ((texts.map Path.ofString).filterMap (x.checked? s)).length⟩ := by
  intro paths same
  have found := surveyLenient lenient fun p mem => readable p (same.mem_iff.mp mem)
  have own : ∀ p ∈ paths, ∀ d ∈ (x.checked? s p).toList.flatMap (·.diagnostics),
      d.filePath.parts = (p.relativeTo x.root).parts := by
    intro p mem d listed
    obtain ⟨r,checked,raised⟩ := List.mem_flatMap.mp listed
    obtain ⟨text,_,rfl⟩ := List.mem_map.mp (same.mem_iff.mp mem)
    exact diagnosticFile (Option.mem_toList.mp checked) raised
  have apart' := (same.map fun p => (p.relativeTo x.root).parts).nodup_iff.mpr apart
  have ordered := (List.mergeSort_perm (texts.map Path.ofString) fun p q =>
    !(q.relativeTo x.root).before (p.relativeTo x.root)).trans same.symm
  have covered : ∀ d ∈ paths.flatMap fun p => (x.checked? s p).toList.flatMap (·.diagnostics),
      ∃ q ∈ (x.inPathOrder (texts.map Path.ofString)).map fun p => p.relativeTo x.root,
        d.filePath.parts = q.parts := by
    intro d listed
    obtain ⟨p,mem,raised⟩ := List.mem_flatMap.mp listed
    exact ⟨_,List.mem_map_of_mem (ordered.mem_iff.mpr mem),own p mem d raised⟩
  have byFile := Report.inOrderByFile (inPathOrderPairwise apart) covered
  have count := (same.filterMap (x.checked? s)).length_eq
  rw [runOnSurvey (undisturbedInAnyOrder calm same),found,count]
  simp only [Except.map,List.filterMap_eq_flatMap_toList,List.flatMap_assoc,byFile,List.flatMap_map]
  congr 2
  refine List.flatMap_congr fun p mem => ?_
  -- diagnostics of one file are still in the order in which its checkers raised them
  rw [filterOwn own apart' (ordered.mem_iff.mp mem)]
  cases x.checked? s p <;> simp

theorem threeFilesInTwoOrders :
    let x := recording "log.txt" [] []
      [Rule.AttributeName.checker,Rule.RangeCall.checker,Rule.VisitRecord.checker (some "log.txt")]
    let s := storeOf [("a.py","range(0, 3); getattr(a, 'b')\n"),("b.py","(\n"),("c.py","range(0, 5)\n")]
    let texts := ["/c.py","/b.py","/a.py"]
    let paths := texts.map Path.ofString
    x.isStrict = false ∧ (∀ p ∈ paths, (s.read? p).isSome) ∧
    (paths.map fun p => (p.relativeTo x.root).parts).Nodup ∧
    (paths.Pairwise fun p q => ¬ x.Disturbs s p q ∧ ¬ x.Disturbs s q p) ∧
    (paths.filterMap (x.checked? s)).map (fun r => r.diagnostics.map (·.code)) = [["C7620"],["C7630","C7620"]] ∧
    (x.runOn s paths).map Progress.findings = .ok
      ⟨((x.inPathOrder paths).filterMap (x.checked? s)).flatMap fun r =>
        r.diagnostics.mergeSort fun a b => !b.beforeInFile a,2⟩ ∧
    (x.runOn s paths.reverse).map Progress.findings = (x.runOn s paths).map Progress.findings := by
  intro x s texts paths
  have readable : ∀ p ∈ paths, (s.read? p).isSome := by decide +kernel
  have apart : (paths.map fun p => (p.relativeTo x.root).parts).Nodup := by decide +kernel
  have away : ∀ p ∈ paths, ∀ q ∈ paths, ¬ x.Disturbs s p q :=
    undisturbedElsewhere "log.txt" ["log.txt"] (by decide +kernel) (by decide +kernel) (by decide +kernel)
  have calm : paths.Pairwise fun p q => ¬ x.Disturbs s p q ∧ ¬ x.Disturbs s q p :=
    List.pairwise_of_forall_mem_list fun p here q there => ⟨away p here q there,away q there p here⟩
  have codes : (paths.filterMap (x.checked? s)).map (fun r => r.diagnostics.map (·.code)) =
      [["C7620"],["C7630","C7620"]] := by decide +kernel
  have count : (paths.filterMap (x.checked? s)).length = 2 := by
    simpa using congrArg List.length codes
  have all := sameFindingsInAnyOrder (x := x) rfl readable apart calm
  have first := all paths (.refl _)
  have second := all paths.reverse (List.reverse_perm _)
  rw [count] at first
  exact ⟨rfl,readable,apart,calm,codes,first,second.trans (by rw [first,count])⟩

theorem recordInTwoOrders :
    let x := recording "/b.py" [] [] [Rule.VisitRecord.checker (some "/b.py")]
    let s := storeOf [("a.py","x\n"),("b.py","x\n")]
    let paths := [Path.ofString "/a.py",Path.ofString "/b.py"]
    x.isStrict = false ∧ (∀ p ∈ paths, (s.read? p).isSome) ∧
    (paths.map fun p => (p.relativeTo x.root).parts).Nodup ∧ paths.reverse.Perm paths ∧
    (x.runOn s paths).toOption.map (fun p => p.findings.filesChecked) = some 1 ∧
    (x.runOn s paths.reverse).toOption.map (fun p => p.findings.filesChecked) = some 2 ∧
    (x.runOn s paths.reverse).map Progress.findings ≠ (x.runOn s paths).map Progress.findings := by
  intro x s paths
  have forwards : (x.runOn s paths).toOption.map (fun p => p.findings.filesChecked) = some 1 := by
    rw [runOnNumbers fun _ files => files]
    decide +kernel
  have backwards : (x.runOn s paths.reverse).toOption.map (fun p => p.findings.filesChecked) = some 2 := by
    rw [runOnNumbers fun _ files => files]
    decide +kernel
  refine ⟨rfl,by decide +kernel,by decide +kernel,List.reverse_perm _,forwards,backwards,fun same => ?_⟩
  cases first : x.runOn s paths with
  | error e => simp [first,Except.toOption] at forwards
  | ok p =>
    cases second : x.runOn s paths.reverse with
    | error e => simp [second,Except.toOption] at backwards
    | ok q =>
      simp only [first,second,Except.map,Except.ok.injEq] at same
      simp only [first,second,Except.toOption,Option.map_some,Option.some.injEq,same] at forwards backwards
      omega

end ConventionLint.Inspection
