import ConventionLint.Inspection.Run
import ConventionLint.Proofs.Report.Order
import ConventionLint.Proofs.Storage.Store

/-! A run reads a store that it changes, since records are written as it goes on. As long as no record is
written to a file that is read later, it finds what is found in the store as it was at the beginning. -/
namespace ConventionLint.Inspection
open Report (Findings)
open Storage (Path Store)

structure Kept (s : Store) (paths : List Path) (t : Store) : Prop where
  directories : t.SameDirectories s
  contents : ∀ path ∈ paths, t.read? path = s.read? path

section Records
variable {s t : Store} {paths : List Path} {recorded : String}

theorem Kept.refl (s : Store) (paths : List Path) : Kept s paths s :=
  ⟨⟨rfl,fun _ => rfl⟩,fun _ _ => rfl⟩

def Apart (s : Store) (paths : List Path) (record : String) : Prop :=
  ∀ path ∈ paths, ∀ k, s.locate? (.ofString record) = some k → s.locate? path ≠ some k

theorem Kept.insert (kept : Kept s paths t) {k : Storage.Key} (below : k ≠ [])
    (plain : t.isDirectoryAt k = false) (apart : ∀ path ∈ paths, s.locate? path ≠ some k)
    (content : Text.Bytes) : Kept s paths (t.insert k (.file content)) := by
  have same : (t.insert k (.file content)).SameDirectories t := .insert below plain
  refine ⟨same.trans kept.directories,fun path mem => ?_⟩
  rw [← kept.contents path mem,Store.read?,Store.read?,same.locate,kept.directories.locate]
  refine Option.bind_congr fun key found => Store.contentCongr ?_
  have other : key ≠ k := by
    rintro rfl
    exact apart path mem found
  rw [Store.entryInsert below,if_neg other]

theorem Kept.record (kept : Kept s paths t) (apart : Apart s paths recorded) (file : String) :
    Kept s paths (record t file recorded) := by
  unfold Inspection.record Store.append? Store.write?
  rw [kept.directories.locate]
  cases place : s.locate? (.ofString recorded) with
  | none => exact kept
  | some k =>
    cases plain : t.isDirectoryAt k with
    | true => simpa [plain] using kept
    | false =>
      have below : k ≠ [] := by
        rintro rfl
        simp [Store.isDirectoryAt,Store.entry?] at plain
      simp only [Option.bind_some,plain,Bool.false_eq_true,if_false,Option.getD_some]
      exact kept.insert below plain (fun path mem => apart path mem k place) _

theorem Kept.records (kept : Kept s paths t) {records : List String}
    (apart : ∀ r ∈ records, Apart s paths r) (file : String) :
    Kept s paths (records.foldl (fun s r => Inspection.record s file r) t) := by
  induction records generalizing t with
  | nil => exact kept
  | cons r records ih =>
    rw [List.forall_mem_cons] at apart
    exact ih (kept.record apart.1 file) apart.2

end Records

variable {x y : Inspection} {s t : Store} {paths : List Path} {path : Path} {p : Progress}

def look (x : Inspection) (s : Store) (path : Path) : Except RunError Findings :=
  match s.read? path with
  | none => .error (.unreadable path)
  | some source =>
    match x.check path source with
    | .error _ => if x.isStrict then .error (.unparsable path) else .ok .empty
    | .ok r => .ok ⟨r.diagnostics,1⟩

def survey (x : Inspection) (s : Store) : List Path → Except RunError Findings
  | [] => .ok .empty
  | path :: paths =>
    match x.look s path with
    | .error e => .error e
    | .ok f => (survey x s paths).map (f ++ ·)

def checked? (x : Inspection) (s : Store) (path : Path) : Option Check.Result :=
  (s.read? path).bind fun source => (x.check path source).toOption

theorem checkedSome {r : Check.Result} : x.checked? s path = some r ↔
    ∃ source, s.read? path = some source ∧ x.check path source = .ok r := by
  rw [checked?,Option.bind_eq_some_iff]
  refine exists_congr fun source => and_congr_right fun _ => ?_
  cases x.check path source <;> simp [Except.toOption]

def Disturbs (x : Inspection) (s : Store) (path other : Path) : Prop :=
  ∃ r, x.checked? s path = some r ∧ ∃ record ∈ r.records,
    ∃ k, s.locate? (.ofString record) = some k ∧ s.locate? other = some k

def Undisturbed (x : Inspection) (s : Store) (paths : List Path) : Prop :=
  paths.Pairwise fun path later => ¬ x.Disturbs s path later

theorem undisturbedElsewhere (record : String) (k : Storage.Key)
    (written : ∀ path ∈ paths, ∀ n ∈ (x.checked? s path).toList.flatMap (·.records), n = record)
    (place : s.locate? (.ofString record) = some k)
    (elsewhere : ∀ path ∈ paths, s.locate? path ≠ some k) :
    ∀ path ∈ paths, ∀ other ∈ paths, ¬ x.Disturbs s path other := by
  rintro path mem other there ⟨r,checked,n,listed,k',found,hit⟩
  have only := written path mem n (List.mem_flatMap.mpr ⟨r,Option.mem_toList.mpr checked,listed⟩)
  rw [only,place] at found
  rw [← Option.some.inj found] at hit
  exact elsewhere other there hit

theorem findingsAppend (f g : Findings) :
    f ++ g = ⟨f.diagnostics ++ g.diagnostics,f.filesChecked + g.filesChecked⟩ := rfl

theorem findingsAssoc (f g h : Findings) : f ++ g ++ h = f ++ (g ++ h) := by
  simp [findingsAppend,Nat.add_assoc]

theorem findingsEmpty (f : Findings) : f ++ .empty = f ∧ .empty ++ f = f := by
  simp [findingsAppend,Findings.empty]

theorem advanceLook (first : ∀ later ∈ paths, ¬ x.Disturbs s path later)
    (kept : Kept s (path :: paths) p.store) :
    (∃ e, x.advance p path = .error e ∧ x.look s path = .error e) ∨
    ∃ q f, x.advance p path = .ok q ∧ x.look s path = .ok f ∧ q.findings = p.findings ++ f ∧
      Kept s paths q.store := by
  have later : Kept s paths p.store := ⟨kept.directories,fun q mem => kept.contents q (.tail _ mem)⟩
  unfold advance look
  rw [kept.contents path List.mem_cons_self]
  cases read : s.read? path with
  | none => exact .inl ⟨_,rfl,rfl⟩
  | some source =>
    dsimp only
    cases checked : x.check path source with
    | error e =>
      dsimp only
      split
      · exact .inl ⟨_,rfl,rfl⟩
      · exact .inr ⟨p,.empty,rfl,rfl,(findingsEmpty _).1.symm,later⟩
    | ok r =>
      have apart : ∀ record ∈ r.records, Apart s paths record := fun record listed q mem k found same =>
        first q mem ⟨r,checkedSome.mpr ⟨source,read,checked⟩,record,listed,k,found,same⟩
      exact .inr ⟨_,⟨r.diagnostics,1⟩,rfl,rfl,rfl,later.records apart _⟩

theorem advanceAllSurvey (undisturbed : x.Undisturbed s paths) (kept : Kept s paths p.store) :
    (x.advanceAll p paths).map Progress.findings = (x.survey s paths).map (p.findings ++ ·) := by
  induction paths generalizing p with
  | nil => simp [advanceAll,survey,Except.map,findingsEmpty]
  | cons path paths ih =>
    obtain ⟨first,undisturbed⟩ := List.pairwise_cons.mp undisturbed
    rcases advanceLook first kept with ⟨e,stopped,same⟩ | ⟨q,f,advanced,looked,added,still⟩
    · simp [advanceAll,survey,stopped,same,Except.map]
    · rw [advanceAll,survey,advanced,looked]
      refine (ih undisturbed still).trans ?_
      cases x.survey s paths <;> simp [Except.map,added,findingsAssoc]

theorem runOnSurvey (undisturbed : x.Undisturbed s paths) :
    (x.runOn s paths).map Progress.findings = (x.survey s paths).map fun f =>
      ⟨Report.inOrder f.diagnostics,f.filesChecked⟩ := by
  have all := advanceAllSurvey (p := ⟨.empty,s⟩) undisturbed (.refl s paths)
  have same : x.survey s paths = (x.advanceAll ⟨.empty,s⟩ paths).map Progress.findings := by
    rw [all]
    cases x.survey s paths <;> simp [Except.map,findingsEmpty]
  rw [runOn,same]
  cases x.advanceAll ⟨.empty,s⟩ paths <;> rfl

def filtered (keep : Report.Diagnostic → Bool) (change : Report.Diagnostic → Report.Diagnostic) (f : Findings) :
    Findings := ⟨(f.diagnostics.filter keep).map change,f.filesChecked⟩

section Compared
variable {keep : Report.Diagnostic → Bool} {change : Report.Diagnostic → Report.Diagnostic}

theorem surveyFiltered (each : ∀ path, x.look s path = (y.look s path).map (filtered keep change)) :
    x.survey s paths = (y.survey s paths).map (filtered keep change) := by
  have append (f g : Findings) : filtered keep change f ++ filtered keep change g = filtered keep change (f ++ g) := by
    simp [filtered,findingsAppend]
  induction paths with
  | nil => rfl
  | cons path paths ih =>
    rw [survey,survey,each path]
    cases y.look s path with
    | error e => rfl
    | ok f =>
      simp only [Except.map] at ih ⊢
      rw [ih]
      cases y.survey s paths <;> simp [append]

theorem runOnFiltered (each : ∀ path, x.look s path = (y.look s path).map (filtered keep change))
    (order : ∀ d, (change d).key = d.key) (undisturbed : x.Undisturbed s paths)
    (undisturbed' : y.Undisturbed s paths) : (x.runOn s paths).map Progress.findings =
      (y.runOn s paths).map fun p => filtered keep change p.findings := by
  have all : (y.runOn s paths).map (fun p => filtered keep change p.findings) =
      ((y.runOn s paths).map Progress.findings).map (filtered keep change) := by
    cases y.runOn s paths <;> rfl
  rw [all,runOnSurvey undisturbed,runOnSurvey undisturbed',surveyFiltered each]
  cases y.survey s paths with
  | error e => rfl
  | ok f => simp [Except.map,filtered,Report.filterInOrder,Report.mapInOrder order]

end Compared

end ConventionLint.Inspection
