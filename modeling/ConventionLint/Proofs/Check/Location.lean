import ConventionLint.Inspection.Basic
import ConventionLint.Proofs.Annotation.Blocks
import ConventionLint.Proofs.Grammar.Lines
import ConventionLint.Proofs.Rule.Notes
import ConventionLint.Proofs.Tree.Places

/-! The locations of diagnostics. A location has a line, a column and an offset, found in different ways for
a node and for a line; they always belong to one place of the decoded text. -/
namespace ConventionLint
open Grammar (Position PlaceOf linesSize)

structure Report.Location.Fits (text : List Char) (l : Report.Location) : Prop where
  line : 1 ≤ l.line
  column : 1 ≤ l.column
  offset : l.offset = linesSize text (l.line - 1) + (l.column - 1)
  inside : l.offset + l.length ≤ Text.Utf8.size text
  place : PlaceOf text ⟨l.line,l.column - 1,l.offset⟩

namespace Annotation
variable {text : List Char} {n : Nat}

theorem lineNumbered {line : List Char} (mem : (n,line) ∈ Text.numberedLines text) :
    1 ≤ n ∧ n ≤ (Text.segments text).length := by
  simp only [Text.numberedLines,List.mem_map,Prod.mk.injEq,Prod.exists] at mem
  obtain ⟨_,_,listed,rfl,rfl⟩ := mem
  obtain ⟨positive,bound,_⟩ := List.mem_zipIdx listed
  rw [Text.lines,List.length_map] at bound
  omega

theorem entryNumbered {g : Group} (there : g ∈ groupsOf text) {e : Entry} (mem : e ∈ g.entries) :
    1 ≤ e.line ∧ e.line ≤ (Text.segments text).length := by
  have listed : (e.line,e.token) ∈ ((groupsOf text).flatMap Group.entries).map fun e => (e.line,e.token) :=
    List.mem_map_of_mem (List.mem_flatMap.mpr ⟨g,there,mem⟩)
  rw [groupTokens,List.mem_filterMap] at listed
  obtain ⟨⟨m,line⟩,numbered,found⟩ := listed
  obtain ⟨_,_,same⟩ := Option.map_eq_some_iff.mp found
  obtain ⟨rfl,_⟩ := Prod.mk.inj same
  exact lineNumbered numbered

theorem coveredNumbered {g : Group} (there : g ∈ groupsOf text) (covers : g.Covers n) :
    1 ≤ n ∧ n ≤ (Text.segments text).length := by
  have own : ∃ e ∈ g.entries, g.line = e.line := by
    rw [groupsOfBlocks] at there
    obtain ⟨block,_,made⟩ := List.mem_filterMap.mp there
    obtain ⟨e,first,rfl⟩ := Option.map_eq_some_iff.mp made
    exact ⟨e,List.mem_of_head? first,rfl⟩
  rcases covers with rfl | ⟨e,mem,rfl⟩
  · obtain ⟨e,mem,same⟩ := own
    exact same ▸ entryNumbered there mem
  · exact entryNumbered there mem

end Annotation

namespace Check
variable {f : File} {text : List Char}

theorem offsetFromLines (before n : Nat) (pieces : List (List Char)) :
    File.offsetFrom 1 before (n + 1) pieces =
      before + Text.Utf8.size (pieces.take n).flatten := by
  induction pieces generalizing before n with
  | nil => simp [File.offsetFrom,Text.Utf8.size]
  | cons piece pieces ih =>
    cases n with
    | zero => rfl
    | succ n => simp [File.offsetFrom,ih,Text.Utf8.sizeAppend,Nat.add_assoc]

theorem offsetAtLine {n : Nat} (positive : 1 ≤ n) : f.offsetAt n 1 = linesSize f.text (n - 1) := by
  obtain ⟨m,rfl⟩ : ∃ m, n = m + 1 := ⟨n - 1,by omega⟩
  rw [File.offsetAt,if_neg (Nat.succ_ne_zero m),offsetFromLines,Nat.zero_add]
  rfl

theorem fitsOfPlace {file : String} {p : Position} {length : Nat} (place : PlaceOf text p)
    (inside : p.offset + length ≤ Text.Utf8.size text) :
    Report.Location.Fits text ⟨file,p.line,p.column + 1,p.offset,length⟩ := by
  have ⟨line,offset,_⟩ := Grammar.offsetByLine place
  exact ⟨line,Nat.le_add_left 1 _,offset,inside,place⟩

theorem nodeFits (parsed : Tree.parse f.text = .ok f.tree) (i : Tree.NodeId) :
    ((Place.node i).location f).Fits f.text := by
  have ⟨start,stop⟩ := Tree.spanPlaces parsed i
  have ⟨_,_,before⟩ := Grammar.offsetByLine start
  have ⟨_,_,behind⟩ := Grammar.offsetByLine stop
  exact fitsOfPlace start (by omega)

theorem lineFits {n : Nat} (positive : 1 ≤ n) (bound : n ≤ (Text.segments f.text).length) :
    ((Place.line n).location f).Fits f.text := by
  have starts := Grammar.lineStarts positive bound
  have ⟨_,_,inside⟩ := Grammar.offsetByLine starts
  rw [Place.location,offsetAtLine positive]
  exact fitsOfPlace starts inside

theorem anchoredFits {notes : List Note} (parsed : Tree.parse f.text = .ok f.tree)
    (groups : f.groups = Annotation.groupsOf f.text) (anchored : Anchored f.groups notes) (checker : String) :
    ∀ d ∈ rawDiagnostics f checker notes, d.location.Fits f.text := by
  intro d mem
  obtain ⟨n,hn,found⟩ := List.mem_filterMap.mp mem
  cases n with
  | visited => cases found
  | finding x =>
    cases found
    obtain ⟨m,place,args⟩ := x
    cases place with
    | node i => exact nodeFits parsed i
    | line n =>
      obtain ⟨g,hg,covers⟩ := anchored _ hn n rfl
      have ⟨positive,bound⟩ := Annotation.coveredNumbered (groups ▸ hg) covers
      exact lineFits positive bound

theorem onlySeverity (config : Config) (d : Report.Diagnostic) :
    ∃ s, withSeverity config d = { d with severity := s } := by
  unfold withSeverity
  split
  · exact ⟨_,rfl⟩
  · exact ⟨d.severity,rfl⟩

theorem locationWithSeverity (config : Config) (d : Report.Diagnostic) :
    (withSeverity config d).location = d.location := by
  obtain ⟨_,same⟩ := onlySeverity config d
  rw [same]

theorem diagnosticOfNote {config : Config} {checkers : List Checker} {d : Report.Diagnostic}
    (mem : d ∈ (run config checkers f).diagnostics) :
    ∃ c ∈ checkers, ∃ finding, Note.finding finding ∈ c.notes f ∧
      d = withSeverity config (finding.diagnostic c.name f) := by
  simp only [run,List.mem_flatMap,List.mem_map,List.mem_filter] at mem
  obtain ⟨_,⟨c,enabled,rfl⟩,raw,⟨raised,_⟩,rfl⟩ := mem
  obtain ⟨n,noted,made⟩ := List.mem_filterMap.mp raised
  cases n with
  | visited => cases made
  | finding finding =>
    cases made
    exact ⟨c,(List.mem_filter.mp enabled).1,finding,noted,rfl⟩

end Check

namespace Inspection
open Check

/-- Whatever the configuration, every diagnostic of the checkers that there are has its place in the
decoded text. -/
theorem locationsFit {x : Inspection} {path : Storage.Path} {source : Text.Bytes} {r : Check.Result}
    (builtIn : ∀ c ∈ x.checkers, ∃ settings, c ∈ Rule.all settings)
    (checked : x.check path source = .ok r) :
    ∀ d ∈ r.diagnostics, d.location.Fits (Encoding.decode source).text := by
  intro d mem
  unfold check at checked
  cases parsed : Tree.parse (Encoding.decode source).text with
  | error e => simp [parsed,Except.map] at checked
  | ok t =>
    have whole : t.text = (Encoding.decode source).text := by
      obtain ⟨_,_,rfl⟩ := Tree.outlineOfParse parsed
      rfl
    simp only [parsed,Except.map,Except.ok.injEq] at checked
    subst checked
    simp only [Check.run,List.mem_flatMap,List.mem_map,List.mem_filter] at mem
    obtain ⟨_,⟨c,enabled,rfl⟩,raw,⟨raised,_⟩,rfl⟩ := mem
    obtain ⟨settings,listed⟩ := builtIn c (List.mem_filter.mp enabled).1
    have anchored := (Rule.builtInAnchors settings c listed).notes (.ofTree path x.root t)
    rw [← whole] at parsed
    rw [locationWithSeverity,← whole]
    exact anchoredFits (f := .ofTree path x.root t) parsed rfl anchored c.name raw raised

theorem callAndLineFit :
    let x : Inspection := ⟨⟨true,[]⟩,[Rule.AttributeName.checker,Rule.AnnotationGroups.checker],[],[],.default,true⟩
    let source := Text.Utf8.encode "# .. setting_name: x\nf(getattr(a, 'é'))\n".toList
    ∃ r, x.check (.ofString "/m.py") source = .ok r ∧
      r.diagnostics.map (·.location) = [⟨"m.py",2,3,23,16⟩,⟨"m.py",1,1,0,0⟩,⟨"m.py",1,1,0,0⟩] ∧
      ∀ d ∈ r.diagnostics, d.location.Fits (Encoding.decode source).text := by
  intro x source
  have builtIn : ∀ c ∈ x.checkers, ∃ settings, c ∈ Rule.all settings := by
    intro c mem
    refine ⟨.default,?_⟩
    simp only [x,List.mem_cons,List.not_mem_nil,or_false] at mem
    rcases mem with rfl | rfl <;> simp [Rule.all,Rule.recommended]
  have found : (x.check (.ofString "/m.py") source).toOption.map (fun r => r.diagnostics.map (·.location)) =
      some [⟨"m.py",2,3,23,16⟩,⟨"m.py",1,1,0,0⟩,⟨"m.py",1,1,0,0⟩] := by decide +kernel
  cases checked : x.check (.ofString "/m.py") source with
  | error e => simp [checked,Except.toOption] at found
  | ok r => exact ⟨r,rfl,by simpa [checked,Except.toOption] using found,locationsFit builtIn checked⟩

end Inspection

end ConventionLint
