import ConventionLint.Proofs.Annotation.Matcher
import ConventionLint.Proofs.Annotation.Told
import ConventionLint.Proofs.Check.Notes
import ConventionLint.Rule.Preset

/-! All the notes that the rules make: with which messages, at which nodes and lines, and what they quote. -/
namespace ConventionLint.Rule
open Annotation
open Check (File Handler Note)
open Report (Message)
open ConventionLint.Tree (NodeId)

inductive Excerpt (t : Tree) : Message → NodeId → String → Prop where
  | compared {i j : NodeId} (first : (t.args i).head? = some j) :
      Excerpt t PreciseAssert.wrongAssert i (t.source j)
  | used {i j : NodeId} (first : (t.args i).head? = some j) :
      Excerpt t FeatureToggle.illegalUsage i (t.source j)
  | flag {i v : NodeId} (given : t.keywordValue? i "flag_name" = some v) :
      Excerpt t FeatureToggle.needsDocumentation i (FeatureToggle.shown t v)
  | second {i j : NodeId} (given : (t.args i)[1]? = some j) :
      Excerpt t FeatureToggle.needsDocumentation i (t.source j)
  | key {i k : NodeId} (listed : k ∈ (t.entries i).map Prod.fst) :
      Excerpt t FeatureToggle.needsDocumentation i (FeatureToggle.shown t k)

def RequiredBase.texts (settings : Config) : List String :=
  ((settings.checker? "required-base-class-checker").map fun s => s.strings "required_base_class").getD []

def missingMessages : List Message := [ ToggleAnnotation.missingAnnotation, EventAnnotation.missingAnnotation]

def incorrectMessages : List Message := [ ToggleAnnotation.incorrectAnnotation, EventAnnotation.incorrectAnnotation]

inductive Fixed : Message → List String → Prop where
  | localized {name : String} (listed : name ∈ LocalizedText.functions) : Fixed LocalizedText.notLiteral [name]
  | range {name : String} (listed : name ∈ RangeCall.functions) (better : RangeCall.Shorter) :
      Fixed RangeCall.simplifiable [name,better.text]
  | attributeName {name : String} (listed : name ∈ ["getattr","setattr","delattr"]) :
      Fixed AttributeName.literalName [name]
  | load {function suffix : String} (known : YamlLoad.suffix? function = some suffix) :
      Fixed YamlLoad.unsafeLoad [suffix,suffix]
  | assertion {method replacement : String} (listed : PlainAssert.replacements.lookup method = some replacement) :
      Fixed PlainAssert.avoid [method,replacement]
  | toggle : Fixed FeatureToggle.needsDocumentation [FeatureToggle.unknown]
  | usage : Fixed FeatureToggle.illegalUsage [FeatureToggle.unknown]
  | bare {m : Message} (listed : m ∈ ToggleAnnotation.directImport :: missingMessages) : Fixed m []

def groupMessages : List Message :=
  [AnnotationGroups.invalidChoice,AnnotationGroups.duplicateToken,AnnotationGroups.missingToken,
   AnnotationGroups.unknownToken, ToggleAnnotation.noName, ToggleAnnotation.emptyDescription,
   ToggleAnnotation.noRemovalDate, ToggleAnnotation.nonBooleanDefault, SettingAnnotation.booleanDefault,
   EventAnnotation.noType, EventAnnotation.noName, EventAnnotation.noData, EventAnnotation.emptyDescription]

inductive Noted (settings : Config) (f : File) : Note → Prop where
  | fixed {m : Message} {i : NodeId} {args : List String} (given : Fixed m args) : Noted settings f (.at m i args)
  | method {m : Message} {i j : NodeId} {name : String} {c : Inference.ClassId}
      (listed : m ∈ [ParentCall.notCalled,ParentCall.calledElsewhere]) (named : f.tree.name? j = some name) :
      Noted settings f (.at m i [name,f.model.className c])
  | inherited {i : NodeId} {c above : Inference.ClassId} :
      Noted settings f (.at InheritedTests.inheritsTests i [f.model.className c,f.model.className above])
  | documented {m : Message} {i : NodeId} {c : Inference.ClassId} (listed :
      m ∈ [FilterDocstring.missingDescription,FilterDocstring.missingType,FilterDocstring.missingTrigger]) :
      Noted settings f (.at m i [f.model.className c])
  | based {i : NodeId} {c : Inference.ClassId} {required : List String}
      (set : ∀ s ∈ required, ∃ text ∈ RequiredBase.texts settings, ∃ r,
        RequiredBase.Requirement.ofText? text = some r ∧ r.parent = s) :
      Noted settings f (.at RequiredBase.missingBase i [f.model.className c,", ".intercalate required])
  | toggleClass {i : NodeId} :
      Noted settings f (.at FeatureToggle.needsDocumentation i [(f.tree.name? i).getD ""])
  | excerpt {m : Message} {i : NodeId} {s : String} (shown : Excerpt f.tree m i s) :
      Noted settings f (.at m i [s])
  | compared {i : NodeId} {s assertion operator better : String} {withNone : Bool}
      (shown : Excerpt f.tree PreciseAssert.wrongAssert i s) (listed : assertion ∈ ["assertTrue","assertFalse"])
      (known : PreciseAssert.better? withNone operator = some better) :
      Noted settings f (.at PreciseAssert.wrongAssert i [assertion ++ "(" ++ s ++ ") should be " ++ better])
  | grouped {m : Message} {g : Group} {line : Nat} {args : List String} (listed : m ∈ groupMessages)
      (there : g ∈ f.groups) (covers : g.Covers line) (told : ∀ a ∈ args, g.Tells a) :
      Noted settings f (.atLine m line args)
  | mismatched {m : Message} {i : NodeId} {found annotated : String}
      (listed : m ∈ incorrectMessages)
      (given : ∃ g ∈ f.groups, g.Tells found) (other : ∃ g ∈ f.groups, g.Tells annotated) :
      Noted settings f (.at m i [found,annotated])
  | visited {record : String} : Noted settings f (.visited record)

section Nodes
variable {settings : Config} {f : File} {i : NodeId}

theorem parentCallNotes (methods : List String) : ∀ n ∈ ParentCall.notes methods f i, Noted settings f n := by
  unfold ParentCall.notes
  split
  · next named _ =>
    split
    · refine List.forall_mem_append.mpr ⟨List.forall_mem_map.mpr fun e _ => ?_,List.forall_mem_map.mpr fun p _ => ?_⟩
      · exact .method (by simp) named
      · exact .method (by simp) named
    · exact nofun
  · exact nofun

theorem inheritedTestsNotes : ∀ n ∈ InheritedTests.notes f i, Noted settings f n := by
  intro n mem
  obtain ⟨a,-,rfl⟩ := Option.map_eq_some_iff.mp (Option.mem_toList.mp mem)
  exact .inherited

theorem calleeListed {t : Tree} {names : List String} {name : String} (found : t.calleeIn? names i = some name) :
    name ∈ names := by
  obtain ⟨_,listed⟩ := Option.filter_eq_some_iff.mp found
  simpa using listed

theorem localizedTextNotes : ∀ n ∈ LocalizedText.notes f i, Noted settings f n := by
  unfold LocalizedText.notes
  split
  · exact nofun
  · next name found =>
    split
    · exact nofun
    · exact List.forall_mem_singleton.mpr (.fixed (.localized (calleeListed found)))

theorem rangeCallNotes : ∀ n ∈ RangeCall.notes f i, Noted settings f n := by
  unfold RangeCall.notes
  split
  · next name better found _ => exact List.forall_mem_singleton.mpr (.fixed (.range (calleeListed found) better))
  · exact nofun

theorem attributeNameNotes : ∀ n ∈ AttributeName.notes f i, Noted settings f n := by
  unfold AttributeName.notes
  split
  · exact nofun
  · next name found =>
    dsimp only
    split
    · exact List.forall_mem_singleton.mpr (.fixed (.attributeName (calleeListed found)))
    · exact nofun

theorem yamlLoadNotes : ∀ n ∈ YamlLoad.notes f i, Noted settings f n := by
  unfold YamlLoad.notes
  split
  · next suffix found =>
    obtain ⟨func,_,known⟩ := Option.bind_eq_some_iff.mp found
    exact List.forall_mem_singleton.mpr (.fixed (.load known))
  · exact nofun

theorem plainAssertNotes : ∀ n ∈ PlainAssert.notes f i, Noted settings f n := by
  intro n mem
  simp only [PlainAssert.notes,Option.mem_toList,bind,Option.bind_eq_some_iff] at mem
  obtain ⟨method,_,replacement,listed,same⟩ := mem
  cases same
  exact .fixed (.assertion listed)

theorem preciseAssertNotes : ∀ n ∈ PreciseAssert.notes f i, Noted settings f n := by
  intro n mem
  simp only [PreciseAssert.notes,Option.mem_toList,bind,Option.bind_eq_some_iff] at mem
  obtain ⟨assertion,_,compare,first,rest⟩ := mem
  split at rest
  · simp only [Option.bind_some,Option.bind_eq_some_iff] at rest
    obtain ⟨operator,asserted,better,known,same⟩ := rest
    cases same
    refine .compared (.compared first) ?_ known
    unfold PreciseAssert.assertedOperator? at asserted
    split at asserted
    · simp
    · simp
    · cases asserted
  · cases rest

theorem filterDocstringNotes : ∀ n ∈ FilterDocstring.notes f i, Noted settings f n := by
  unfold FilterDocstring.notes
  split
  · refine List.forall_mem_map.mpr fun m mem => .documented ?_
    simp only [FilterDocstring.missingSections,List.mem_append,List.mem_ite_nil_left,List.mem_singleton] at mem
    rcases mem with (⟨_,rfl⟩ | ⟨_,rfl⟩) | ⟨_,rfl⟩ <;> simp
  · exact nofun

theorem requiredBaseNotes : ∀ n ∈ RequiredBase.notes
    ((RequiredBase.texts settings).filterMap RequiredBase.Requirement.ofText?) f i, Noted settings f n := by
  unfold RequiredBase.notes
  dsimp only
  split
  · exact nofun
  · refine List.forall_mem_map.mpr fun required unmet => .based fun s mem => ?_
    obtain ⟨child,_,rfl⟩ := List.mem_map.mp (List.mem_filter.mp unmet).1
    obtain ⟨r,listed,rfl⟩ := List.mem_map.mp (List.mem_eraseDups.mp (List.mem_mergeSort.mp mem))
    obtain ⟨text,configured,read⟩ := List.mem_filterMap.mp (List.mem_filter.mp listed).1
    exact ⟨text,configured,r,read,rfl⟩

theorem toggleCallNotes : ∀ n ∈ FeatureToggle.notesOnCall f i, Noted settings f n := by
  unfold FeatureToggle.notesOnCall
  split
  · exact nofun
  · refine List.forall_mem_append.mpr ⟨?_,?_⟩
    · split
      · refine List.forall_mem_singleton.mpr ?_
        unfold FeatureToggle.toggleName
        split
        · next given => exact .excerpt (.flag given)
        · next given => exact .excerpt (.second given)
        · exact .fixed .toggle
      · exact nofun
    · split
      · refine List.forall_mem_singleton.mpr ?_
        cases first : (f.tree.args i).head? with
        | none => exact .fixed .usage
        | some j => exact .excerpt (.used first)
      · exact nofun

theorem toggleClassNotes : ∀ n ∈ FeatureToggle.notesOnClass f i, Noted settings f n := by
  unfold FeatureToggle.notesOnClass
  split
  · split
    · exact nofun
    · exact List.forall_mem_singleton.mpr .toggleClass
  · exact nofun

theorem toggleDictNotes : ∀ n ∈ FeatureToggle.notesOnDict f i, Noted settings f n := by
  unfold FeatureToggle.notesOnDict
  split
  · exact List.forall_mem_map.mpr fun k mem => .excerpt (.key (List.mem_filter.mp mem).1)
  · exact nofun

end Nodes

section Groups
variable {settings : Config} {f : File} {i : NodeId} {g part : Group}

theorem annotationGroupsNotes : ∀ n ∈ AnnotationGroups.notes f i, Noted settings f n := by
  refine List.forall_mem_flatMap.mpr fun g there => ?_
  unfold AnnotationGroups.notesOnGroup
  extract_lets parts problems
  split
  · exact nofun
  · refine List.forall_mem_append.mpr ⟨fun n mem => ?_,List.forall_mem_map.mpr fun t mem => ?_⟩
    · obtain ⟨e,checked,inside⟩ := List.mem_flatMap.mp mem
      obtain ⟨family,among,made⟩ := List.mem_filterMap.mp checked
      obtain ⟨part,found,rfl⟩ := Option.map_eq_some_iff.mp made
      obtain ⟨problem,listed,rfl⟩ := List.mem_map.mp inside
      have known : family ∈ families := by
        simp only [AnnotationGroups.checkedFamilies,List.mem_cons,List.not_mem_nil,or_false] at among
        rcases among with rfl | rfl <;> simp [families]
      have told := problemTells known listed
      have covers := restrictCovers found coversOwn
      cases problem <;>
        exact .grouped (by simp [groupMessages]) there covers fun a mem =>
          restrictTells found (told a mem)
    · obtain ⟨e,listed,rfl⟩ := List.mem_map.mp (List.mem_filter.mp mem).1
      exact .grouped (by simp [groupMessages]) there coversOwn (List.forall_mem_singleton.mpr (.token listed))

def IsGroupNote (part : Group) (n : Note) : Prop :=
  ∃ m args, m ∈ groupMessages ∧ (∀ a ∈ args, part.Tells a) ∧ n = .atLine m part.line args

theorem familyNotes (family : Family) {notes : Group → List Note}
    (own : ∀ part, ∀ n ∈ notes part, IsGroupNote part n) :
    ∀ n ∈ (family.groups f.groups).flatMap notes, Noted settings f n := by
  refine List.forall_mem_flatMap.mpr fun part mem n noted => ?_
  obtain ⟨g,there,found⟩ := List.mem_filterMap.mp mem
  obtain ⟨m,args,listed,told,rfl⟩ := own part n noted
  exact .grouped listed there (restrictCovers found coversOwn) fun a mem =>
    restrictTells found (told a mem)

theorem settingNotes : ∀ n ∈ SettingAnnotation.notes f i, Noted settings f n := by
  refine familyNotes _ fun part => ?_
  unfold SettingAnnotation.notesOnGroup
  split
  · refine List.forall_mem_singleton.mpr ⟨_,_,?_,List.forall_mem_singleton.mpr getTells,rfl⟩
    simp [groupMessages]
  · exact nofun

theorem toggleGroupNotes (part : Group) : ∀ n ∈ ToggleAnnotation.notesOnGroup part, IsGroupNote part n := by
  have each {amiss : Bool} {m : Message} {args : List String} (listed : m ∈ groupMessages)
      (told : ∀ a ∈ args, part.Tells a) :
      ∀ n ∈ ToggleAnnotation.noteIf amiss m part args, IsGroupNote part n := by
    unfold ToggleAnnotation.noteIf
    split
    · exact List.forall_mem_singleton.mpr ⟨m,args,listed,told,rfl⟩
    · exact nofun
  have name : ∀ a ∈ [ ToggleAnnotation.valueOf part ".. toggle_name:"], part.Tells a :=
    List.forall_mem_singleton.mpr getTells
  simp only [ ToggleAnnotation.notesOnGroup,List.forall_mem_append]
  refine ⟨⟨⟨each ?_ nofun,each ?_ name⟩,each ?_ name⟩,each ?_ name⟩ <;> simp [groupMessages]

theorem eventGroupNotes (part : Group) : ∀ n ∈ EventAnnotation.notesOnGroup part, IsGroupNote part n := by
  have each {token : String} {m : Message} {args : List String} (listed : m ∈ groupMessages)
      (told : ∀ a ∈ args, part.Tells a) :
      ∀ n ∈ EventAnnotation.noteIfEmpty token m args part, IsGroupNote part n := by
    unfold EventAnnotation.noteIfEmpty
    split
    · exact List.forall_mem_singleton.mpr ⟨m,args,listed,told,rfl⟩
    · exact nofun
  have type : ∀ a ∈ [(part.get? ".. event_type:").getD ""], part.Tells a :=
    List.forall_mem_singleton.mpr getTells
  simp only [ EventAnnotation.notesOnGroup,List.forall_mem_append]
  refine ⟨⟨⟨each ?_ nofun,each ?_ type⟩,each ?_ type⟩,each ?_ type⟩ <;> simp [groupMessages]

theorem importNotes : ∀ n ∈ ToggleAnnotation.notesOnImport f i, Noted settings f n := by
  unfold ToggleAnnotation.notesOnImport
  split
  · exact List.forall_mem_singleton.mpr (.fixed (.bare List.mem_cons_self))
  · exact nofun

theorem importFromNotes : ∀ n ∈ ToggleAnnotation.notesOnImportFrom f i, Noted settings f n := by
  unfold ToggleAnnotation.notesOnImportFrom
  split
  · exact List.forall_mem_singleton.mpr (.fixed (.bare List.mem_cons_self))
  · exact nofun

variable {s : AnnotatedCall.Subject}

theorem startKeeps {onGroup : Group → List Note} (own : ∀ part, ∀ n ∈ onGroup part, IsGroupNote part n) :
    (AnnotatedCall.start s onGroup).Keeps f (·.Within (s.family.named f.groups)) (Noted settings f) :=
  fun _ _ _ => ⟨withinOfGroups,familyNotes _ own⟩

theorem gatherKeeps :
    (AnnotatedCall.gather s).Keeps f (·.Within (s.family.named f.groups)) (Noted settings f) := by
  intro i m within
  unfold AnnotatedCall.gather
  dsimp only
  split
  · exact ⟨within,nofun⟩
  · exact ⟨withinPush within _,nofun⟩

theorem finishKeeps (missing : s.missing ∈ missingMessages) (incorrect : s.incorrect ∈ incorrectMessages) :
    (AnnotatedCall.finish s).Keeps f (·.Within (s.family.named f.groups)) (Noted settings f) := by
  intro i m within
  obtain ⟨left,outcomes⟩ := withinResolve within
  refine ⟨left,List.forall_mem_flatMap.mpr fun x mem => ?_⟩
  obtain ⟨site,outcome⟩ := x
  cases outcome with
  | matched => exact nofun
  | missing => exact List.forall_mem_singleton.mpr (.fixed (.bare (List.mem_cons_of_mem _ missing)))
  | incorrect found annotated =>
    have ⟨given,other⟩ := outcomes _ mem found annotated rfl
    exact List.forall_mem_singleton.mpr (.mismatched incorrect (namedTells given) (namedTells other))

theorem callsKeep {onGroup : Group → List Note} (own : ∀ part, ∀ n ∈ onGroup part, IsGroupNote part n)
    (missing : s.missing ∈ missingMessages) (incorrect : s.incorrect ∈ incorrectMessages) :
    ∀ h ∈ [AnnotatedCall.start s onGroup,AnnotatedCall.finish s,AnnotatedCall.gather s],
      h.Keeps f (·.Within (s.family.named f.groups)) (Noted settings f) :=
  List.forall_mem_cons.mpr ⟨startKeeps own,List.forall_mem_cons.mpr ⟨finishKeeps missing incorrect,
    List.forall_mem_singleton.mpr gatherKeeps⟩⟩

theorem asideKeeps {nodeType : String} {notes : File → NodeId → List Note} {I : Matcher → Prop} {P : Note → Prop}
    (own : ∀ i, ∀ n ∈ notes f i, P n) : ( ToggleAnnotation.aside nodeType notes).Keeps f I P :=
  fun i _ kept => ⟨kept,own i⟩

theorem toggleAnnotationNotes : ∀ n ∈ ToggleAnnotation.checker.notes f, Noted settings f n := by
  refine Check.Checker.notesKeep (I := (·.Within ( ToggleAnnotation.subject.family.named f.groups)))
    withinNothing fun h mem => ?_
  rcases List.mem_append.mp (show h ∈ [_,_,_] ++ [_,_] from mem) with mem | mem
  · exact callsKeep toggleGroupNotes List.mem_cons_self List.mem_cons_self h mem
  · rcases List.mem_pair.mp mem with rfl | rfl
    · exact asideKeeps fun _ => importNotes
    · exact asideKeeps fun _ => importFromNotes

theorem eventAnnotationNotes : ∀ n ∈ EventAnnotation.checker.notes f, Noted settings f n :=
  Check.Checker.notesKeep (I := (·.Within ( EventAnnotation.subject.family.named f.groups)))
    withinNothing (callsKeep eventGroupNotes (List.mem_cons_of_mem _ List.mem_cons_self)
      (List.mem_cons_of_mem _ List.mem_cons_self))

theorem featureToggleNotes : ∀ n ∈ FeatureToggle.checker.notes f, Noted settings f n :=
  Check.Checker.notesKeep (I := fun _ => True) trivial
    (List.forall_mem_cons.mpr ⟨Check.simpleKeeps fun _ => toggleCallNotes,
      List.forall_mem_cons.mpr ⟨Check.simpleKeeps fun _ => toggleClassNotes,
        List.forall_mem_singleton.mpr (Check.simpleKeeps fun _ => toggleDictNotes)⟩⟩)

end Groups

theorem builtInNotes (settings : Config) (f : File) :
    ∀ c ∈ all settings, ∀ n ∈ c.notes f, Noted settings f n := by
  intro c mem
  simp only [all,recommended,List.cons_append,List.nil_append,List.mem_cons,List.not_mem_nil,or_false] at mem
  rcases mem with rfl | rfl | rfl | rfl | rfl | rfl | rfl | rfl | rfl | rfl | rfl | rfl | rfl | rfl | rfl | rfl
  · exact Check.statelessNotes fun _ => parentCallNotes _
  · exact Check.statelessNotes fun _ => inheritedTestsNotes
  · exact Check.statelessNotes fun _ => localizedTextNotes
  · exact Check.statelessNotes fun _ => rangeCallNotes
  · exact Check.statelessNotes fun _ => attributeNameNotes
  · exact featureToggleNotes
  · exact Check.statelessNotes fun _ => requiredBaseNotes
  · exact Check.statelessNotes fun _ => annotationGroupsNotes
  · exact toggleAnnotationNotes
  · exact Check.statelessNotes fun _ => settingNotes
  · exact eventAnnotationNotes
  · exact Check.statelessNotes fun _ => filterDocstringNotes
  · exact Check.statelessNotes fun _ => preciseAssertNotes
  · exact Check.statelessNotes fun _ => yamlLoadNotes
  · exact Check.statelessNotes fun _ => plainAssertNotes
  · exact Check.statelessNotes fun _ => List.forall_mem_map.mpr fun _ _ => .visited

theorem Noted.covers {settings : Config} {f : File} {n : Note} {line : Nat} (noted : Noted settings f n)
    (found : n.line? = some line) : ∃ g ∈ f.groups, g.Covers line := by
  cases noted with
  | grouped _ there covers => exact ⟨_,there,Option.some.inj found ▸ covers⟩
  | _ => cases found

theorem builtInAnchors (settings : Config) : ∀ c ∈ all settings, c.Anchors := fun c listed =>
  ⟨fun f n mem _ found => (builtInNotes settings f c listed n mem).covers found⟩

end ConventionLint.Rule
