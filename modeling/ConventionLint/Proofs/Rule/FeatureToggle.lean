import ConventionLint.Proofs.Annotation.Blocks
import ConventionLint.Proofs.Check.Notes
import ConventionLint.Proofs.Check.Walk
import ConventionLint.Proofs.Tree.Arena
import ConventionLint.Rule.FeatureToggle

/-! Two views of an annotation above a call. A group reaches over all lines of its comment; the rule for
feature toggles looks at the last one alone, and that line need not be the one that names the toggle. -/
namespace ConventionLint

namespace Annotation
open Text (isBlank trimStart)

def MarkedLine (line : List Char) (word : String) : Prop :=
  ∃ indent before after rest, (∀ c ∈ indent ++ before ++ after, isBlank c = true) ∧
    line = indent ++ '#' :: (before ++ '.' :: '.' :: (after ++ (word.toList ++ rest)))

def EndsAbove (text : List Char) (g : Group) (last : List Char) (n : Nat) : Prop :=
  ∃ block ∈ blocks (Text.numberedLines text), blockGroup? block = some g ∧
    ∃ m, block.getLast? = some (m,last) ∧ m + 1 = n

section Lines
variable {text line last : List Char} {g : Group} {n : Nat}

theorem markedIff {words : List String} (dark : ∀ w ∈ words, ∃ c cs, w.toList = c :: cs ∧ isBlank c = false) :
    startsWithToken words line = true ↔ ∃ w ∈ words, MarkedLine line w := by
  constructor
  · intro starts
    unfold startsWithToken at starts
    split at starts
    · next cs found =>
      obtain ⟨_,hash,dots⟩ := Option.bind_eq_some_iff.mp found
      obtain ⟨more,atHash,rfl⟩ := afterMarkerIff.mp hash
      obtain ⟨more',atDots,rfl⟩ := afterMarkerIff.mp dots
      obtain ⟨w,listed,dropped⟩ := List.any_eq_true.mp starts
      obtain ⟨rest,drops⟩ := Option.isSome_iff_exists.mp dropped
      obtain ⟨indent,first,indentBlank⟩ := trimStartSplit line
      obtain ⟨before,second,beforeBlank⟩ := trimStartSplit more
      obtain ⟨after,third,afterBlank⟩ := trimStartSplit more'
      refine ⟨w,listed,indent,before,after,rest,?_,?_⟩
      · simp only [List.forall_mem_append]
        exact ⟨⟨indentBlank,beforeBlank⟩,afterBlank⟩
      · rw [Text.eq_append_of_dropHead? drops] at third
        conv_lhs => rw [first,atHash,second,atDots,third]
        rfl
    · cases starts
  · rintro ⟨w,listed,indent,before,after,rest,blank,rfl⟩
    simp only [List.forall_mem_append] at blank
    obtain ⟨⟨indentBlank,beforeBlank⟩,afterBlank⟩ := blank
    obtain ⟨c,cs,word,other⟩ := dark w listed
    have reached : trimStart (after ++ (w.toList ++ rest)) = w.toList ++ rest :=
      trimStartBlank afterBlank (by simp [word,other])
    have found : (afterMarker? "#" (trimStart (indent ++ '#' :: (before ++ '.' :: '.' ::
        (after ++ (w.toList ++ rest))))) >>= afterMarker? "..") = some (w.toList ++ rest) := by
      refine Option.bind_eq_some_iff.mpr ⟨trimStart (before ++ '.' :: '.' :: (after ++ (w.toList ++ rest))),
        afterMarkerIff.mpr ⟨_,trimStartBlank indentBlank (by simp [isBlank]),rfl⟩,?_⟩
      exact afterMarkerIff.mpr ⟨_,trimStartBlank beforeBlank (by simp [isBlank]),reached.symm⟩
    unfold startsWithToken
    simp only [found]
    exact List.any_eq_true.mpr ⟨w,listed,by rw [Text.dropHead?_append]; rfl⟩

theorem markedOfToken {token value word : String} (found : tokenLine? line = some (token,value))
    (plain : ':' ∉ word.toList) (begins : (".. " ++ word).toList <+: token.toList) : MarkedLine line word := by
  obtain ⟨indent,before,after,whole,behind,rest,blank,_,_,rfl,rfl,-⟩ := patternOfLine found
  have inWord : word.toList <+: whole := by
    have begins : word.toList <+: whole ++ [':'] := by simpa using begins
    rcases List.prefix_concat_iff.mp begins with all | part
    · exact absurd (by simp [all]) plain
    · exact part
  obtain ⟨more,rfl⟩ := inWord
  refine ⟨indent,before,after,more ++ (behind ++ ':' :: rest),?_,by simp⟩
  simp only [List.forall_mem_append] at blank ⊢
  exact blank.1

theorem lineOfNumbered (mem : (n,line) ∈ Text.numberedLines text) : line? text n = some line := by
  simp only [Text.numberedLines,List.mem_map,Prod.mk.injEq,Prod.exists] at mem
  obtain ⟨_,_,listed,rfl,rfl⟩ := mem
  obtain ⟨positive,_,there⟩ := List.mem_zipIdx listed
  rw [line?,if_neg (by omega),there]
  exact List.getElem?_eq_getElem _

theorem inBlocks {block : List (Nat × List Char)} (listed : block ∈ blocks (Text.numberedLines text)) :
    ∀ l ∈ block, l ∈ Text.numberedLines text := by
  intro l inside
  have all : l ∈ (blocks (Text.numberedLines text)).flatten := List.mem_flatten.mpr ⟨block,listed,inside⟩
  rw [blocksFlatten] at all
  exact (List.mem_filter.mp all).1

theorem EndsAbove.group (ends : EndsAbove text g last n) : g ∈ groupsOf text := by
  obtain ⟨block,listed,made,-⟩ := ends
  rw [groupsOfBlocks]
  exact List.mem_filterMap.mpr ⟨block,listed,made⟩

theorem EndsAbove.lastLine (ends : EndsAbove text g last n) : line? text (n - 1) = some last := by
  obtain ⟨block,listed,-,m,final,rfl⟩ := ends
  exact lineOfNumbered (inBlocks listed _ (List.mem_of_getLast? final))

theorem EndsAbove.entry (ends : EndsAbove text g last n) {e : Entry} (mem : e ∈ g.entries)
    (here : e.line + 1 = n) : ∃ value, tokenLine? last = some (e.token,value) := by
  obtain ⟨block,listed,made,m,final,rfl⟩ := ends
  obtain rfl : e.line = m := by omega
  obtain ⟨first,_,rfl⟩ := Option.map_eq_some_iff.mp made
  have tokens : (e.line,e.token) ∈ (entriesOf block).map fun e => (e.line,e.token) :=
    List.mem_map_of_mem mem
  rw [entriesByToken,List.mem_filterMap] at tokens
  obtain ⟨⟨m,line⟩,inside,found⟩ := tokens
  obtain ⟨⟨token,value⟩,reads,same⟩ := Option.map_eq_some_iff.mp found
  obtain ⟨rfl,rfl⟩ := Prod.mk.inj same
  have lines : line? text e.line = some line := lineOfNumbered (inBlocks listed _ inside)
  have lastLine : line? text e.line = some last :=
    lineOfNumbered (inBlocks listed _ (List.mem_of_getLast? final))
  obtain rfl : line = last := Option.some.inj (lines.symm.trans lastLine)
  exact ⟨value,reads⟩

end Lines
end Annotation

namespace Rule.FeatureToggle
open Annotation Check
open ConventionLint.Tree (NodeId)

section Calls
variable {t : Tree} {f : File} {i : NodeId} {name : String}

def Asks (f : File) (i : NodeId) : Prop := ∃ args, .at needsDocumentation i args ∈ checker.notes f

theorem notedHere {m : Report.Message} {args : List String} {j : NodeId} :
    (.at m j args ∈ notesOnCall f i → j = i) ∧ (.at m j args ∈ notesOnClass f i → j = i) ∧
      (.at m j args ∈ notesOnDict f i → j = i) := by
  have here {k : Report.Message} {as : List String} (same : Note.at m j args = .at k i as) : j = i := by
    cases same
    rfl
  refine ⟨fun noted => ?_,fun noted => ?_,fun noted => ?_⟩
  · unfold notesOnCall at noted
    split at noted
    · cases noted
    · rcases List.mem_append.mp noted with noted | noted <;> split at noted
      · exact here (List.mem_singleton.mp noted)
      · cases noted
      · exact here (List.mem_singleton.mp noted)
      · cases noted
  · unfold notesOnClass at noted
    split at noted
    · split at noted
      · cases noted
      · exact here (List.mem_singleton.mp noted)
    · cases noted
  · unfold notesOnDict at noted
    split at noted
    · obtain ⟨_,_,same⟩ := List.mem_map.mp noted
      exact here same.symm
    · cases noted

theorem memNotes {n : Note} : n ∈ checker.notes f ↔ ∃ i, ⟨.enter,i⟩ ∈ walk f.tree ∧
    (f.tree.kind i = .call ∧ n ∈ notesOnCall f i ∨ f.tree.kind i = .classDef ∧ n ∈ notesOnClass f i ∨
      f.tree.kind i = .dict ∧ n ∈ notesOnDict f i) := by
  refine (Checker.memNotesOf [(.call,.simple "call" notesOnCall),
    (.classDef,.simple "classdef" notesOnClass),(.dict,.simple "dict" notesOnDict)]).trans ?_
  constructor
  · rintro ⟨⟨phase,i⟩,visited,e,listed,⟨rfl,kind⟩,noted⟩
    simp only [List.mem_cons,List.not_mem_nil,or_false] at listed
    rcases listed with rfl | rfl | rfl
    · exact ⟨i,visited,.inl ⟨kind.symm,noted⟩⟩
    · exact ⟨i,visited,.inr (.inl ⟨kind.symm,noted⟩)⟩
    · exact ⟨i,visited,.inr (.inr ⟨kind.symm,noted⟩)⟩
  · rintro ⟨i,visited,⟨kind,noted⟩ | ⟨kind,noted⟩ | ⟨kind,noted⟩⟩
    · exact ⟨_,visited,_,.head _,⟨rfl,kind.symm⟩,noted⟩
    · exact ⟨_,visited,_,.tail _ (.head _),⟨rfl,kind.symm⟩,noted⟩
    · exact ⟨_,visited,_,.tail _ (.tail _ (.head _)),⟨rfl,kind.symm⟩,noted⟩

theorem asksIff (parsed : Tree.parse f.text = .ok f.tree) (call : f.tree.kind i = .call)
    (callee : f.tree.callee? i = some name) (toggle : isToggleClass name = true) :
    Asks f i ↔ isDocumented f (f.tree.line i) = false := by
  have visited : ⟨.enter,i⟩ ∈ walk f.tree := by
    have once := entersOnce parsed i
    rw [if_pos (Tree.insideOfKind (call ▸ nofun))] at once
    exact List.count_pos_iff.mp (by omega)
  have own (args : List String) : .at needsDocumentation i args ∈ notesOnCall f i ↔
      isDocumented f (f.tree.line i) = false ∧ args = [toggleName f.tree i] := by
    have other : needsDocumentation ≠ illegalUsage := by decide
    simp only [notesOnCall,callee,List.mem_append]
    cases isDocumented f (f.tree.line i) <;> simp [toggle,Note.at,other]
  constructor
  · rintro ⟨args,noted⟩
    obtain ⟨j,_,made⟩ := memNotes.mp noted
    obtain rfl : i = j := by
      rcases made with ⟨_,made⟩ | ⟨_,made⟩ | ⟨_,made⟩
      · exact notedHere.1 made
      · exact notedHere.2.1 made
      · exact notedHere.2.2 made
    rcases made with ⟨_,made⟩ | ⟨kind,_⟩ | ⟨kind,_⟩
    · exact ((own args).mp made).1
    · cases call.symm.trans kind
    · cases call.symm.trans kind
  · intro bare
    exact ⟨_,memNotes.mpr ⟨i,visited,.inl ⟨call,(own _).mpr ⟨bare,rfl⟩⟩⟩⟩

theorem textOfParse {text : List Char} (parsed : Tree.parse text = .ok t) : t.text = text := by
  obtain ⟨_,_,rfl⟩ := Tree.outlineOfParse parsed
  rfl

theorem callRead (text : List Char) (i : NodeId) (name : String) (n : Nat)
    (read : ((Tree.parse text).map fun t => (t.kind i,t.callee? i,t.line i)).toOption =
      some (.call,some name,n)) :
    ∃ t, Tree.parse text = .ok t ∧ t.kind i = .call ∧ t.callee? i = some name ∧ t.line i = n := by
  obtain ⟨t,parsed,same⟩ := Tree.okOfMap read
  obtain ⟨call,callee,line⟩ : t.kind i = .call ∧ t.callee? i = some name ∧ t.line i = n := by simpa using same
  exact ⟨t,parsed,call,callee,line⟩

theorem toggleClasses (among : name ∈ classEndings) : isToggleClass name = true := by
  simp only [classEndings,List.mem_cons,List.not_mem_nil,or_false] at among
  rcases among with rfl | rfl | rfl <;> decide

/-- Below a group the rule asks for no documentation just if the last line of the comment begins with one of
two words; a toggle's token on that line is such a beginning. -/
theorem asksBelowGroup {text last : List Char} {g : Group} {path root : Storage.Path}
    (parsed : Tree.parse text = .ok t) (call : t.kind i = .call) (callee : t.callee? i = some name)
    (among : name ∈ classEndings) (above : EndsAbove text g last (t.line i)) :
    (Asks (.ofTree path root t) i ↔ ¬ ∃ word ∈ ["toggle","documented_elsewhere"], MarkedLine last word) ∧
    ∀ e ∈ g.entries, e.line + 1 = t.line i → ".. toggle".toList <+: e.token.toList →
      ¬ Asks (.ofTree path root t) i := by
  obtain rfl := textOfParse parsed
  have asks : Asks (.ofTree path root t) i ↔
      ¬ ∃ word ∈ ["toggle","documented_elsewhere"], MarkedLine last word := by
    have dark : ∀ w ∈ ["toggle","documented_elsewhere"],
        ∃ c cs, w.toList = c :: cs ∧ Text.isBlank c = false := by
      simp [Text.isBlank]
    have documented : isDocumented (.ofTree path root t) (t.line i) =
        startsWithToken ["toggle","documented_elsewhere"] last :=
      congrArg (Option.any (startsWithToken ["toggle","documented_elsewhere"])) above.lastLine
    have rule : Asks (.ofTree path root t) i ↔ isDocumented (.ofTree path root t) (t.line i) = false :=
      asksIff parsed call callee (toggleClasses among)
    refine rule.trans ?_
    rw [← markedIff dark,Bool.not_eq_true]
    exact Eq.congr documented rfl
  refine ⟨asks,fun e mem here begins asked => asks.mp asked ?_⟩
  obtain ⟨value,found⟩ := above.entry mem here
  exact ⟨"toggle",by simp,markedOfToken found (by decide) begins⟩

theorem asksBelowContinuation :
    let text := "# .. toggle_name: X\n# .. toggle_description: first\n#   continues\nWaffleFlag('X')\n".toList
    let g : Group := ⟨1,[⟨".. toggle_name:","X",1⟩,⟨".. toggle_description:","first continues",2⟩]⟩
    ∃ t, Tree.parse text = .ok t ∧ t.kind 1 = .call ∧ t.callee? 1 = some "WaffleFlag" ∧
      g ∈ groupsOf text ∧ g.contains ".. toggle_name:" = true ∧
      EndsAbove text g "#   continues".toList (t.line 1) ∧
      Asks (.ofTree (.ofString "a.py") (.ofString "") t) 1 := by
  intro text g
  obtain ⟨t,parsed,call,callee,line⟩ := callRead text 1 "WaffleFlag" 4 (by decide +kernel)
  have above : EndsAbove text g "#   continues".toList (t.line 1) :=
    ⟨[(1,"# .. toggle_name: X".toList),(2,"# .. toggle_description: first".toList),
      (3,"#   continues".toList)],by decide +kernel,by decide +kernel,3,rfl,line.symm⟩
  have whole : t.text = text := textOfParse parsed
  have read : Tree.parse t.text = .ok t := by rw [whole,parsed]
  have bare : isAnnotated t.text (t.line 1 - 1) ["toggle","documented_elsewhere"] = false := by
    rw [whole,line]
    decide +kernel
  refine ⟨t,parsed,call,callee,above.group,by decide,above,?_⟩
  have rule : Asks (.ofTree (.ofString "a.py") (.ofString "") t) 1 ↔ _ := asksIff read call callee (by decide)
  exact rule.mpr bare

theorem silentBelowDefault :
    let text := "# .. toggle_name: X\n# .. toggle_default: False\nWaffleFlag('X')\n".toList
    let g : Group := ⟨1,[⟨".. toggle_name:","X",1⟩,⟨".. toggle_default:","False",2⟩]⟩
    ∃ t, Tree.parse text = .ok t ∧ t.kind 1 = .call ∧ t.callee? 1 = some "WaffleFlag" ∧
      "WaffleFlag" ∈ classEndings ∧
      EndsAbove text g "# .. toggle_default: False".toList (t.line 1) ∧
      ¬ Asks (.ofTree (.ofString "a.py") (.ofString "") t) 1 := by
  intro text g
  obtain ⟨t,parsed,call,callee,line⟩ := callRead text 1 "WaffleFlag" 3 (by decide +kernel)
  have above : EndsAbove text g "# .. toggle_default: False".toList (t.line 1) :=
    ⟨[(1,"# .. toggle_name: X".toList),(2,"# .. toggle_default: False".toList)],by decide +kernel,
      by decide +kernel,2,rfl,line.symm⟩
  have among : "WaffleFlag" ∈ classEndings := by decide
  refine ⟨t,parsed,call,callee,among,above,?_⟩
  exact (asksBelowGroup parsed call callee among above).2 ⟨".. toggle_default:","False",2⟩ (by simp [g])
    line.symm (by decide)

end Calls
end Rule.FeatureToggle
end ConventionLint
