import ConventionLint.Proofs.Comment.Pragma
import ConventionLint.Proofs.Grammar.Lines
import ConventionLint.Proofs.Grammar.Scan

/-! Number signs within string literals. Pragmas and annotations are looked for in lines as they are, so the
text of a literal may be taken for a comment: as a pragma in any of its lines, as an annotation or as a
pragma for a block in any but the first. -/
namespace ConventionLint.Comment
open Annotation (blockGroup? blocks blocksFlatten entriesNilIff groupsOf groupsOfBlocks tokenInComment
  tokenLine?)
open Grammar (Position Reached PlaceOf Span Token beginsString scan)
open Text (isBlank numberedLines)
open Text.Utf8 (size)

/-- The spans of string literals. `begun` are the places where literals have begun that surround the
tokens, the innermost one first. -/
def literalsFrom : List Position → List Token → List Span
  | _, [] => []
  | begun, t :: ts =>
    match t.lexeme, begun with
    | .stringOpen, begun => literalsFrom (t.span.start :: begun) ts
    | .stringClose, start :: begun => ⟨start,t.span.stop⟩ :: literalsFrom begun ts
    | _, begun => literalsFrom begun ts

def literals (text : List Char) : List Span := literalsFrom [] (scan text)

def SignsQuoted (text : List Char) : Prop :=
  ∀ i < text.length, text[i]? = some '#' →
    ∃ l ∈ literals text, l.start.offset ≤ size (text.take i) ∧ size (text.take i) < l.stop.offset

instance (text : List Char) : Decidable (SignsQuoted text) := by
  unfold SignsQuoted
  infer_instance

variable {text line : List Char} {n : Nat} {l : Span}

theorem literalsFromTokens {begun : List Position} {ts : List Token} (mem : l ∈ literalsFrom begun ts) :
    (l.start ∈ begun ∨ ∃ t ∈ ts, t.lexeme = .stringOpen ∧ t.span.start = l.start) ∧
      ∃ t ∈ ts, t.lexeme = .stringClose ∧ t.span.stop = l.stop := by
  induction ts generalizing begun with
  | nil => cases mem
  | cons t ts ih =>
    have later {begun : List Position} (rest : l ∈ literalsFrom begun ts) :
        (l.start ∈ begun ∨ ∃ t' ∈ t :: ts, t'.lexeme = .stringOpen ∧ t'.span.start = l.start) ∧
          ∃ t' ∈ t :: ts, t'.lexeme = .stringClose ∧ t'.span.stop = l.stop := by
      obtain ⟨start,t',own,closes⟩ := ih rest
      refine ⟨start.imp id ?_,t',List.mem_cons_of_mem t own,closes⟩
      rintro ⟨o,listed,opens⟩
      exact ⟨o,List.mem_cons_of_mem t listed,opens⟩
    unfold literalsFrom at mem
    split at mem
    · next opens =>
      obtain ⟨start,stop⟩ := later mem
      refine ⟨?_,stop⟩
      rcases start with before | found
      · rcases List.mem_cons.mp before with same | outer
        · exact .inr ⟨t,List.mem_cons_self,opens,same.symm⟩
        · exact .inl outer
      · exact .inr found
    · next closes =>
      rcases List.mem_cons.mp mem with rfl | rest
      · exact ⟨.inl List.mem_cons_self,t,List.mem_cons_self,closes,rfl⟩
      · obtain ⟨start,stop⟩ := later rest
        exact ⟨start.imp (List.mem_cons_of_mem _) id,stop⟩
    · exact later mem

theorem literalPlaces (mem : l ∈ literals text) : (∃ q rest, Reached text l.start (q :: rest) ∧
    beginsString q = true) ∧ PlaceOf text l.stop := by
  obtain ⟨start,t,closes,stringClose,stop⟩ := literalsFromTokens mem
  obtain ⟨o,opens,stringOpen,start⟩ := start.resolve_left List.not_mem_nil
  obtain ⟨q,rest,reached,begins⟩ := Grammar.tokenStarts opens (by simp [stringOpen])
  exact ⟨⟨q,rest,start ▸ reached,begins stringOpen⟩,stop ▸ (Grammar.scanPlaces text t closes).2⟩

theorem beginsStringDark {q : Char} (begins : beginsString q = true) : isBlank q = false ∧ q ≠ '#' := by
  simp only [beginsString,Grammar.isStringMark,List.contains_iff_mem,Bool.or_eq_true,beq_iff_eq,
    List.mem_cons,List.not_mem_nil,or_false,or_assoc] at begins
  rcases begins with rfl | rfl | rfl | rfl | rfl | rfl | rfl | rfl | rfl | rfl | rfl <;> decide

theorem beginsBehindBlanks {q : Char} {more between behind : List Char} (begins : beginsString q = true)
    (blank : ∀ c ∈ between, isBlank c = true) : q :: more ≠ between ++ '#' :: behind := by
  intro same
  have dark := beginsStringDark begins
  cases between with
  | nil => exact dark.2 (List.cons.inj same).1
  | cons c between =>
    have light := blank c List.mem_cons_self
    rw [← (List.cons.inj same).1,dark.1] at light
    cases light

theorem lineOfSign (quoted : SignsQuoted text) (there : (n,line) ∈ numberedLines text)
    {front behind : List Char} (cut : line = front ++ '#' :: behind) :
    ∃ l ∈ literals text, l.start.line ≤ n ∧ n ≤ l.stop.line ∧
      ((∀ c ∈ front, isBlank c = true) → l.start.line < n) := by
  obtain ⟨before,rest,whole,free,own,first⟩ := Grammar.lineAt there
  have atSign : text = (before ++ front) ++ '#' :: (behind ++ rest) := by simp [whole,cut]
  have freeFront : '\n' ∉ front := fun mem => free (by simp [cut,mem])
  have sign : (Position.initial.advanceAll (before ++ front)).line = n := by
    rw [Grammar.advanceAppend,Grammar.advanceWithin _ freeFront,own]
  obtain ⟨l,mem,behindStart,beforeStop⟩ := quoted (before ++ front).length (by rw [atSign]; simp)
    (by rw [atSign]; simp)
  have taken : text.take (before ++ front).length = before ++ front := by rw [atSign,List.take_left]
  rw [taken] at behindStart beforeStop
  obtain ⟨⟨q,more,⟨head,here,start⟩,begins⟩,tail,ending,stops,stop⟩ := literalPlaces mem
  rw [start,Grammar.offsetOf] at behindStart
  rw [stop,Grammar.offsetOf] at beforeStop
  have begun := Text.Utf8.prefixBySize (here.symm.trans atSign) behindStart
  have ended := Text.Utf8.prefixBySize (atSign.symm.trans stops) beforeStop.le
  refine ⟨l,mem,?_,?_,fun blank => ?_⟩
  · rw [start,← sign]
    exact Grammar.linePrefix begun
  · rw [stop,← sign]
    exact Grammar.linePrefix ended
  · obtain ⟨between,split⟩ := begun
    have outside (lead : List Char) (parts : front = lead ++ between) : head ≠ before ++ lead := by
      rintro rfl
      have both := here.symm.trans atSign
      have light : ∀ c ∈ between, isBlank c = true := fun c mem => blank c (parts ▸ List.mem_append_right lead mem)
      rw [parts] at both
      exact beginsBehindBlanks begins light (by simpa using both)
    rw [start,← own]
    rcases List.append_eq_append_iff.mp split with ⟨more,longer,parts⟩ | ⟨lead,longer,parts⟩
    · by_cases adjacent : more = []
      · subst adjacent
        exact absurd (by simpa using longer.symm) (outside [] (by simpa using parts.symm))
      · rw [longer] at first ⊢
        exact Grammar.lineEarlier adjacent first
    · exact absurd longer (outside lead parts)

theorem noGroups : groupsOf text = [] ↔
    ∀ n line, (n,line) ∈ numberedLines text → tokenLine? line = none := by
  have empty (block : List (Nat × List Char)) :
      blockGroup? block = none ↔ ∀ l ∈ block, tokenLine? l.2 = none := by
    rw [blockGroup?,Option.map_eq_none_iff,List.head?_eq_none_iff,entriesNilIff]
  rw [groupsOfBlocks,List.filterMap_eq_nil_iff]
  constructor
  · intro noTokens n line there
    by_contra other
    obtain ⟨t,found⟩ := Option.ne_none_iff_exists'.mp other
    have comment : (n,line) ∈ (blocks (numberedLines text)).flatten := by
      rw [blocksFlatten]
      exact List.mem_filter.mpr ⟨there,tokenInComment found⟩
    obtain ⟨block,listed,inside⟩ := List.mem_flatten.mp comment
    exact other ((empty block).mp (noTokens block listed) _ inside)
  · intro noTokens block listed
    refine (empty block).mpr fun l inside => ?_
    have comment := List.mem_flatten.mpr ⟨block,listed,inside⟩
    rw [blocksFlatten] at comment
    exact noTokens l.1 l.2 (List.mem_filter.mp comment).1

/-- With every number sign in a literal there is a suppression only if a line of a literal reads as one,
and an annotation only if a line of a literal other than its first one does. -/
theorem signsInLiterals (quoted : SignsQuoted text) :
    (Suppression.ofText text = [] ↔ ∀ l ∈ literals text, ∀ n line, (n,line) ∈ numberedLines text →
      l.start.line ≤ n → n ≤ l.stop.line → Pragma.ofLine? line = none) ∧
    (groupsOf text = [] ↔ ∀ l ∈ literals text, ∀ n line, (n,line) ∈ numberedLines text →
      l.start.line < n → n ≤ l.stop.line → tokenLine? line = none) ∧
    ∀ s ∈ Suppression.ofText text, s.pragma.scope = .block →
      ∃ l ∈ literals text, l.start.line < s.first ∧ s.first ≤ l.stop.line := by
  refine ⟨?_,?_,fun s mem block => ?_⟩
  · rw [noSuppressions]
    refine ⟨fun clean l _ n line there _ _ => clean n line there,fun clean n line there => ?_⟩
    by_contra other
    obtain ⟨p,found⟩ := Option.ne_none_iff_exists'.mp other
    obtain ⟨front,behind,cut⟩ := List.append_of_mem (signInPragma found)
    obtain ⟨l,mem,begins,upTo,_⟩ := lineOfSign quoted there cut
    exact other (clean l mem n line there begins upTo)
  · rw [noGroups]
    refine ⟨fun clean l _ n line there _ _ => clean n line there,fun clean n line there => ?_⟩
    by_contra other
    obtain ⟨t,found⟩ := Option.ne_none_iff_exists'.mp other
    obtain ⟨front,behind,cut,blank⟩ := signFirst (beq_iff_eq.mp (tokenInComment found))
    obtain ⟨l,mem,_,upTo,later⟩ := lineOfSign quoted there cut
    exact other (clean l mem n line there (later blank) upTo)
  · obtain ⟨n,line,p,there,found,rfl⟩ := suppressionOfText.mp mem
    obtain ⟨front,behind,cut,blank⟩ := signFirst (blockFirst found block)
    obtain ⟨l,listed,_,upTo,later⟩ := lineOfSign quoted there cut
    exact ⟨l,listed,later blank,upTo⟩

theorem signsInTwoLiterals :
    let text := "x = \"# pylint: disable=all\"\ny = '''\n# .. toggle_name: A\n'''\n".toList
    SignsQuoted text ∧ (Grammar.parse text).toOption.isSome = true ∧
    Suppression.ofText text = [⟨1,1,⟨["all"],.line⟩⟩] ∧
    groupsOf text = [⟨3,[⟨".. toggle_name:","A",3⟩]⟩] ∧
    (∃ l ∈ literals text, ∃ n line, (n,line) ∈ numberedLines text ∧ l.start.line ≤ n ∧ n ≤ l.stop.line ∧
      Pragma.ofLine? line ≠ none) ∧
    ∃ l ∈ literals text, ∃ n line, (n,line) ∈ numberedLines text ∧ l.start.line < n ∧ n ≤ l.stop.line ∧
      tokenLine? line ≠ none := by
  intro text
  have quoted : SignsQuoted text := by decide +kernel
  have suppressed : Suppression.ofText text = [⟨1,1,⟨["all"],.line⟩⟩] := by decide +kernel
  have group : groupsOf text = [⟨3,[⟨".. toggle_name:","A",3⟩]⟩] := by decide +kernel
  obtain ⟨suppressions,groups,_⟩ := signsInLiterals quoted
  refine ⟨quoted,by decide +kernel,suppressed,group,?_,?_⟩
  · by_contra missing
    refine absurd (suppressions.mpr fun l mem n line there begins upTo => ?_) (by simp [suppressed])
    by_contra other
    exact missing ⟨l,mem,n,line,there,begins,upTo,other⟩
  · by_contra missing
    refine absurd (groups.mpr fun l mem n line there begins upTo => ?_) (by simp [group])
    by_contra other
    exact missing ⟨l,mem,n,line,there,begins,upTo,other⟩

end ConventionLint.Comment
