import Mathlib.Data.List.TakeWhile
import ConventionLint.Proofs.Comment.Pragma
import ConventionLint.Proofs.Storage.Path

/-! Pragmas as one writes them: behind the first number sign of a line the name of a tool, a colon, a word, an
equals sign and names between commas, with blanks wherever one likes. Each name is read and nothing else is,
whatever stands behind the list as long as it does not look like more of it. -/
namespace ConventionLint.Comment.Pragma
open Text (isBlank trimStart)
open Annotation (tokenCharDark trimStartBlank)

def IsName (name : List Char) : Prop := name ≠ [] ∧ ∀ c ∈ name, isNameChar c = true

def IsGap (gap : List Char) : Prop := ∀ c ∈ gap, isBlank c = true

inductive Lists : List (List Char) → List Char → Prop where
  | one {before name after} (leading : IsGap before) (named : IsName name) (trailing : IsGap after) :
      Lists [name] (before ++ (name ++ after))
  | more {before name after names list} (leading : IsGap before) (named : IsName name)
      (trailing : IsGap after) (behind : Lists names list) :
      Lists (name :: names) (before ++ (name ++ after) ++ ',' :: list)

def spaced (word : String) (gap cs : List Char) : List Char := word.toList ++ (gap ++ cs)

inductive Written (front : List Char) (names : List (List Char)) : List Char → Prop where
  | mk {tool : String} {a b c d list} (code : '#' ∉ front) (known : tool ∈ ["pylint","edx-lint"])
      (gaps : IsGap a ∧ IsGap b ∧ IsGap c ∧ IsGap d) (listed : Lists names list) :
      Written front names
        (front ++ spaced "#" a (spaced tool b (spaced ":" c (spaced "disable" d ('=' :: list)))))

/-- What may follow a list that is over: nothing, a text whose first character no list has, and behind a blank
anything without a comma. -/
inductive Ends (list : List Char) : List Char → Prop where
  | here : Ends list []
  | other {c cs} (outside : isListChar c = false) : Ends list (c :: cs)
  | word {c rest} (last : list.getLast? = some c) (blank : isBlank c = true) (free : ',' ∉ rest) :
      Ends list rest

variable {front list line rest more before name behind gap cs : List Char} {names : List (List Char)}

theorem nameCharDark {c : Char} (inside : isNameChar c = true) : isBlank c = false := by
  rcases (Bool.or_eq_true ..).mp inside with token | hyphen
  · exact tokenCharDark token
  · obtain rfl := beq_iff_eq.mp hyphen
    decide

theorem gapOfAll (blank : gap.all isBlank = true) : IsGap gap := List.all_eq_true.mp blank

theorem gapChars (blank : IsGap gap) : ∀ c ∈ gap, isListChar c = true ∧ c ≠ ',' ∧ c ≠ '#' := by
  intro c mem
  have dark {d : Char} (lit : isBlank d = false) : c ≠ d := by
    rintro rfl
    exact Bool.false_ne_true (lit.symm.trans (blank c mem))
  exact ⟨by simp [isListChar,blank c mem],dark (by decide),dark (by decide)⟩

theorem nameChars (named : IsName name) : ∀ c ∈ name, isListChar c = true ∧ c ≠ ',' := by
  intro c mem
  refine ⟨by simp [isListChar,named.2 c mem],?_⟩
  rintro rfl
  exact absurd (named.2 _ mem) (by decide)

theorem partChars {after : List Char} (leading : IsGap before) (named : IsName name) (trailing : IsGap after) :
    ∀ c ∈ before ++ (name ++ after), isListChar c = true ∧ c ≠ ',' := by
  intro c mem
  rcases List.mem_append.mp mem with front | mem
  · exact ⟨(gapChars leading c front).1,(gapChars leading c front).2.1⟩
  · rcases List.mem_append.mp mem with middle | back
    · exact nameChars named c middle
    · exact ⟨(gapChars trailing c back).1,(gapChars trailing c back).2.1⟩

theorem Lists.chars (listed : Lists names list) : ∀ c ∈ list, isListChar c = true := by
  induction listed with
  | one leading named trailing => exact fun c mem => (partChars leading named trailing c mem).1
  | more leading named trailing _ ih =>
    intro c mem
    rcases List.mem_append.mp mem with part | mem
    · exact (partChars leading named trailing c part).1
    · rcases List.mem_cons.mp mem with rfl | later
      · decide
      · exact ih c later

theorem Lists.nonempty (listed : Lists names list) : list ≠ [] := by
  cases listed with
  | one _ named _ => simp [named.1]
  | more => simp

theorem firstWordOf (leading : IsGap before) (named : IsName name)
    (apart : ∀ c, behind.head? = some c → isBlank c = true) :
    firstWord? (before ++ (name ++ behind)) = some (String.ofList name) := by
  have trimmed : trimStart (before ++ (name ++ behind)) = name ++ behind := by
    refine trimStartBlank leading fun c first => ?_
    obtain ⟨d,cs,rfl⟩ := List.exists_cons_of_ne_nil named.1
    cases first
    exact nameCharDark (named.2 _ List.mem_cons_self)
  have word : (name ++ behind).takeWhile (fun c => !isBlank c) = name :=
    (Text.spanned (fun c mem => by simp [nameCharDark (named.2 c mem)]) fun c first => by simp [apart c first]).1
  simp only [firstWord?,trimmed,word,List.isEmpty_iff,named.1,if_false]

def Apart (list more : List Char) : Prop :=
  more = [] ∨ (∃ c, list.getLast? = some c ∧ isBlank c = true) ∧ ',' ∉ more

theorem apartTail (apart : Apart (before ++ ',' :: list) more) (nonempty : list ≠ []) : Apart list more := by
  refine apart.imp_right fun ⟨⟨c,last,blank⟩,free⟩ => ⟨⟨c,?_,blank⟩,free⟩
  obtain ⟨d,cs,rfl⟩ := List.exists_cons_of_ne_nil nonempty
  simpa [List.getLast?_append,List.getLast?_cons_cons] using last

theorem apartBlank {after : List Char} (named : IsName name) (trailing : IsGap after)
    (apart : Apart (before ++ (name ++ after)) more) :
    ∀ c, (after ++ more).head? = some c → isBlank c = true := by
  intro c first
  cases after with
  | cons d ds =>
    cases first
    exact trailing _ List.mem_cons_self
  | nil =>
    rcases apart with rfl | ⟨⟨d,last,blank⟩,_⟩
    · cases first
    · -- the last character is one of the name
      rw [List.append_nil,List.getLast?_append_of_ne_nil _ named.1] at last
      have dark := nameCharDark (named.2 d (List.mem_of_getLast? last))
      exact absurd (dark.symm.trans blank) Bool.false_ne_true

theorem wordsOfList (listed : Lists names list) (apart : Apart list more) :
    ((list ++ more).splitOn ',').filterMap firstWord? = names.map String.ofList := by
  induction listed with
  | @one before name after leading named trailing =>
    have whole : ',' ∉ before ++ (name ++ after) ++ more := by
      intro comma
      rcases List.mem_append.mp comma with part | tail
      · exact (partChars leading named trailing _ part).2 rfl
      · rcases apart with rfl | ⟨_,free⟩
        · cases tail
        · exact free tail
    have word := firstWordOf leading named (apartBlank named trailing apart)
    rw [List.splitOn_eq_singleton whole,List.append_assoc,List.append_assoc]
    simp [word]
  | @more before name after names list leading named trailing behind ih =>
    have free : ',' ∉ before ++ (name ++ after) := fun comma => (partChars leading named trailing _ comma).2 rfl
    have word : firstWord? (before ++ (name ++ after)) = some (String.ofList name) :=
      firstWordOf leading named fun c first => trailing c (List.mem_of_head? first)
    rw [List.append_assoc,List.cons_append,List.splitOn_append_cons_self_of_not_mem free,List.filterMap_cons,
      word,ih (apartTail apart behind.nonempty)]
    rfl

theorem namesOfList (listed : Lists names list) (apart : Apart list more) :
    namesIn (list ++ more) = (names.map String.ofList).eraseDups := by
  rw [namesIn,Storage.splitByOn,wordsOfList listed apart]

theorem listBehindCode (code : '#' ∉ front) : list? (front ++ cs) = list? cs := by
  induction front with
  | nil => rfl
  | cons c front ih =>
    have apart : '#' ≠ c := fun same => code (same ▸ List.mem_cons_self)
    have here : listAt? (c :: (front ++ cs)) = none := by
      simp [listAt?,afterWord?,Text.dropHead?,apart]
    rw [List.cons_append,list?,here]
    exact ih fun later => code (List.mem_cons_of_mem c later)

theorem afterSpaced (word : String) (cs : List Char) (blank : IsGap gap)
    (dark : ∀ c, cs.head? = some c → isBlank c = false) :
    afterWord? word (spaced word gap cs) = some cs := by
  rw [afterWord?,spaced,Text.dropHead?_append,Option.map_some,trimStartBlank blank dark]

theorem spacedAppend {word : String} : spaced word gap cs ++ rest = spaced word gap (cs ++ rest) := by
  simp [spaced]

theorem listAtSign {tool : String} {a b c d : List Char} (rest : List Char) (known : tool ∈ ["pylint","edx-lint"])
    (gaps : IsGap a ∧ IsGap b ∧ IsGap c ∧ IsGap d) (listed : Lists names list) :
    listAt? (spaced "#" a (spaced tool b (spaced ":" c (spaced "disable" d ('=' :: (list ++ rest)))))) =
      some (list ++ rest.takeWhile isListChar) := by
  obtain ⟨sign,colon,word,equals⟩ := gaps
  have atEquals := afterSpaced "disable" ('=' :: (list ++ rest)) equals fun c first => by cases first; decide
  have atWord := afterSpaced ":" (spaced "disable" d ('=' :: (list ++ rest))) word
    fun c first => by cases first; decide
  have atColon := afterSpaced tool (spaced ":" c (spaced "disable" d ('=' :: (list ++ rest)))) colon
    fun c first => by cases first; decide
  have atTool := afterSpaced "#" (spaced tool b (spaced ":" c (spaced "disable" d ('=' :: (list ++ rest))))) sign
    fun c first => by rcases List.mem_pair.mp known with rfl | rfl <;> cases first <;> decide
  have kept : (list ++ rest).takeWhile isListChar = list ++ rest.takeWhile isListChar :=
    List.takeWhile_append_of_pos listed.chars
  have filled : (list ++ rest.takeWhile isListChar).isEmpty = false := by simp [listed.nonempty]
  simp only [listAt?,Option.bind_eq_bind,atTool,Option.bind_some]
  rcases List.mem_pair.mp known with rfl | rfl
  · simp only [atColon,atWord,atEquals,Option.bind_some,Text.dropHead?,if_true,kept,filled]
    rfl
  · have other (cs : List Char) : afterWord? "pylint" (spaced "edx-lint" b cs) = none := rfl
    simp only [other,atColon,atWord,atEquals,Option.bind_some,Text.dropHead?,if_true,kept,filled]
    rfl

theorem listOfWritten (written : Written front names line) :
    ∃ before list, line = before ++ list ∧ Lists names list ∧
      ∀ rest, list? (line ++ rest) = some (list ++ rest.takeWhile isListChar) := by
  obtain @⟨tool,a,b,c,d,list,code,known,gaps,listed⟩ := written
  refine ⟨front ++ spaced "#" a (spaced tool b (spaced ":" c (spaced "disable" d ['=']))),list,by simp [spaced],
    listed,fun rest => ?_⟩
  rw [List.append_assoc,listBehindCode code]
  simp only [spacedAppend,List.cons_append]
  have here := listAtSign rest known gaps listed
  rw [show spaced "#" a (spaced tool b (spaced ":" c (spaced "disable" d ('=' :: (list ++ rest))))) =
    '#' :: (a ++ _) from rfl] at here ⊢
  rw [list?,here]

theorem takenApart (listed : Lists names list) (ends : Ends (before ++ list) rest) :
    Apart list (rest.takeWhile isListChar) := by
  cases ends with
  | here => exact .inl rfl
  | other outside => exact .inl (by simp [outside])
  | word last blank free =>
    rw [List.getLast?_append_of_ne_nil _ listed.nonempty] at last
    exact .inr ⟨⟨_,last,blank⟩,fun comma => free (List.takeWhile_subset _ comma)⟩

theorem aloneIff (written : Written front names line) (rest : List Char) :
    (trimStart (line ++ rest)).head? = some '#' ↔ IsGap front := by
  obtain @⟨tool,a,b,c,d,list,code,known,gaps,listed⟩ := written
  constructor
  · intro first
    obtain ⟨blank,behind,split,all⟩ := signFirst first
    rw [List.append_assoc] at split
    rcases List.append_eq_append_iff.mp split with ⟨more,rfl,_⟩ | ⟨more,rfl,tail⟩
    · exact fun c mem => all c (List.mem_append_left _ mem)
    · cases more with
      | nil => rwa [List.append_nil]
      | cons c more =>
        cases tail
        exact absurd (List.mem_append_right _ List.mem_cons_self) code
  · intro blank
    rw [List.append_assoc,trimStartBlank blank fun c first => by cases first; decide]
    rfl

theorem Lists.hasNames (listed : Lists names list) : names ≠ [] := by
  cases listed <;> exact List.cons_ne_nil _ _

theorem pragmaOfWritten (written : Written front names line) (ends : Ends line rest) :
    ofLine? (line ++ rest) = some ⟨(names.map String.ofList).eraseDups,
      if (trimStart (line ++ rest)).head? == some '#' then .block else .line⟩ := by
  obtain ⟨before,list,rfl,listed,read⟩ := listOfWritten written
  have listsAll := namesOfList listed (takenApart listed ends)
  have nonempty : ((names.map String.ofList).eraseDups).isEmpty = false := by
    obtain ⟨name,others,rfl⟩ := List.exists_cons_of_ne_nil listed.hasNames
    rw [List.map_cons,List.eraseDups_cons]
    rfl
  rw [ofLine?,read rest]
  simp only [Option.bind_eq_bind,Option.bind_some,listsAll,nonempty]
  rfl

/-- Each name that is written in a pragma is switched off and no other one is. What stands behind the list makes no
difference. -/
theorem writtenPragma (written : Written front names line) (ends : Ends line rest) :
    (∃ p, ofLine? line = some p ∧ (∀ name, name ∈ p.names ↔ name.toList ∈ names) ∧
      (p.scope = .block ↔ IsGap front)) ∧
    ofLine? (line ++ rest) = ofLine? line := by
  have bare := pragmaOfWritten written .here
  have followed := pragmaOfWritten written ends
  have alone := aloneIff written []
  rw [List.append_nil] at bare alone
  refine ⟨⟨_,bare,fun name => ?_,?_⟩,?_⟩
  · rw [List.mem_eraseDups,List.mem_map]
    constructor
    · rintro ⟨chars,mem,rfl⟩
      rwa [String.toList_ofList]
    · exact fun mem => ⟨_,mem,String.ofList_toList⟩
  · simpa using alone
  · have same : (trimStart (line ++ rest)).head? = some '#' ↔ (trimStart line).head? = some '#' :=
      (aloneIff written rest).trans alone.symm
    rw [bare,followed]
    simp only [beq_iff_eq,same]

theorem spacedPragmaRead :
    let line := "x\t# edx-lint :\u3000disable =a-b ,C7630,\tc_d ".toList
    let names := ["a-b","C7630","c_d"].map String.toList
    (∃ p, ofLine? line = some p ∧ (∀ name, name ∈ p.names ↔ name.toList ∈ names) ∧
      (p.scope = .block ↔ IsGap "x\t".toList)) ∧
    ofLine? (line ++ "for now # pylint: disable=all".toList) = ofLine? line := by
  have spelled : "x\t# edx-lint :\u3000disable =a-b ,C7630,\tc_d ".toList =
      "x\t".toList ++ spaced "#" [' '] (spaced "edx-lint" [' '] (spaced ":" ['\u3000'] (spaced "disable" [' ']
        ('=' :: ([] ++ ("a-b".toList ++ [' ']) ++ ',' :: ([] ++ ("C7630".toList ++ []) ++
          ',' :: (['\t'] ++ ("c_d".toList ++ [' '])))))))) := by decide +kernel
  intro line names
  have last : line.getLast? = some ' ' := by decide +kernel
  have written : Written "x\t".toList names line := by
    unfold line
    rw [spelled]
    refine .mk (by decide) (by decide) ?_ (.more ?_ ?_ ?_ (.more ?_ ?_ ?_ (.one ?_ ?_ ?_)))
    · exact ⟨gapOfAll rfl,gapOfAll rfl,gapOfAll rfl,gapOfAll rfl⟩
    all_goals first | exact gapOfAll rfl | exact ⟨by decide,List.all_eq_true.mp rfl⟩
  exact writtenPragma written (.word last rfl (by decide))

end ConventionLint.Comment.Pragma
