import Mathlib
import ConventionLint.Annotation.Group
import ConventionLint.Proofs.Text.Cut

/-! The groups of a text without the reading loop: what stands between two lines that are no comments is a
block, a block with a token is a group, and a value is what follows its token, up to the next one. -/
namespace ConventionLint.Annotation
open Text (isBlank trimStart trim)

def TokenPattern (line : List Char) (token value : String) : Prop :=
  ∃ indent before after word behind rest,
    (∀ c ∈ indent ++ before ++ after ++ behind, isBlank c = true) ∧
    word ≠ [] ∧ (∀ c ∈ word, isTokenChar c = true) ∧
    line = indent ++ '#' :: (before ++ '.' :: '.' :: (after ++ (word ++ (behind ++ ':' :: rest)))) ∧
    token = ".. " ++ String.ofList word ++ ":" ∧ value = String.ofList (trim rest)

section Token
variable {line cs rest : List Char} {token value : String}

theorem trimStartBlank {blank : List Char} (all : ∀ c ∈ blank, isBlank c = true)
    (dark : ∀ c, cs.head? = some c → isBlank c = false) : trimStart (blank ++ cs) = cs :=
  (Text.spanned all dark).2

theorem trimStartSplit (cs : List Char) :
    ∃ blank, cs = blank ++ trimStart cs ∧ ∀ c ∈ blank, isBlank c = true :=
  ⟨cs.takeWhile isBlank,List.takeWhile_append_dropWhile.symm,List.all_eq_true.mp List.all_takeWhile⟩

theorem trimTrimStart (cs : List Char) : trim (trimStart cs) = trim cs :=
  congrArg Text.trimEnd (List.dropWhile_idempotent isBlank cs)

theorem tokenCharDark {c : Char} (inside : isTokenChar c = true) : isBlank c = false := by
  have code : c.toNat = c.val.toNat := rfl
  simp only [isTokenChar,Char.isAlphanum,Char.isAlpha,Char.isUpper,Char.isLower,Char.isDigit,
    Bool.or_eq_true,Bool.and_eq_true,decide_eq_true_eq,beq_iff_eq,UInt32.le_iff_toNat_le,ge_iff_le] at inside
  rcases inside with range | rfl
  · simp [isBlank] at *
    omega
  · decide

theorem afterMarkerIff {marker : String} :
    afterMarker? marker cs = some rest ↔ ∃ more, cs = marker.toList ++ more ∧ rest = trimStart more := by
  unfold afterMarker?
  constructor
  · intro found
    obtain ⟨more,dropped,rfl⟩ := Option.map_eq_some_iff.mp found
    exact ⟨more,Text.eq_append_of_dropHead? dropped,rfl⟩
  · rintro ⟨more,rfl,rfl⟩
    rw [Text.dropHead?_append]
    rfl

theorem patternOfLine (found : tokenLine? line = some (token,value)) : TokenPattern line token value := by
  unfold tokenLine? at found
  simp only [bind,Option.bind_eq_some_iff] at found
  obtain ⟨_,hash,_,dots,read⟩ := found
  obtain ⟨more,atHash,rfl⟩ := afterMarkerIff.mp hash
  obtain ⟨more',atDots,rfl⟩ := afterMarkerIff.mp dots
  split at read
  · cases read
  · rename_i nonempty
    obtain ⟨_,colon,same⟩ := Option.bind_eq_some_iff.mp read
    obtain ⟨rest,atColon,rfl⟩ := afterMarkerIff.mp colon
    obtain ⟨indent,first,indentBlank⟩ := trimStartSplit line
    obtain ⟨before,second,beforeBlank⟩ := trimStartSplit more
    obtain ⟨after,third,afterBlank⟩ := trimStartSplit more'
    generalize trimStart more' = tail at *
    obtain ⟨behind,fourth,behindBlank⟩ := trimStartSplit (tail.dropWhile isTokenChar)
    have word : tail.takeWhile isTokenChar ++ tail.dropWhile isTokenChar = tail :=
      List.takeWhile_append_dropWhile
    rw [trimTrimStart] at same
    cases same
    refine ⟨indent,before,after,tail.takeWhile isTokenChar,behind,rest,?_,by simpa using nonempty,
      List.all_eq_true.mp List.all_takeWhile,?_,rfl,rfl⟩
    · simp only [List.forall_mem_append]
      exact ⟨⟨⟨indentBlank,beforeBlank⟩,afterBlank⟩,behindBlank⟩
    · rw [atColon] at fourth
      rw [fourth] at word
      conv_lhs => rw [first,atHash,second,atDots,third,← word]
      rfl

theorem wordEnds {behind : List Char} (blank : ∀ c ∈ behind, isBlank c = true) :
    (behind ++ ':' :: rest).takeWhile isTokenChar = [] ∧
      (behind ++ ':' :: rest).dropWhile isTokenChar = behind ++ ':' :: rest := by
  cases behind with
  | nil => simp [isTokenChar]
  | cons c behind =>
    have other : isTokenChar c = false := by
      cases inside : isTokenChar c with
      | false => rfl
      | true => simp [tokenCharDark inside] at blank
    simp [other]

theorem lineOfPattern (pattern : TokenPattern line token value) :
    tokenLine? line = some (token,value) := by
  obtain ⟨indent,before,after,word,behind,rest,blank,nonempty,inside,rfl,rfl,rfl⟩ := pattern
  simp only [List.forall_mem_append] at blank
  obtain ⟨⟨⟨indentBlank,beforeBlank⟩,afterBlank⟩,behindBlank⟩ := blank
  have dark : ∀ c, (word ++ (behind ++ ':' :: rest)).head? = some c → isBlank c = false := by
    intro c found
    obtain ⟨w,ws,rfl⟩ := List.exists_cons_of_ne_nil nonempty
    cases found
    exact tokenCharDark (inside c List.mem_cons_self)
  have colon : afterMarker? ":" (trimStart (behind ++ ':' :: rest)) = some (trimStart rest) :=
    afterMarkerIff.mpr ⟨rest,trimStartBlank behindBlank (by simp [isBlank]),rfl⟩
  unfold tokenLine?
  simp only [bind,Option.bind_eq_some_iff]
  refine ⟨trimStart (before ++ '.' :: '.' :: (after ++ (word ++ (behind ++ ':' :: rest)))),
    afterMarkerIff.mpr ⟨_,trimStartBlank indentBlank (by simp [isBlank]),rfl⟩,
    trimStart (after ++ (word ++ (behind ++ ':' :: rest))),
    afterMarkerIff.mpr ⟨_,trimStartBlank beforeBlank (by simp [isBlank]),rfl⟩,?_⟩
  have ⟨taken,dropped⟩ := @wordEnds rest behind behindBlank
  rw [trimStartBlank afterBlank dark,List.takeWhile_append_of_pos inside,List.dropWhile_append_of_pos inside,
    taken,dropped,List.append_nil,colon]
  simp [nonempty,trimTrimStart]

theorem tokenLineIff : tokenLine? line = some (token,value) ↔ TokenPattern line token value :=
  ⟨patternOfLine,lineOfPattern⟩

end Token

def blocks (lines : List (Nat × List Char)) : List (List (Nat × List Char)) :=
  lines.splitOnP fun l => !isComment l.2

def wholeValue (value : String) (more : List (List Char)) : String :=
  " ".intercalate ((value :: more.map continuation).filter (· ≠ ""))

def runOn (lines : List (Nat × List Char)) : List (List Char) :=
  (lines.takeWhile fun l => (tokenLine? l.2).isNone).map Prod.snd

def entryAt? : List (Nat × List Char) → Option Entry
  | [] => none
  | (n,line) :: rest => (tokenLine? line).map fun (token,value) => ⟨token,wholeValue value (runOn rest),n⟩

def entriesOf (block : List (Nat × List Char)) : List Entry := block.tails.filterMap entryAt?

def blockGroup? (block : List (Nat × List Char)) : Option Group :=
  (entriesOf block).head?.map fun e => ⟨e.line,entriesOf block⟩

section Reading
variable {block lines : List (Nat × List Char)}

theorem entriesOfNil : entriesOf [] = [] := rfl

theorem entriesOfCons {l : Nat × List Char} :
    entriesOf (l :: block) = (entryAt? (l :: block)).toList ++ entriesOf block := by
  simp only [entriesOf,List.tails_cons,List.filterMap_cons]
  cases entryAt? (l :: block) <;> rfl

theorem entriesByToken : (entriesOf block).map (fun e => (e.line,e.token)) =
    block.filterMap fun l => (tokenLine? l.2).map fun t => (l.1,t.1) := by
  induction block with
  | nil => rfl
  | cons l block ih =>
    rw [entriesOfCons,List.map_append,ih,List.filterMap_cons]
    cases token : tokenLine? l.2 <;> simp [entryAt?,token]

theorem entriesNilIff : entriesOf block = [] ↔ ∀ l ∈ block, tokenLine? l.2 = none := by
  rw [← List.map_eq_nil_iff,entriesByToken]
  simp [List.filterMap_eq_nil_iff]

theorem tokenInComment {line : List Char} {t : String × String} (found : tokenLine? line = some t) :
    isComment line = true := by
  obtain ⟨indent,before,after,word,behind,rest,blank,-,-,rfl,-,-⟩ := tokenLineIff.mp found
  simp only [List.forall_mem_append] at blank
  rw [isComment,trimStartBlank blank.1.1.1 (by simp [isBlank])]
  rfl

theorem wholeNil {value : String} : wholeValue value [] = value := by
  by_cases empty : value = "" <;> simp [wholeValue,empty]

theorem wholeCons {value : String} {line : List Char} {more : List (List Char)} :
    wholeValue value (line :: more) = wholeValue
      (if continuation line = "" then value
        else if value = "" then continuation line
        else value ++ " " ++ continuation line) more := by
  unfold wholeValue
  rw [List.map_cons]
  generalize continuation line = next
  generalize more.map continuation = others
  by_cases nothing : next = ""
  · simp [nothing,List.filter_cons]
  by_cases first : value = ""
  · simp [nothing,first]
  have joined : value ++ " " ++ next ≠ "" := by simp [first]
  simp only [nothing,first,if_false]
  rw [List.filter_cons_of_pos (by simpa using first),List.filter_cons_of_pos (by simpa using nothing),
    List.filter_cons_of_pos (by simp [joined]),String.intercalate_cons_cons]
  cases others.filter (· ≠ "") with
  | nil => simp
  | cons v vs => simp [String.intercalate_cons_cons,String.append_assoc]

theorem extendWhole {e : Entry} {more : List (List Char)} :
    more.foldl (fun e line => e.extend (continuation line)) e =
      { e with value := wholeValue e.value more } := by
  induction more generalizing e with
  | nil => rw [wholeNil]; rfl
  | cons line more ih =>
    rw [List.foldl_cons,ih,wholeCons]
    simp only [Entry.extend,String.isEmpty_iff]
    split <;> simp

def extended (found : List Entry) (more : List (List Char)) : List Entry :=
  more.foldl (fun found line => extendLast (continuation line) found) found

theorem extendLastConcat {more : String} {found : List Entry} {e : Entry} :
    extendLast more (found ++ [e]) = found ++ [e.extend more] := by
  induction found with
  | nil => rfl
  | cons first found ih =>
    cases found with
    | nil => rfl
    | cons second found => exact congrArg (first :: ·) ih

theorem extendedNil {more : List (List Char)} : extended [] more = [] := by
  induction more with
  | nil => rfl
  | cons line more ih => exact ih

theorem extendedConcat {found : List Entry} {e : Entry} {more : List (List Char)} :
    extended (found ++ [e]) more = found ++ [{ e with value := wholeValue e.value more }] := by
  rw [← extendWhole]
  induction more generalizing e with
  | nil => rfl
  | cons line more ih =>
    simp only [extended,List.foldl_cons,extendLastConcat] at ih ⊢
    exact ih

theorem someBlock (lines : List (Nat × List Char)) : ∃ first rest, blocks lines = first :: rest :=
  List.exists_cons_of_ne_nil (List.splitOnP_ne_nil _ lines)

theorem blocksCons {l : Nat × List Char} : blocks (l :: lines) =
    if isComment l.2 then (blocks lines).modifyHead (l :: ·) else [] :: blocks lines := by
  rw [blocks,List.splitOnP_cons_eq_if_modifyHead,← blocks]
  cases isComment l.2 <;> rfl

theorem ofEntriesOfBlock : Group.ofEntries? (entriesOf block) = blockGroup? block := by
  unfold blockGroup?
  cases entriesOf block <;> rfl

/-- What is read in the middle of a block: the last entry found runs on to the next token, and from there
on the lines go by blocks. -/
theorem collectBlocks {found : List Entry} {others : List (List (Nat × List Char))}
    (cut : blocks lines = block :: others) :
    collect found lines = (Group.ofEntries? (extended found (runOn block) ++ entriesOf block)).toList ++
      others.filterMap blockGroup? := by
  induction lines generalizing found block others with
  | nil =>
    rw [blocks,List.splitOnP_nil] at cut
    cases cut
    simp [collect,runOn,extended,entriesOfNil]
  | cons l lines ih =>
    obtain ⟨n,line⟩ := l
    obtain ⟨first,rest,below⟩ := someBlock lines
    rw [blocksCons,below] at cut
    rw [collect]
    cases comment : isComment line with
    | false =>
      -- the block ends before it has begun, and what was found makes up a group
      simp only [comment] at cut
      cases cut
      rw [if_neg Bool.false_ne_true,ih below,extendedNil,List.nil_append,ofEntriesOfBlock]
      cases group : blockGroup? first <;> simp [runOn,extended,entriesOfNil,group]
    | true =>
      simp only [comment,if_true,List.modifyHead_cons] at cut
      cases cut
      rw [if_pos rfl,entriesOfCons]
      cases token : tokenLine? line with
      | none =>
        simp only [ih below]
        simp [entryAt?,token,runOn,extended]
      | some t =>
        -- from here on it is the new entry that runs on
        simp only [ih below,extendedConcat]
        simp [entryAt?,token,runOn,extended]

theorem blocksFlatten : (blocks lines).flatten = lines.filter fun l => isComment l.2 := by
  induction lines with
  | nil => rfl
  | cons l lines ih =>
    obtain ⟨first,rest,below⟩ := someBlock lines
    rw [blocksCons,List.filter_cons,← ih,below]
    cases isComment l.2 <;> simp

end Reading

section Groups
variable {text : List Char}

theorem groupsOfBlocks : groupsOf text = (blocks (Text.numberedLines text)).filterMap blockGroup? := by
  obtain ⟨first,rest,cut⟩ := someBlock (Text.numberedLines text)
  rw [groupsOf,collectBlocks cut,extendedNil,List.nil_append,ofEntriesOfBlock,cut,List.filterMap_cons]
  cases blockGroup? first <;> rfl

theorem blockGroupIff {block : List (Nat × List Char)} :
    (blockGroup? block).isSome ↔ ∃ l ∈ block, ∃ token value, TokenPattern l.2 token value := by
  rw [blockGroup?,Option.isSome_map,List.isSome_head?,Ne,entriesNilIff]
  simp [← tokenLineIff,Option.eq_none_iff_forall_ne_some]

theorem groupEntries {bs : List (List (Nat × List Char))} :
    (bs.filterMap blockGroup?).flatMap Group.entries = bs.flatMap entriesOf := by
  induction bs with
  | nil => rfl
  | cons block bs ih =>
    rw [List.filterMap_cons,List.flatMap_cons,← ih,blockGroup?]
    cases entriesOf block <;> simp

theorem groupTokens : ((groupsOf text).flatMap Group.entries).map (fun e => (e.line,e.token)) =
    (Text.numberedLines text).filterMap fun l => (tokenLine? l.2).map fun t => (l.1,t.1) := by
  rw [groupsOfBlocks,groupEntries,List.map_flatMap]
  simp only [entriesByToken]
  rw [List.flatMap_def,← List.filterMap_flatten,blocksFlatten,List.filterMap_filter]
  refine List.filterMap_congr fun l _ => ?_
  cases token : tokenLine? l.2 with
  | none => simp
  | some t => simp [tokenInComment token]

theorem numbersInOrder : (Text.numberedLines text).Pairwise fun l l' => l.1 < l'.1 := by
  have numbers : (Text.numberedLines text).map Prod.fst = List.range' 1 (Text.lines text).length := by
    simp [Text.numberedLines,List.map_map,Function.comp_def,← List.zipIdx_map_snd]
  rw [← List.pairwise_map (f := Prod.fst),numbers]
  exact List.pairwise_lt_range'

theorem entriesInOrder : ((groupsOf text).flatMap Group.entries).Pairwise fun e e' => e.line < e'.line := by
  have lines : (((groupsOf text).flatMap Group.entries).map fun e => (e.line,e.token)).Pairwise
      fun a b => a.1 < b.1 := by
    rw [groupTokens]
    refine numbersInOrder.filterMap _ fun _ _ less _ found _ found' => ?_
    obtain ⟨t,-,rfl⟩ := Option.map_eq_some_iff.mp found
    obtain ⟨t',-,rfl⟩ := Option.map_eq_some_iff.mp found'
    exact less
  simpa only [List.pairwise_map] using lines

theorem entryOfToken {n : Nat} {line : List Char} {token value : String}
    (there : (n,line) ∈ Text.numberedLines text) (pattern : TokenPattern line token value) :
    ∃ e, e.token = token ∧ ((groupsOf text).flatMap Group.entries).filter (·.line == n) = [e] := by
  have listed : (n,token) ∈ ((groupsOf text).flatMap Group.entries).map fun e => (e.line,e.token) := by
    rw [groupTokens,List.mem_filterMap]
    exact ⟨_,there,by rw [tokenLineIff.mpr pattern]; rfl⟩
  obtain ⟨e,mem,same⟩ := List.mem_map.mp listed
  cases same
  obtain ⟨before,after,split⟩ := List.append_of_mem mem
  have order := @entriesInOrder text
  rw [split,List.pairwise_append,List.pairwise_cons] at order
  have none : before.filter (·.line == e.line) = [] ∧ after.filter (·.line == e.line) = [] := by
    simp only [List.filter_eq_nil_iff,beq_iff_eq]
    exact ⟨fun a mem => (order.2.2 a mem e List.mem_cons_self).ne,fun a mem => (order.2.1.1 a mem).ne'⟩
  exact ⟨e,rfl,by simp [split,none]⟩

/-- The groups are the blocks with a token, and every line that has the form of one is in one entry. -/
theorem groupsByBlocks (text : List Char) :
    groupsOf text = (blocks (Text.numberedLines text)).filterMap blockGroup? ∧
    (∀ block, (blockGroup? block).isSome ↔ ∃ l ∈ block, ∃ token value, TokenPattern l.2 token value) ∧
    (∀ line token value, tokenLine? line = some (token,value) ↔ TokenPattern line token value) ∧
    ((groupsOf text).flatMap Group.entries).map (fun e => (e.line,e.token)) =
      (Text.numberedLines text).filterMap (fun l => (tokenLine? l.2).map fun t => (l.1,t.1)) ∧
    ∀ n line token value, (n,line) ∈ Text.numberedLines text → TokenPattern line token value →
      ∃ e, e.token = token ∧ ((groupsOf text).flatMap Group.entries).filter (·.line == n) = [e] :=
  ⟨groupsOfBlocks,fun _ => blockGroupIff,fun _ _ _ => tokenLineIff,groupTokens,
    fun _ _ _ _ => entryOfToken⟩

example : groupsOf "x = 1\n#.. a :\n# more  \n##\n# still\n# .. b: c\n\n# .. a: d".toList =
    [⟨2,[⟨".. a:","more still",2⟩,⟨".. b:","c",6⟩]⟩,⟨8,[⟨".. a:","d",8⟩]⟩] := by decide +kernel

end Groups

end ConventionLint.Annotation
