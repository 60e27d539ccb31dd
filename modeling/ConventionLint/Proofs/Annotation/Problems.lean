import Mathlib.Data.List.Count
import Mathlib.Data.List.Induction
import Mathlib.Data.List.Nodup
import ConventionLint.Annotation.Family

/-! What is told about a group of a family, without the loops that look for it: the tokens that stand at second
places, and for each token of the family that it is missing or which words of its first value are no choices. -/
namespace ConventionLint.Annotation
open Family (isSeparator wordsOf)

def IsGap (c : Char) : Prop := c = ',' ∨ c = ' ' ∨ c = '\t'

inductive Words : List Char → List (List Char) → Prop where
  | none {gap : List Char} (apart : ∀ c ∈ gap, IsGap c) : Words gap []
  | word {gap w rest : List Char} {ws : List (List Char)} (apart : ∀ c ∈ gap, IsGap c) (nonempty : w ≠ [])
      (whole : ∀ c ∈ w, ¬ IsGap c) (ends : ∀ c, rest.head? = some c → IsGap c) (more : Words rest ws) :
      Words (gap ++ w ++ rest) (w :: ws)

section Words
variable {c : Char} {cs gap w rest piece : List Char} {ws more : List (List Char)}

theorem gapIff : isSeparator c = true ↔ IsGap c := by simp [isSeparator,IsGap,or_assoc]

theorem splitAtGap (apart : IsGap c) : Text.splitBy isSeparator (c :: cs) = [] :: Text.splitBy isSeparator cs := by
  rw [Text.splitBy,if_pos (gapIff.mpr apart)]

theorem splitWithin (within : ¬ IsGap c) (cut : Text.splitBy isSeparator cs = piece :: more) :
    Text.splitBy isSeparator (c :: cs) = (c :: piece) :: more := by
  rw [Text.splitBy,if_neg (mt gapIff.mp within),cut]

theorem splitFirst (cs : List Char) : ∃ piece more, Text.splitBy isSeparator cs = piece :: more ∧
    (piece = [] ↔ ∀ c, cs.head? = some c → IsGap c) := by
  induction cs with
  | nil => exact ⟨[],[],rfl,by simp⟩
  | cons c cs ih =>
    obtain ⟨piece,more,cut,_⟩ := ih
    by_cases apart : IsGap c
    · exact ⟨[],_,splitAtGap apart,by simp [apart]⟩
    · exact ⟨c :: piece,more,splitWithin apart cut,by simp [apart]⟩

theorem splitWord (whole : ∀ c ∈ w, ¬ IsGap c) (cut : Text.splitBy isSeparator rest = piece :: more) :
    Text.splitBy isSeparator (w ++ rest) = (w ++ piece) :: more := by
  induction w with
  | nil => exact cut
  | cons c w ih =>
    have ⟨first,others⟩ := List.forall_mem_cons.mp whole
    exact splitWithin first (ih others)

theorem splitBehindGap (cs : List Char) (apart : ∀ c ∈ gap, IsGap c) :
    (Text.splitBy isSeparator (gap ++ cs)).filter (fun w => !w.isEmpty) =
      (Text.splitBy isSeparator cs).filter fun w => !w.isEmpty := by
  induction gap with
  | nil => rfl
  | cons c gap ih =>
    have ⟨first,others⟩ := List.forall_mem_cons.mp apart
    rw [List.cons_append,splitAtGap first,List.filter_cons_of_neg (by simp),ih others]

theorem Words.behind (words : Words cs ws) (apart : IsGap c) : Words (c :: cs) ws := by
  cases words with
  | none gaps => exact .none (List.forall_mem_cons.mpr ⟨apart,gaps⟩)
  | word gaps nonempty whole ends more =>
    exact .word (List.forall_mem_cons.mpr ⟨apart,gaps⟩) nonempty whole ends more

theorem wordsSplit (cs : List Char) :
    Words cs ((Text.splitBy isSeparator cs).filter fun w => !w.isEmpty) := by
  induction cs with
  | nil => exact .none nofun
  | cons c cs ih =>
    by_cases apart : IsGap c
    · rw [splitAtGap apart,List.filter_cons_of_neg (by simp)]
      exact ih.behind apart
    · obtain ⟨piece,more,cut,first⟩ := splitFirst cs
      rw [splitWithin apart cut,List.filter_cons_of_pos (by simp)]
      rw [cut] at ih
      cases piece with
      | nil =>
        rw [List.filter_cons_of_neg (by simp)] at ih
        exact .word (List.forall_mem_nil IsGap) (List.cons_ne_nil c []) (List.forall_mem_singleton.mpr apart)
          (first.mp rfl) ih
      | cons d piece =>
        rw [List.filter_cons_of_pos (by simp)] at ih
        have dark := mt first.mpr (List.cons_ne_nil d piece)
        -- the word goes on, so that no gap can stand before the rest of it
        generalize same : (d :: piece) = w at ih
        generalize List.filter _ more = ws at ih
        cases ih with
        | @word gap _ rest _ gaps nonempty whole ends behind =>
          cases gap with
          | nil =>
            exact .word (List.forall_mem_nil IsGap) (List.cons_ne_nil c w)
              (List.forall_mem_cons.mpr ⟨apart,whole⟩) ends behind
          | cons e gap => exact absurd (by simpa using gaps e List.mem_cons_self) dark

theorem wordsIff : Words cs ws ↔ (Text.splitBy isSeparator cs).filter (fun w => !w.isEmpty) = ws := by
  constructor
  · intro words
    induction words with
    | none apart =>
      have all := splitBehindGap [] apart
      rw [List.append_nil] at all
      exact all
    | @word gap w rest ws apart nonempty whole ends _ ih =>
      obtain ⟨piece,more,cut,first⟩ := splitFirst rest
      obtain rfl := first.mpr ends
      rw [cut,List.filter_cons_of_neg (by simp)] at ih
      rw [List.append_assoc,splitBehindGap _ apart,splitWord whole cut,List.append_nil,
        List.filter_cons_of_pos (by simpa using nonempty),ih]
  · rintro rfl
    exact wordsSplit cs

theorem wordsOfIff {value : String} : Words value.toList ws ↔ wordsOf value = ws.map String.ofList := by
  have injective : Function.Injective String.ofList := Function.LeftInverse.injective fun _ => String.toList_ofList
  rw [wordsIff]
  exact (List.map_injective_iff.mpr injective).eq_iff.symm

end Words

def atSecondPlaces (ts : List String) : List String :=
  (ts.zipIdx.filter fun e => (ts.take e.2).count e.1 == 1).map Prod.fst

section Second
variable {seen before ts : List String} {t : String}

theorem secondPlacesConcat (ts : List String) (t : String) :
    atSecondPlaces (ts ++ [t]) = atSecondPlaces ts ++ if ts.count t = 1 then [t] else [] := by
  have front : (ts.zipIdx.filter fun e => ((ts ++ [t]).take e.2).count e.1 == 1) =
      ts.zipIdx.filter fun e => (ts.take e.2).count e.1 == 1 := by
    refine List.filter_congr fun e mem => ?_
    have inside := (List.mem_zipIdx mem).2.1
    rw [List.take_append_of_le_length (by omega)]
  rw [atSecondPlaces,List.zipIdx_append,List.filter_append,front,List.map_append]
  by_cases second : ts.count t = 1 <;> simp [second,atSecondPlaces]

theorem countSecondPlaces (ts : List String) (t : String) :
    (atSecondPlaces ts).count t = if 2 ≤ ts.count t then 1 else 0 := by
  induction ts using List.reverseRecOn with
  | nil => rfl
  | append_singleton ts u ih =>
    rw [secondPlacesConcat,List.count_append,List.count_append,ih]
    by_cases same : u = t
    · subst same
      rw [List.count_singleton_self]
      by_cases second : ts.count u = 1
      · simp [second]
      · rw [if_neg second,List.count_nil]
        split_ifs <;> omega
    · have other : [u].count t = 0 := List.count_singleton.trans (if_neg (by simpa using same))
      rw [other]
      by_cases second : ts.count u = 1 <;> simp [second,other]

theorem repeatedSeen (before : List String) (known : ∀ t, t ∈ seen ↔ t ∈ before) :
    Group.repeated seen (atSecondPlaces before) ts = atSecondPlaces (before ++ ts) := by
  induction ts generalizing seen before with
  | nil => rw [List.append_nil,Group.repeated]
  | cons t ts ih =>
    have again : (atSecondPlaces before).contains t = true ↔ 2 ≤ before.count t := by
      rw [List.contains_iff_mem,← List.count_pos_iff,countSecondPlaces]
      split_ifs <;> simp_all
    have onward : before ++ t :: ts = (before ++ [t]) ++ ts := by simp
    rw [Group.repeated,onward]
    by_cases old : t ∈ before
    · have listed : seen.contains t = true := List.contains_iff_mem.mpr ((known t).mpr old)
      have stood : 1 ≤ before.count t := List.count_pos_iff.mpr old
      have kept : (if (atSecondPlaces before).contains t then atSecondPlaces before else
          atSecondPlaces before ++ [t]) = atSecondPlaces (before ++ [t]) := by
        rw [secondPlacesConcat]
        by_cases more : 2 ≤ before.count t
        · rw [if_pos (again.mpr more),if_neg (by omega),List.append_nil]
        · rw [if_neg (mt again.mp more),if_pos (by omega)]
      rw [if_pos listed,kept]
      refine ih _ fun u => ?_
      rw [known,List.mem_append,List.mem_singleton]
      exact ⟨.inl,fun either => either.elim id fun same => same ▸ old⟩
    · have fresh : ¬ seen.contains t = true := mt List.contains_iff_mem.mp (mt (known t).mp old)
      have kept : atSecondPlaces before = atSecondPlaces (before ++ [t]) := by
        rw [secondPlacesConcat,List.count_eq_zero_of_not_mem old]
        simp
      rw [if_neg fresh,kept]
      refine ih _ fun u => ?_
      rw [List.mem_cons,known,List.mem_append,List.mem_singleton,or_comm]

end Second

def Group.tokens (g : Group) : List String := g.entries.map Entry.token

inductive Group.Gives (g : Group) (token : String) : String → Prop where
  | first {before after : List Entry} {e : Entry} (split : g.entries = before ++ e :: after)
      (own : e.token = token) (sooner : ∀ d ∈ before, d.token ≠ token) : Gives g token e.value

inductive Told (g : Group) : List TokenSpec → List Problem → Prop where
  | nil : Told g [] []
  | missing {s : TokenSpec} {ss : List TokenSpec} {ps : List Problem} (absent : s.token ∉ g.tokens)
      (required : s.required = true) (rest : Told g ss ps) : Told g (s :: ss) (.missing s.token :: ps)
  | spared {s : TokenSpec} {ss : List TokenSpec} {ps : List Problem} (absent : s.token ∉ g.tokens)
      (optional : s.required = false) (rest : Told g ss ps) : Told g (s :: ss) ps
  | free {s : TokenSpec} {ss : List TokenSpec} {ps : List Problem} {value : String}
      (given : g.Gives s.token value) (free : s.choices = []) (rest : Told g ss ps) : Told g (s :: ss) ps
  | chosen {s : TokenSpec} {ss : List TokenSpec} {ps : List Problem} {value : String} {ws : List (List Char)}
      (given : g.Gives s.token value) (choices : s.choices ≠ []) (words : Words value.toList ws)
      (rest : Told g ss ps) :
      Told g (s :: ss) ((((ws.map String.ofList).filter fun w => w ∉ s.choices).map fun w =>
        .invalidChoice w s.token (", ".intercalate s.choices)) ++ ps)

structure Group.Sound (g : Group) (f : Family) : Prop where
  once : g.tokens.Nodup
  complete : ∀ s ∈ f.tokens, s.required = true → s.token ∈ g.tokens
  chosen : ∀ s ∈ f.tokens, s.choices ≠ [] → ∀ value ws, g.Gives s.token value → Words value.toList ws →
    ∀ w ∈ ws, String.ofList w ∈ s.choices

section Problems
variable {f : Family} {g : Group} {s : TokenSpec} {ss : List TokenSpec} {ps : List Problem}
  {token value : String}

theorem getNone : g.get? token = none ↔ token ∉ g.tokens := by
  simp [Group.get?,Group.tokens]

theorem givesIff : g.Gives token value ↔ g.get? token = some value := by
  rw [Group.get?,Option.map_eq_some_iff]
  simp only [List.find?_eq_some_iff_append,beq_iff_eq,Bool.not_eq_eq_eq_not,Bool.not_true,beq_eq_false_iff_ne]
  constructor
  · rintro ⟨split,own,sooner⟩
    exact ⟨_,⟨own,_,_,split,sooner⟩,rfl⟩
  · rintro ⟨e,⟨own,before,after,split,sooner⟩,rfl⟩
    exact .first split own sooner

theorem problemsAtAbsent (absent : s.token ∉ g.tokens) :
    Family.problemsAt g s = if s.required then [.missing s.token] else [] := by
  rw [Family.problemsAt,getNone.mpr absent]

theorem problemsAtFree (given : g.Gives s.token value) (free : s.choices = []) : Family.problemsAt g s = [] := by
  rw [Family.problemsAt,givesIff.mp given]
  simp [free]

theorem problemsAtChosen {ws : List (List Char)} (given : g.Gives s.token value) (choices : s.choices ≠ [])
    (words : Words value.toList ws) : Family.problemsAt g s =
      ((ws.map String.ofList).filter fun w => w ∉ s.choices).map fun w =>
        .invalidChoice w s.token (", ".intercalate s.choices) := by
  rw [Family.problemsAt,givesIff.mp given]
  simp [choices,wordsOfIff.mp words]

theorem toldAll (ss : List TokenSpec) : Told g ss (ss.flatMap (Family.problemsAt g)) := by
  induction ss with
  | nil => exact .nil
  | cons s ss ih =>
    rw [List.flatMap_cons]
    cases found : g.get? s.token with
    | none =>
      have absent := getNone.mp found
      rw [problemsAtAbsent absent]
      cases required : s.required with
      | true => exact .missing absent required ih
      | false => exact .spared absent required ih
    | some value =>
      have given := givesIff.mpr found
      by_cases free : s.choices = []
      · rw [problemsAtFree given free]
        exact .free given free ih
      · have words := wordsSplit value.toList
        rw [problemsAtChosen given free words]
        exact .chosen given free words ih

theorem toldIff : Told g ss ps ↔ ps = ss.flatMap (Family.problemsAt g) := by
  constructor
  · intro told
    induction told with
    | nil => rfl
    | missing absent required _ ih => rw [List.flatMap_cons,problemsAtAbsent absent,if_pos required,ih]; rfl
    | spared absent optional _ ih => rw [List.flatMap_cons,problemsAtAbsent absent,optional,ih]; rfl
    | free given free _ ih => rw [List.flatMap_cons,problemsAtFree given free,ih]; rfl
    | chosen given choices words _ ih => rw [List.flatMap_cons,problemsAtChosen given choices words,ih]
  · rintro rfl
    exact toldAll ss

theorem problemsAtNil : Family.problemsAt g s = [] ↔ (s.required = true → s.token ∈ g.tokens) ∧
    (s.choices ≠ [] → ∀ value ws, g.Gives s.token value → Words value.toList ws →
      ∀ w ∈ ws, String.ofList w ∈ s.choices) := by
  cases found : g.get? s.token with
  | none =>
    have absent := getNone.mp found
    have nothing (value : String) : ¬ g.Gives s.token value := by simp [givesIff,found]
    rw [problemsAtAbsent absent]
    cases s.required <;> simp [absent,nothing]
  | some value =>
    have given := givesIff.mpr found
    have present : s.token ∈ g.tokens := by
      by_contra absent
      rw [getNone.mpr absent] at found
      cases found
    have only {other : String} (also : g.Gives s.token other) : other = value := by
      rw [givesIff,found] at also
      exact (Option.some.inj also).symm
    by_cases free : s.choices = []
    · rw [problemsAtFree given free]
      simp [free,present]
    · rw [problemsAtChosen given free (wordsSplit value.toList),List.map_eq_nil_iff,List.filter_eq_nil_iff]
      simp only [present,implies_true,true_and,List.forall_mem_map,decide_not,Bool.not_eq_eq_eq_not,
        Bool.not_true,decide_eq_false_iff_not,not_not]
      constructor
      · intro all _ other ws also words
        obtain rfl := only also
        rwa [← wordsIff.mp words]
      · intro all
        exact all free value _ given (wordsSplit value.toList)

def TokenSpec.Lacks (s : TokenSpec) (g : Group) (t : String) : Prop :=
  s.token = t ∧ s.required = true ∧ t ∉ g.tokens

instance (s : TokenSpec) (g : Group) (t : String) : Decidable (s.Lacks g t) :=
  inferInstanceAs (Decidable (_ ∧ _))

theorem countMissingAt (t : String) :
    (Family.problemsAt g s).count (.missing t) = if s.Lacks g t then 1 else 0 := by
  by_cases present : s.token ∈ g.tokens
  · have spared : ¬ s.Lacks g t := fun lacks => lacks.2.2 (lacks.1 ▸ present)
    rw [if_neg spared,List.count_eq_zero]
    unfold Family.problemsAt
    split
    · next missing => exact absurd present (getNone.mp missing)
    · split <;> simp
  · rw [problemsAtAbsent present]
    by_cases same : s.token = t
    · subst same
      cases required : s.required <;> simp [TokenSpec.Lacks,required,present]
    · cases s.required <;> simp [TokenSpec.Lacks,same]

theorem countMissing (distinct : (ss.map TokenSpec.token).Nodup) (t : String) :
    (ss.flatMap (Family.problemsAt g)).count (.missing t) = if ∃ s ∈ ss, s.Lacks g t then 1 else 0 := by
  induction ss with
  | nil => simp
  | cons s ss ih =>
    rw [List.map_cons,List.nodup_cons] at distinct
    rw [List.flatMap_cons,List.count_append,countMissingAt,ih distinct.2]
    by_cases own : s.Lacks g t
    · have others : ¬ ∃ s' ∈ ss, s'.Lacks g t := by
        rintro ⟨s',mem,lacks⟩
        exact distinct.1 (List.mem_map.mpr ⟨s',mem,lacks.1.trans own.1.symm⟩)
      simp [own,others]
    · simp [own]

theorem countDuplicate (t : String) : (f.problems g).count (.duplicate t) = (g.duplicates).count t := by
  have others : (f.tokens.flatMap (Family.problemsAt g)).count (.duplicate t) = 0 := by
    refine List.count_eq_zero.mpr fun mem => ?_
    obtain ⟨s,_,told⟩ := List.mem_flatMap.mp mem
    unfold Family.problemsAt at told
    split at told
    · split at told <;> simp at told
    · split at told <;> simp at told
  rw [Family.problems,List.count_append,others,Nat.add_zero]
  exact List.count_map_of_injective _ _ (fun _ _ same => Problem.duplicate.inj same) t

theorem duplicatesSecond (g : Group) : g.duplicates = atSecondPlaces g.tokens :=
  repeatedSeen [] fun _ => Iff.rfl

theorem duplicatesNil : g.duplicates = [] ↔ g.tokens.Nodup := by
  rw [duplicatesSecond,List.nodup_iff_count_le_one]
  constructor
  · intro empty t
    have count := countSecondPlaces g.tokens t
    rw [empty,List.count_nil] at count
    split_ifs at count
    omega
  · intro once
    refine List.eq_nil_iff_forall_not_mem.mpr fun t mem => ?_
    have count := countSecondPlaces g.tokens t
    rw [if_neg (by have := once t; omega),List.count_eq_zero] at count
    exact count mem

theorem familyTokens (built : f ∈ families) : (f.tokens.map TokenSpec.token).Nodup := by
  revert f
  decide

/-- Nothing is told about a group just if nothing is wrong with it. Else each token at a second place is told
once, and token by token what is missing or no choice; what is told is determined by that. -/
theorem problemsExact (f : Family) (g : Group) :
    (f.problems g = [] ↔ g.Sound f) ∧
    (∃ told, (∀ ps, Told g f.tokens ps ↔ ps = told) ∧
      f.problems g = (atSecondPlaces g.tokens).map .duplicate ++ told) ∧
    (∀ t, (f.problems g).count (.duplicate t) = if 2 ≤ g.tokens.count t then 1 else 0) ∧
    (f ∈ families → ∀ t, (f.problems g).count (.missing t) =
      if ∃ s ∈ f.tokens, s.Lacks g t then 1 else 0) := by
  refine ⟨?_,⟨_,fun ps => toldIff,?_⟩,fun t => ?_,fun built t => ?_⟩
  · rw [Family.problems,List.append_eq_nil_iff,List.map_eq_nil_iff,duplicatesNil,List.flatMap_eq_nil_iff]
    simp only [problemsAtNil]
    exact ⟨fun fine => ⟨fine.1,fun s mem => (fine.2 s mem).1,fun s mem => (fine.2 s mem).2⟩,
      fun sound => ⟨sound.once,fun s mem => ⟨sound.complete s mem,sound.chosen s mem⟩⟩⟩
  · rw [Family.problems,duplicatesSecond]
  · rw [countDuplicate,duplicatesSecond,countSecondPlaces]
  · have elsewhere : (g.duplicates.map Problem.duplicate).count (.missing t) = 0 := by simp [List.count_eq_zero]
    rw [Family.problems,List.count_append,elsewhere,Nat.zero_add,countMissing (familyTokens built)]

theorem problemsOfToggle :
    let g : Group := ⟨1,[⟨".. toggle_name:","a",1⟩,⟨".. toggle_use_cases:","vip, new,\tvip old",2⟩,
      ⟨".. toggle_name:","b",4⟩,⟨".. toggle_default:","",5⟩,⟨".. toggle_description:","what it is",6⟩,
      ⟨".. toggle_use_cases:","open",7⟩,⟨".. toggle_name:","c",8⟩,
      ⟨".. toggle_creation_date:","2020",9⟩]⟩
    let cases := "temporary, circuit_breaker, vip, opt_out, opt_in, open_edx"
    featureToggle ∈ families ∧
    featureToggle.problems g = [.duplicate ".. toggle_name:",.duplicate ".. toggle_use_cases:",
      .missing ".. toggle_implementation:",.invalidChoice "new" ".. toggle_use_cases:" cases,
      .invalidChoice "old" ".. toggle_use_cases:" cases] ∧
    (featureToggle.problems g).count (.missing ".. toggle_implementation:") = 1 ∧ ¬ g.Sound featureToggle := by
  intro g cases
  have built : featureToggle ∈ families := by decide
  have told : featureToggle.problems g = [.duplicate ".. toggle_name:",.duplicate ".. toggle_use_cases:",
      .missing ".. toggle_implementation:",.invalidChoice "new" ".. toggle_use_cases:" cases,
      .invalidChoice "old" ".. toggle_use_cases:" cases] := by decide +kernel
  obtain ⟨fine,_,_,missing⟩ := problemsExact featureToggle g
  refine ⟨built,told,(missing built _).trans (if_pos ?_),fun sound => ?_⟩
  · decide
  · rw [fine.mpr sound] at told
    cases told

end Problems

end ConventionLint.Annotation
