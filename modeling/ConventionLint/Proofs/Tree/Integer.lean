import ConventionLint.Proofs.Text.Number
import ConventionLint.Proofs.Tree.Constant

/-! Integer constants. A token is a decimal numeral or one with the mark of its base in front, with single
underscores between the digits and behind the mark. It is a constant of its mathematical value if that fits
into 63 bits; else, and with a suffix, it is no constant at all. -/
namespace ConventionLint.Tree
open ConventionLint.Grammar (Concrete Kind)
open ConventionLint.Text (Denotes)

inductive Spaced : List Char → List Char → Prop where
  | nil : Spaced [] []
  | next {c : Char} {written cs : List Char} (rest : Spaced written cs) : Spaced (c :: written) (c :: cs)
  | apart {c : Char} {written cs : List Char} (rest : Spaced written cs) :
      Spaced ('_' :: c :: written) (c :: cs)

def markedBases : List (Char × Nat) := [('x',16),('o',8),('b',2)]

/-- An integer token and its value. Zeros at the head of a decimal one are not ruled out. -/
inductive IsInteger : List Char → Nat → Prop where
  | decimal {first : Char} {written cs : List Char} {v : Nat} (spaced : Spaced written cs)
      (numeral : Denotes 10 (first :: cs) v) : IsInteger (first :: written) v
  | marked {mark : Char} {base : Nat} {written cs : List Char} {v : Nat}
      (known : (mark.toLower,base) ∈ markedBases) (spaced : Spaced written cs) (numeral : Denotes base cs v) :
      IsInteger ('0' :: mark :: written) v

def integerSuffixes : List Char := ['j','J','l','L']

theorem spacesDropped {written cs : List Char} (spaced : Spaced written cs) (dense : '_' ∉ cs) :
    withoutUnderscores written = cs := by
  unfold withoutUnderscores
  induction spaced with
  | nil => rfl
  | next _ ih =>
    obtain ⟨own,rest⟩ := not_or.mp (List.mem_cons.not.mp dense)
    rw [List.filter_cons_of_pos (by simpa using Ne.symm own),ih rest]
  | apart _ ih =>
    obtain ⟨own,rest⟩ := not_or.mp (List.mem_cons.not.mp dense)
    rw [List.filter_cons_of_neg (by simp),List.filter_cons_of_pos (by simpa using Ne.symm own),ih rest]

def significant (token : List Char) : List Char := (withoutUnderscores token).map Char.toLower

theorem significantAppend (token rest : List Char) :
    significant (token ++ rest) = significant token ++ significant rest := by
  simp [significant,withoutUnderscores]

section Reading
variable {base v : Nat} {mark : Char} {token written cs : List Char}

theorem significantSpaced (spaced : Spaced written cs) (numeral : Denotes base cs v) (hexadecimal : base ≤ 16) :
    Denotes base (significant written) v := by
  rw [significant,spacesDropped spaced (Text.digitsOnly numeral hexadecimal rfl)]
  exact Text.denotesLower numeral

theorem readMarked (known : (mark.toLower,base) ∈ markedBases) (written : List Char) :
    integerValue? ('0' :: mark :: written) = Text.bounded? base (2 ^ 63) (significant written) := by
  have dense : mark ≠ '_' := by
    rintro rfl
    exact absurd known (by simp [markedBases])
  have form : (withoutUnderscores ('0' :: mark :: written)).map Char.toLower =
      '0' :: mark.toLower :: significant written := by
    simp [withoutUnderscores,significant,dense]
  unfold integerValue?
  rw [form]
  simp only [markedBases,List.mem_cons,Prod.mk.injEq,List.not_mem_nil,or_false] at known
  rcases known with ⟨letter,rfl⟩ | ⟨letter,rfl⟩ | ⟨letter,rfl⟩ <;> rw [letter] <;> rfl

theorem readUnmarked (unmarked : ∀ m ∈ markedBases, m.1 ∉ significant token) :
    integerValue? token = Text.bounded? 10 (2 ^ 63) (significant token) := by
  have absent {mark : Char} {digits : List Char} (base : Nat) (known : (mark,base) ∈ markedBases)
      (form : significant token = '0' :: mark :: digits) : False :=
    unmarked _ known (form ▸ List.mem_cons_of_mem _ List.mem_cons_self)
  unfold integerValue?
  dsimp only
  split
  · next form => exact (absent 16 (by decide) form).elim
  · next form => exact (absent 8 (by decide) form).elim
  · next form => exact (absent 2 (by decide) form).elim
  · rfl

end Reading

theorem integerForm {token : List Char} {v : Nat} (integer : IsInteger token v) :
    ∃ base digits, base ≤ 16 ∧ Denotes base digits v ∧
      ∀ rest, (∀ m ∈ markedBases, m.1 ∉ significant rest) →
        integerValue? (token ++ rest) = Text.bounded? base (2 ^ 63) (digits ++ significant rest) := by
  cases integer with
  | @decimal first written cs v spaced numeral =>
    have whole : Denotes 10 (significant (first :: written)) v :=
      significantSpaced (.next spaced) numeral (by decide)
    refine ⟨10,_,by decide,whole,fun rest plain => ?_⟩
    rw [readUnmarked,significantAppend]
    intro m known
    rw [significantAppend,List.mem_append,not_or]
    exact ⟨Text.digitsOnly whole (by decide) ((by decide : ∀ m ∈ markedBases, Text.digitValue? 10 m.1 = none) m known),
      plain m known⟩
  | @marked mark base written cs v known spaced numeral =>
    have small : base ≤ 16 := (by decide : ∀ m ∈ markedBases, m.2 ≤ 16) _ known
    refine ⟨base,_,small,significantSpaced spaced numeral small,fun rest _ => ?_⟩
    rw [List.cons_append,List.cons_append,readMarked known,significantAppend]

theorem integerRead {token : List Char} {v : Nat} (integer : IsInteger token v) :
    integerValue? token = if v < 2 ^ 63 then some v else none := by
  obtain ⟨base,digits,small,numeral,read⟩ := integerForm integer
  have own := read [] (fun _ _ => List.not_mem_nil)
  rw [List.append_nil,significant,withoutUnderscores,List.filter_nil,List.map_nil,List.append_nil] at own
  rw [own,Text.boundedRead numeral small]

theorem suffixedRead {token : List Char} {v : Nat} (integer : IsInteger token v) {s : Char}
    (suffix : s ∈ integerSuffixes) : integerValue? (token ++ [s]) = none := by
  obtain ⟨base,digits,_,_,read⟩ := integerForm integer
  have letter : ∃ l, significant [s] = [l] ∧ l ≠ '+' ∧ (∀ m ∈ markedBases, m.1 ∉ [l]) ∧
      ∀ base, Text.digitValue? base l = none := by
    simp only [integerSuffixes,List.mem_cons,List.not_mem_nil,or_false] at suffix
    rcases suffix with rfl | rfl | rfl | rfl
    · exact ⟨'j',rfl,by decide,by decide,fun _ => rfl⟩
    · exact ⟨'j',rfl,by decide,by decide,fun _ => rfl⟩
    · exact ⟨'l',rfl,by decide,by decide,fun _ => rfl⟩
    · exact ⟨'l',rfl,by decide,by decide,fun _ => rfl⟩
  obtain ⟨l,same,unsigned,plain,foreign⟩ := letter
  rw [read [s] (same ▸ plain),same]
  exact Text.boundedForeign (List.mem_append_right digits List.mem_cons_self) (foreign base) unsigned _

namespace Lowering
variable {text : List Char} {c : Concrete}

theorem numberStep (kind : c.hasKind .integer) (r : Reader) :
    step text r c =
      match integerValue? (written text c).toList with
      | some n => constant c (.int n)
      | none => [unmodelled c []] := by
  unfold step
  rw [beq_iff_eq.mp kind]
  dsimp only
  rw [number,number?,if_pos kind]
  cases integerValue? (written text c).toList <;> rfl

theorem constantInteger {i : Int} (value : IsConstant text c (.int i)) :
    ∃ n : Nat, i = n ∧ integerValue? (written text c).toList = some n := by
  cases constantOwn value fun _ => [] with
  | string _ same =>
    unfold string at same
    extract_lets at same
    split at same
    · cases same
    · split at same <;> cases same
  | number _ same =>
    rcases numberLiteral same with ⟨n,same,found⟩ | ⟨_,same⟩
    · exact ⟨n,Literal.int.inj same,found⟩
    · cases same
  | word mem => simp at mem

end Lowering

/-- An integer token is a constant of its value, with which it is also met in the tree of a text, if that fits;
else it keeps its kind only. With a suffix it never fits. -/
theorem integersFit {token : List Char} {v : Nat} (integer : IsInteger token v) :
    integerValue? token = (if v ≤ 2 ^ 63 - 1 then some v else none) ∧
    (∀ s ∈ integerSuffixes, integerValue? (token ++ [s]) = none) ∧
    (∀ text r c, c.hasKind .integer → (Lowering.written text c).toList = token →
      Lowering.step text r c =
        if v ≤ 2 ^ 63 - 1 then Lowering.constant c (.int v) else [Lowering.unmodelled c []]) ∧
    (∀ text r c, c.hasKind .integer → ∀ s ∈ integerSuffixes, (Lowering.written text c).toList = token ++ [s] →
      Lowering.step text r c = [Lowering.unmodelled c []]) ∧
    ∀ text t, Tree.parse text = .ok t → ∀ i n, t.literal? i = some (.int n) →
      ((t.source i).toList = token → n = v ∧ v ≤ 2 ^ 63 - 1) ∧
      ∀ s ∈ integerSuffixes, (t.source i).toList ≠ token ++ [s] := by
  have read : integerValue? token = if v ≤ 2 ^ 63 - 1 then some v else none := by
    rw [integerRead integer]
    exact if_congr (by omega) rfl rfl
  have suffixed : ∀ s ∈ integerSuffixes, integerValue? (token ++ [s]) = none := fun s => suffixedRead integer
  refine ⟨read,suffixed,?_,?_,?_⟩
  · intro text r c kind same
    rw [Lowering.numberStep kind,same,read]
    by_cases fits : v ≤ 2 ^ 63 - 1
    · rw [if_pos fits,if_pos fits]
    · rw [if_neg fits,if_neg fits]
  · intro text r c kind s suffix same
    rw [Lowering.numberStep kind,same,suffixed s suffix]
  · intro text t parsed i n value
    obtain ⟨c,source,constant⟩ := constantOf parsed value
    obtain ⟨m,rfl,found⟩ := Lowering.constantInteger constant
    rw [source]
    refine ⟨fun same => ?_,fun s suffix same => ?_⟩
    · rw [same,read] at found
      split at found
      · next fits => exact ⟨congrArg Nat.cast (Option.some.inj found).symm,fits⟩
      · cases found
    · rw [same,suffixed s suffix] at found
      cases found

theorem leastUnfit :
    IsInteger ['0','X','_','8','0','0','0','_','0','0','0','0','0','0','0','0','0','0','0','0'] (2 ^ 63) ∧
    integerValue? ['0','X','_','8','0','0','0','_','0','0','0','0','0','0','0','0','0','0','0','0'] = none := by
  have zero : Text.IsDigit 16 '0' 0 := ⟨by decide,by decide⟩
  have spaced : Spaced ['_','8','0','0','0','_','0','0','0','0','0','0','0','0','0','0','0','0']
      ('8' :: List.replicate 15 '0') := by
    refine .apart (.next (.next (.next (.apart ?_))))
    repeat constructor
  have digits : List.Forall₂ (Text.IsDigit 16) ('8' :: List.replicate 15 '0') (8 :: List.replicate 15 0) := by
    refine .cons ⟨by decide,by decide⟩ ?_
    repeat first | exact .nil | refine .cons zero ?_
  have integer := IsInteger.marked (by decide : ('X'.toLower,16) ∈ markedBases) spaced
    ⟨List.cons_ne_nil _ _,_,digits,rfl⟩
  exact ⟨integer,(integersFit integer).1⟩

end ConventionLint.Tree
