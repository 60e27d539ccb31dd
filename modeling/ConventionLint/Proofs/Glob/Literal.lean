import ConventionLint.Proofs.Glob.Pattern

/-! Patterns that spell a text. With stars before it the text may begin in any directory, with stars behind it all
is meant that lies below. -/
namespace ConventionLint.Glob.Pattern

def onlyIf (b : Bool) (cs : List Char) : List Char := if b then cs else []

def literal (anywhere below : Bool) (word : String) : Pattern where
  text := (if anywhere then "**/" else "") ++ word ++ if below then "/**" else ""
  tokens := (if anywhere then [.anyComponents] else []) ++ (word.toList.map .char ++
    if below then [.char '/',.anyComponents] else [])

def bare (anywhere below : Bool) (word : String) : List Char :=
  onlyIf anywhere ['/'] ++ word.toList ++ onlyIf below ['/']

section Literal
variable {anywhere below : Bool} {word s : String} {inner cs : List Char}

theorem literalText : (literal anywhere below word).text.toList =
    onlyIf anywhere ['*','*'] ++ bare anywhere below word ++ onlyIf below ['*','*'] := by
  cases anywhere <;> cases below <;> simp [literal,bare,onlyIf]

theorem tokensOrdinary {word : List Char} (ordinary : ∀ c ∈ word, isOrdinary c) (position : Nat)
    (atStart : Bool) : tokensFrom position atStart word = .ok (word.map .char) := by
  induction word generalizing position atStart with
  | nil =>
    rw [tokensFrom]
    rfl
  | cons c word ih =>
    obtain ⟨plain,rest⟩ := List.forall_mem_cons.mp ordinary
    rw [tokensPlain plain,ih rest]
    rfl

theorem parseLiteral (ordinary : ∀ c ∈ word.toList, isOrdinary c) :
    parse (literal anywhere below word).text = .ok (literal anywhere below word) := by
  have behind (position : Nat) (atStart : Bool) :
      tokensFrom position atStart (word.toList ++ (onlyIf below ['/'] ++ onlyIf below ['*','*'])) =
        .ok (word.toList.map .char ++ if below then [.char '/',.anyComponents] else []) := by
    cases below with
    | true => exact tokensDirectory ordinary position atStart
    | false =>
      simp only [onlyIf,Bool.false_eq_true,if_false,List.append_nil]
      exact tokensOrdinary ordinary position atStart
  rw [parse,literalText,bare]
  simp only [List.append_assoc]
  cases anywhere with
  | true =>
    simp only [onlyIf,if_true,List.cons_append,List.nil_append]
    rw [tokensFrom,if_pos rfl,← onlyIf,← onlyIf,behind]
    rfl
  | false =>
    rw [onlyIf,onlyIf,if_neg Bool.false_ne_true,if_neg Bool.false_ne_true,List.nil_append,List.nil_append,behind]
    rfl

theorem eraseNothing (unstarred : '*' ∉ inner) (n : Nat) : Text.eraseAllBounded ['*','*'] n inner = inner := by
  cases n with
  | zero => rfl
  | succ n =>
    have absent : Text.cutAt? ['*','*'] inner = none := by
      rw [← Option.not_isSome_iff_eq_none]
      exact fun found => unstarred ((Text.containsIff.mp found).subset (by simp))
    rw [Text.eraseAllBounded,absent]

theorem eraseFirst (n : Nat) :
    Text.eraseAllBounded ['*','*'] (n + 1) ('*' :: '*' :: cs) = Text.eraseAllBounded ['*','*'] n cs := by
  have here : Text.cutAt? ['*','*'] ('*' :: '*' :: cs) = some ([],cs) := rfl
  rw [Text.eraseAllBounded,here]
  rfl

theorem eraseLast (unstarred : '*' ∉ inner) (n : Nat) :
    Text.eraseAllBounded ['*','*'] (n + 1) (inner ++ ['*','*']) = inner := by
  have here : Text.cutAt? ['*','*'] (inner ++ ['*','*'] ++ []) = some (inner,[]) :=
    Text.cutFirst (List.cons_ne_nil '*' ['*']) (starsOnce unstarred)
  rw [List.append_nil] at here
  rw [Text.eraseAllBounded,here]
  dsimp only
  rw [eraseNothing List.not_mem_nil,List.append_nil]

theorem bareUnstarred (ordinary : ∀ c ∈ word.toList, isOrdinary c) : '*' ∉ bare anywhere below word := by
  have inside : '*' ∉ word.toList := fun mem => nomatch ordinary _ mem
  cases anywhere <;> cases below <;> simp [bare,onlyIf,inside]

theorem eraseLiteral (ordinary : ∀ c ∈ word.toList, isOrdinary c) :
    Text.eraseAll ['*','*'] (literal anywhere below word).text.toList = bare anywhere below word := by
  have unstarred : '*' ∉ bare anywhere below word := bareUnstarred ordinary
  rw [literalText,Text.eraseAll]
  generalize bare anywhere below word = inner at unstarred
  cases anywhere <;> cases below <;>
    simp only [onlyIf,if_true,Bool.false_eq_true,if_false,List.nil_append,List.append_nil,List.cons_append,
      List.length_cons,List.length_append,List.length_nil]
  · exact eraseNothing unstarred _
  · exact eraseLast unstarred _
  · rw [eraseFirst,eraseNothing unstarred]
  · rw [eraseFirst,eraseLast unstarred]

theorem coreLiteral (ordinary : ∀ c ∈ word.toList, isOrdinary c) : (literal anywhere below word).core? =
    if 1 < Text.Utf8.size (bare anywhere below word) then some (bare anywhere below word) else none := by
  rw [core?,eraseLiteral ordinary]

theorem matchBelow : matchTokens (if below then [.char '/',.anyComponents] else []) cs = true ↔
    if below then ∃ v, cs = '/' :: v else cs = [] := by
  cases below with
  | false => simp [matchTokens]
  | true =>
    have anything (v : List Char) : matchTokens [.anyComponents] v = true := matchComponents.mpr (.inr (.inl rfl))
    have chars : matchTokens (['/'].map Token.char ++ [.anyComponents]) cs = true ↔ _ := matchChars ['/']
    simp only [List.map_cons,List.map_nil,List.cons_append,List.nil_append,anything,and_true] at chars
    simpa using chars

theorem fitsLiteral (nonempty : word ≠ "") : (literal anywhere below word).fits s = true ↔
    ∃ u v, s.toList = u ++ word.toList ++ v ∧ (u = [] ∨ anywhere = true ∧ ∃ above, u = above ++ ['/']) ∧
      if below then ∃ rest, v = '/' :: rest else v = [] := by
  have named : word.toList ≠ [] := mt String.toList_eq_nil_iff.mp nonempty
  rw [fits,literal]
  cases anywhere with
  | false =>
    simp only [Bool.false_eq_true,if_false,List.nil_append,matchChars,matchBelow,false_and,or_false]
    constructor
    · rintro ⟨v,same,rest⟩
      exact ⟨[],v,same,rfl,rest⟩
    · rintro ⟨u,v,same,rfl,rest⟩
      exact ⟨v,same,rest⟩
  | true =>
    simp only [if_true,List.cons_append,List.nil_append,matchComponents,matchChars,matchBelow,true_and]
    constructor
    · rintro (⟨v,same,rest⟩ | ⟨v,same,_⟩ | ⟨above,_,same,v,rfl,rest⟩)
      · exact ⟨[],v,same,.inl rfl,rest⟩
      · exact absurd (List.append_eq_nil_iff.mp same.symm).1 named
      · exact ⟨above ++ ['/'],v,by simpa using same,.inr ⟨above,rfl⟩,rest⟩
    · rintro ⟨u,v,same,rfl | ⟨above,rfl⟩,rest⟩
      · exact .inl ⟨v,same,rest⟩
      · exact .inr (.inr ⟨above,_,by simpa using same,v,rfl,rest⟩)

theorem excludesLiteral (ordinary : ∀ c ∈ word.toList, isOrdinary c) :
    (literal anywhere below word).excludes s = true ↔ (literal anywhere below word).fits s = true ∨
      1 < Text.Utf8.size (bare anywhere below word) ∧ bare anywhere below word <:+: s.toList := by
  rw [excludes,Bool.or_eq_true,coreLiteral ordinary]
  split
  · next long => simp [long,Text.containsIff]
  · next short => simp [short]

end Literal

end ConventionLint.Glob.Pattern
