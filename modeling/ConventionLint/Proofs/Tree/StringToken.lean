import Mathlib.Data.List.Basic
import ConventionLint.Proofs.Text.Cut
import ConventionLint.Tree.Literal

/-! The quotes of a string. A backslash takes the character behind it along, so that a body ends where its
quotes stand for the first time without one. Then the token has just this body. -/
namespace ConventionLint.Tree

def quoteStyles : List (List Char) := [['\''],['"'],['\'','\'','\''],['"','"','"']]

/-- A body that ends where these quotes stand behind it. A single quote has it end in the same line. -/
inductive Closed (q : List Char) : List Char → Prop where
  | nil : Closed q []
  | escaped {c : Char} {cs : List Char} (rest : Closed q cs) : Closed q ('\\' :: c :: cs)
  | joined {cs : List Char} (rest : Closed q cs) : Closed q ('\\' :: '\r' :: '\n' :: cs)
  | plain {c : Char} {cs : List Char} (free : c ≠ '\\') (unclosed : ¬ q <+: (c :: cs) ++ q)
      (inline : q.length = 1 → c ≠ '\n' ∧ c ≠ '\r') (rest : Closed q cs) : Closed q (c :: cs)

namespace StringToken
variable {q mark body : List Char}

theorem dropTailIff {tail cs front : List Char} : dropTail? tail cs = some front ↔ cs = front ++ tail := by
  constructor
  · intro found
    obtain ⟨rest,dropped,rfl⟩ := Option.map_eq_some_iff.mp found
    have whole := congrArg List.reverse (Text.eq_append_of_dropHead? dropped)
    rwa [List.reverse_reverse,List.reverse_append,List.reverse_reverse] at whole
  · rintro rfl
    rw [dropTail?,List.reverse_append,Text.dropHead?_append,Option.map_some,List.reverse_reverse]

theorem quotesHead (cs : List Char) : quotes cs <+: cs := by
  unfold quotes
  split
  · next a b c cs =>
    split
    · exact ⟨cs,rfl⟩
    · exact ⟨b :: c :: cs,rfl⟩
  · next a cs _ => exact ⟨cs,rfl⟩
  · exact List.nil_prefix

theorem quotesIff (style : q ∈ quoteStyles) :
    quotes (q ++ body ++ q) = q ↔ (q.length = 1 → ¬ q ++ q <+: body ++ q) := by
  have single (a : Char) :
      quotes ([a] ++ body ++ [a]) = [a] ↔ ([a].length = 1 → ¬ [a] ++ [a] <+: body ++ [a]) := by
    cases body with
    | nil => exact iff_of_true rfl fun _ => by simp
    | cons c cs =>
      obtain ⟨d,ds,rest⟩ :=
        List.exists_cons_of_ne_nil (List.append_ne_nil_of_right_ne_nil cs (List.cons_ne_nil a []))
      have behind : c :: cs ++ [a] = c :: d :: ds := by rw [List.cons_append,rest]
      rw [List.append_assoc,behind,List.singleton_append,List.singleton_append,quotes]
      by_cases same : a = c ∧ c = d
      · obtain ⟨rfl,rfl⟩ := same
        simp
      · rw [if_neg same]
        refine iff_of_true rfl fun _ => ?_
        rintro ⟨rest,again⟩
        simp only [List.cons_append,List.nil_append,List.cons.injEq] at again
        exact same ⟨again.1,again.1.symm.trans again.2.1⟩
  simp only [quoteStyles,List.mem_cons,List.not_mem_nil,or_false] at style
  rcases style with rfl | rfl | rfl | rfl
  · exact single '\''
  · exact single '"'
  · exact iff_of_true rfl nofun
  · exact iff_of_true rfl nofun

theorem splitIff (letters : ∀ c ∈ mark, ¬ isQuote c) (style : q ∈ quoteStyles) :
    split? (mark ++ q ++ body ++ q) = some ⟨mark,body⟩ ↔ (q.length = 1 → ¬ q ++ q <+: body ++ q) := by
  have heads : ∀ q ∈ quoteStyles, q.head?.any isQuote := by decide
  obtain ⟨a,first,quote⟩ := (Option.any_eq_true _ _).mp (heads q style)
  have begins : q ++ body ++ q = a :: (q.tail ++ body ++ q) := by
    rw [← List.cons_head?_tail first]
    rfl
  have before : ∀ c ∈ mark, (!isQuote c) = true := fun c mem => by simpa using letters c mem
  have whole : mark ++ q ++ body ++ q = mark ++ (q ++ body ++ q) := by simp only [List.append_assoc]
  have stops : ∀ c, (q ++ body ++ q).head? = some c → (!isQuote c) = false := by
    intro c found
    rw [begins] at found
    cases found
    simpa using quote
  have ⟨taken,dropped⟩ := Text.spanned before stops
  have parts : split? (mark ++ q ++ body ++ q) =
      (dropTail? (quotes (q ++ body ++ q)) ((q ++ body ++ q).drop (quotes (q ++ body ++ q)).length)).bind
        fun inside => some ⟨mark,inside⟩ := by
    unfold split?
    dsimp only
    rw [whole,taken,dropped,if_neg (by simp [begins])]
    rfl
  rw [← quotesIff style,parts,Option.bind_eq_some_iff]
  constructor
  · rintro ⟨inside,found,same⟩
    cases same
    -- what is left of the token is the body only if as many quotes were taken off as it has
    have left := congrArg List.length (dropTailIff.mp found)
    have head := quotesHead (q ++ body ++ q)
    have own : q <+: q ++ body ++ q := ⟨body ++ q,by rw [List.append_assoc]⟩
    have bound := head.length_le
    simp only [List.length_drop,List.length_append] at left bound
    exact (List.prefix_of_prefix_length_le head own (by omega)).eq_of_length (by omega)
  · intro found
    refine ⟨body,dropTailIff.mpr ?_,rfl⟩
    rw [found,List.append_assoc,List.drop_left]

theorem splitApart (letters : ∀ c ∈ mark, ¬ isQuote c) (style : q ∈ quoteStyles) (apart : ¬ q <+: body) :
    split? (mark ++ q ++ body ++ q) = some ⟨mark,body⟩ := by
  refine (splitIff letters style).mpr fun single twice => ?_
  cases body with
  | nil =>
    have short := twice.length_le
    simp only [List.length_append,List.length_nil] at short
    omega
  | cons c cs =>
    have once := (List.prefix_append q q).trans twice
    exact apart (List.prefix_of_prefix_length_le once (List.prefix_append _ _) (by simp [single]))

theorem closedApart (style : q ∈ quoteStyles) (closed : Closed q body) : ¬ q <+: body := by
  have heads : ∀ q ∈ quoteStyles, q ≠ [] ∧ q.head? ≠ some '\\' := by decide
  obtain ⟨nonempty,free⟩ := heads q style
  intro begins
  cases closed with
  | nil => exact nonempty (List.prefix_nil.mp begins)
  | escaped | joined =>
    obtain ⟨rest,whole⟩ := begins
    have first := congrArg List.head? whole
    rw [List.head?_append_of_ne_nil q nonempty] at first
    exact free first
  | plain _ unclosed => exact unclosed (begins.trans (List.prefix_append _ _))

theorem splitQuoted (letters : ∀ c ∈ mark, ¬ isQuote c) (style : q ∈ quoteStyles) (closed : Closed q body) :
    split? (mark ++ q ++ body ++ q) = some ⟨mark,body⟩ :=
  splitApart letters style (closedApart style closed)

end StringToken

end ConventionLint.Tree
