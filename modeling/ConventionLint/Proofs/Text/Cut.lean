import Mathlib.Data.List.Infix
import Mathlib.Data.List.TakeWhile
import ConventionLint.Text.Cut

/-! Cutting a text at the leftmost place of a part finds that place, and cutting it behind a run of characters
finds the end of the run. -/
namespace ConventionLint.Text

theorem spanned {α : Type*} {p : α → Bool} {run rest : List α} (all : ∀ a ∈ run, p a = true)
    (stops : ∀ a, rest.head? = some a → p a = false) :
    (run ++ rest).takeWhile p = run ∧ (run ++ rest).dropWhile p = rest := by
  rw [List.takeWhile_append_of_pos all,List.dropWhile_append_of_pos all]
  cases rest with
  | nil => exact ⟨List.append_nil run,rfl⟩
  | cons a rest => simp [stops a rfl]

theorem cutFirst {part before after : List Char} (nonempty : part ≠ [])
    (first : ¬ part <:+: before ++ part.dropLast) :
    cutAt? part (before ++ part ++ after) = some (before,after) := by
  induction before with
  | nil =>
    have here := dropHead?_append part after
    cases part with
    | nil => exact absurd rfl nonempty
    | cons p ps =>
      simp only [List.nil_append,List.cons_append] at here ⊢
      simp only [cutAt?,here]
  | cons c before ih =>
    have rest := ih fun inside => first (inside.trans (List.suffix_cons c _).isInfix)
    have away : dropHead? part (c :: (before ++ part ++ after)) = none := by
      cases found : dropHead? part (c :: (before ++ part ++ after)) with
      | none => rfl
      | some tail =>
        have whole : part <+: (c :: (before ++ part.dropLast)) ++ ([part.getLast nonempty] ++ after) := by
          refine ⟨tail,?_⟩
          rw [← eq_append_of_dropHead? found]
          conv_lhs => rw [← List.dropLast_append_getLast nonempty]
          simp
        have short : part.length ≤ (c :: (before ++ part.dropLast)).length := by
          simp only [List.length_cons,List.length_append,List.length_dropLast]
          omega
        have inside := List.prefix_of_prefix_length_le whole (List.prefix_append _ _) short
        exact absurd inside.isInfix first
    simp only [List.cons_append,cutAt?,away,rest,Option.map_some]

theorem containsIff {part cs : List Char} : contains part cs = true ↔ part <:+: cs := by
  rw [contains,Option.isSome_iff_exists]
  constructor
  · rintro ⟨⟨before,after⟩,found⟩
    exact ⟨before,after,(eq_append_of_cutAt? found).symm⟩
  · rintro ⟨before,after,rfl⟩
    induction before with
    | nil =>
      rw [List.nil_append]
      cases whole : part ++ after with
      | nil =>
        obtain ⟨rfl,rfl⟩ := List.append_eq_nil_iff.mp whole
        exact ⟨_,rfl⟩
      | cons c cs =>
        rw [cutAt?,← whole,dropHead?_append]
        exact ⟨_,rfl⟩
    | cons c before ih =>
      obtain ⟨_,found⟩ := ih
      rw [List.cons_append,List.cons_append,cutAt?,found]
      split
      · exact ⟨_,rfl⟩
      · exact ⟨_,rfl⟩

def BeginsIn (part first second : List Char) : Prop :=
  ∃ before rest, first = before ++ rest ∧ rest ≠ [] ∧ part <+: rest ++ second

theorem infixAppend {part first second : List Char} :
    part <:+: first ++ second ↔ part <:+: second ∨ BeginsIn part first second := by
  constructor
  · rintro ⟨before,after,whole⟩
    rw [List.append_assoc] at whole
    rcases List.append_eq_append_iff.mp whole with ⟨rest,rfl,tail⟩ | ⟨more,rfl,tail⟩
    · cases rest with
      | nil => exact .inl ⟨[],after,by simpa using tail⟩
      | cons c rest => exact .inr ⟨before,c :: rest,rfl,List.cons_ne_nil c rest,after,tail⟩
    · exact .inl ⟨more,after,by rw [List.append_assoc,tail]⟩
  · rintro (⟨before,after,rfl⟩ | ⟨before,rest,rfl,_,after,tail⟩)
    · exact ⟨first ++ before,after,by simp⟩
    · exact ⟨before,after,by rw [List.append_assoc,tail,List.append_assoc]⟩

end ConventionLint.Text
