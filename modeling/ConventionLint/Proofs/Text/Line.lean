import Mathlib.Algebra.GroupWithZero.Nat
import Mathlib.Data.List.Basic
import Mathlib.Data.List.Count
import ConventionLint.Text.Line

/-! Lines and breaks of texts. A piece of a text is a line and its break, and no line feed is in the line. Texts
that are written one below the other take up a line each, and one more for each break in them. -/
namespace ConventionLint.Text

section Numbered
variable {text line piece : List Char} {n : Nat}

theorem numberedIff : (n,line) ∈ numberedLines text ↔ 1 ≤ n ∧ (lines text)[n - 1]? = some line := by
  simp [numberedLines,List.mk_mem_zipIdx_iff_le_and_getElem?_sub]

theorem segmentFree (mem : piece ∈ segments text) : '\n' ∉ piece.dropLast := by
  induction text generalizing piece with
  | nil => cases mem
  | cons c cs ih =>
    rw [segments] at mem
    split at mem
    · rcases List.mem_cons.mp mem with rfl | later
      · exact List.not_mem_nil
      · exact ih later
    · next other =>
      split at mem
      · rw [List.mem_singleton.mp mem]
        exact List.not_mem_nil
      · next first rest cut =>
        rcases List.mem_cons.mp mem with rfl | later
        · cases first with
          | nil => exact List.not_mem_nil
          | cons d first =>
            rw [List.dropLast_cons_of_ne_nil (List.cons_ne_nil d first),List.mem_cons,not_or]
            exact ⟨Ne.symm other,ih (by rw [cut]; exact List.mem_cons_self)⟩
        · exact ih (by rw [cut]; exact List.mem_cons_of_mem _ later)

theorem withoutBreakSplit (free : '\n' ∉ piece.dropLast) :
    (∃ behind, piece = withoutBreak piece ++ behind) ∧ '\n' ∉ withoutBreak piece := by
  unfold withoutBreak
  split
  · next rest same =>
    obtain rfl : piece = rest.reverse ++ ['\r','\n'] := by simpa using congrArg List.reverse same
    exact ⟨⟨_,rfl⟩,fun mem => free (by simp [List.mem_reverse.mp mem])⟩
  · next rest _ same =>
    obtain rfl : piece = rest.reverse ++ ['\n'] := by simpa using congrArg List.reverse same
    exact ⟨⟨_,rfl⟩,by simpa using free⟩
  · next _ other =>
    refine ⟨⟨[],(List.append_nil piece).symm⟩,fun mem => ?_⟩
    rcases List.eq_nil_or_concat piece with rfl | ⟨start,c,rfl⟩
    · cases mem
    · rw [List.concat_eq_append] at mem free other
      have last : c = '\n' := by simpa [show '\n' ∉ start by simpa using free,eq_comm] using mem
      exact other start.reverse (by simp [last])

theorem numberedSplit (there : (n,line) ∈ numberedLines text) : ∃ behind,
    ((segments text).drop (n - 1)).flatten = line ++ behind ∧ '\n' ∉ line ∧ 1 ≤ n ∧
      n ≤ (segments text).length := by
  obtain ⟨positive,listed⟩ := numberedIff.mp there
  rw [lines,List.getElem?_map,Option.map_eq_some_iff] at listed
  obtain ⟨piece,found,rfl⟩ := listed
  obtain ⟨inside,same⟩ := List.getElem?_eq_some_iff.mp found
  obtain ⟨⟨behind,whole⟩,free⟩ := withoutBreakSplit (segmentFree (List.mem_of_getElem? found))
  refine ⟨behind ++ ((segments text).drop n).flatten,?_,free,positive,by omega⟩
  rw [List.drop_eq_getElem_cons inside,same,List.flatten_cons,← List.append_assoc,← whole,
    Nat.sub_add_cancel positive]

end Numbered

def Unbroken (s : String) : Prop := '\n' ∉ s.toList

instance (s : String) : Decidable (Unbroken s) := inferInstanceAs (Decidable (¬ _))

def breaks (s : String) : Nat := s.toList.count '\n'

section Unbroken
variable {s s' : String} {cs ds : List Char}

theorem breaksZero : breaks s = 0 ↔ Unbroken s := List.count_eq_zero

theorem breaksAppend : breaks (s ++ s') = breaks s + breaks s' := by
  simp [breaks,List.count_append]

@[simp] theorem unbrokenAppend : Unbroken (s ++ s') ↔ Unbroken s ∧ Unbroken s' := by
  simp [Unbroken]

theorem unbrokenList : Unbroken (String.ofList cs) ↔ '\n' ∉ cs := by
  simp [Unbroken]

theorem unbrokenNat (n : Nat) : Unbroken (toString n) := by
  change '\n' ∉ n.repr.toList
  rw [Nat.toList_repr]
  exact fun mem => absurd (Nat.isDigit_of_mem_toDigits (by decide) (by decide) mem) (by decide)

theorem unbrokenIntercalate {sep : String} {ss : List String} (own : Unbroken sep) :
    Unbroken (sep.intercalate ss) ↔ ∀ s ∈ ss, Unbroken s := by
  induction ss with
  | nil => exact iff_of_true List.not_mem_nil nofun
  | cons s ss ih =>
    cases ss with
    | nil => simp
    | cons s' ss =>
      rw [List.forall_mem_cons,← ih]
      simp [own]

theorem partShown {sep : String} {ss : List String} (mem : s ∈ ss) :
    s.toList <:+: (sep.intercalate ss).toList := by
  induction ss with
  | nil => cases mem
  | cons s' ss ih =>
    cases ss with
    | nil => simp [List.mem_singleton.mp mem]
    | cons s'' ss =>
      rw [String.intercalate_cons_cons,String.toList_append,String.toList_append]
      rcases List.mem_cons.mp mem with rfl | later
      · exact ⟨[],sep.toList ++ (sep.intercalate (s'' :: ss)).toList,by simp⟩
      · exact (ih later).trans (List.suffix_append _ _).isInfix

end Unbroken

def ownLines (s : String) : List (List Char) := segments (s ++ "\n").toList

theorem segmentsBehind (cs ds : List Char) :
    segments (cs ++ '\n' :: ds) = segments (cs ++ ['\n']) ++ segments ds := by
  induction cs with
  | nil => simp [segments]
  | cons c cs ih =>
    simp only [List.cons_append,segments]
    split
    · rw [ih,List.cons_append]
    · rw [ih]
      cases first : segments (cs ++ ['\n']) with
      | nil =>
        have whole := segments_flatten (cs ++ ['\n'])
        rw [first] at whole
        simp at whole
      | cons piece rest => rfl

theorem lengthSegments (cs : List Char) : (segments (cs ++ ['\n'])).length = cs.count '\n' + 1 := by
  induction cs with
  | nil => rfl
  | cons c cs ih =>
    rw [List.cons_append,segments,List.count_cons]
    split
    · next same => simp [same,ih]
    · next other =>
      rw [if_neg (by simpa using other),Nat.add_zero,← ih]
      cases first : segments (cs ++ ['\n']) with
      | nil =>
        rw [first] at ih
        cases ih
      | cons piece rest => rfl

theorem lengthOwnLines (s : String) : (ownLines s).length = breaks s + 1 := by
  rw [ownLines,String.toList_append]
  exact lengthSegments s.toList

theorem ownLine {s : String} (unbroken : Unbroken s) : ownLines s = [(s ++ "\n").toList] := by
  obtain ⟨piece,single⟩ := List.length_eq_one_iff.mp ((lengthOwnLines s).trans (by rw [breaksZero.mpr unbroken]))
  have whole := segments_flatten (s ++ "\n").toList
  rw [← ownLines,single] at whole
  rw [single,← whole,List.flatten_singleton]

theorem segmentsJoin (ss : List String) :
    segments (String.join (ss.map (· ++ "\n"))).toList = ss.flatMap ownLines := by
  induction ss with
  | nil => rfl
  | cons s ss ih =>
    have first : (String.join ((s :: ss).map (· ++ "\n"))).toList =
        s.toList ++ '\n' :: (String.join (ss.map (· ++ "\n"))).toList := by
      simp [String.toList_join]
    rw [first,segmentsBehind,ih,List.flatMap_cons,ownLines,String.toList_append]
    rfl

theorem lengthJoin (ss : List String) :
    (segments (String.join (ss.map (· ++ "\n"))).toList).length = ss.length + (ss.map breaks).sum := by
  rw [segmentsJoin]
  induction ss with
  | nil => rfl
  | cons s ss ih =>
    simp only [List.flatMap_cons,List.length_append,lengthOwnLines,ih,List.length_cons,List.map_cons,List.sum_cons]
    omega

theorem linesIff (ss : List String) :
    segments (String.join (ss.map (· ++ "\n"))).toList = ss.map (fun s => (s ++ "\n").toList) ↔
      ∀ s ∈ ss, Unbroken s := by
  constructor
  · intro same s mem
    have total := lengthJoin ss
    rw [same,List.length_map] at total
    have noBreak : (ss.map breaks).sum = 0 := by omega
    exact breaksZero.mp (List.sum_eq_zero_iff_forall_eq_nat.mp noBreak _ (List.mem_map_of_mem mem))
  · intro unbroken
    rw [segmentsJoin,List.flatMap_congr fun s mem => ownLine (unbroken s mem)]
    exact List.flatMap_pure_eq_map _ _

end ConventionLint.Text
