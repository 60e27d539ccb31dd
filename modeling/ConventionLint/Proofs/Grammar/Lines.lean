import ConventionLint.Proofs.Grammar.Program
import ConventionLint.Proofs.Text.Line

/-! Places and the lines of a text. A scan and the cutting of a text into lines count the same line feeds,
so the offset of a place is made up of the lines before it and of its column. -/
namespace ConventionLint.Grammar
open Text (segments)

def linesSize (text : List Char) (count : Nat) : Nat :=
  Text.Utf8.size ((segments text).take count).flatten

section Lines
variable {text cs rest : List Char} {p : Position} {c : Char} {n : Nat}

theorem linesSizeZero : linesSize text 0 = 0 := rfl

theorem linesSizeBreak : linesSize ('\n' :: cs) (n + 1) = 1 + linesSize cs n := by
  simp [linesSize,segments,Text.Utf8.size,show '\n'.utf8Size = 1 from rfl]

theorem linesSizeOther (other : c ≠ '\n') :
    linesSize (c :: cs) (n + 1) = c.utf8Size + linesSize cs (n + 1) := by
  unfold linesSize
  rw [segments,if_neg other]
  cases segments cs with
  | nil => simp [Text.Utf8.size]
  | cons piece pieces => simp [Text.Utf8.size]

theorem advanceCons (p : Position) (c : Char) (cs : List Char) :
    p.advanceAll (c :: cs) = (p.advance c).advanceAll cs := rfl

theorem advanceBreak (p : Position) : p.advance '\n' = ⟨p.line + 1,0,p.offset + 1⟩ := rfl

theorem advanceOther (p : Position) (other : c ≠ '\n') :
    p.advance c = ⟨p.line,p.column + c.utf8Size,p.offset + c.utf8Size⟩ := if_neg other

theorem advanceByLines (cs rest : List Char) (p : Position) :
    ∃ n, (p.advanceAll cs).line = p.line + n ∧
      p.offset + linesSize (cs ++ rest) n + (p.advanceAll cs).column =
        (p.advanceAll cs).offset + if n = 0 then p.column else 0 := by
  induction cs generalizing p with
  | nil => exact ⟨0,rfl,by simp [Position.advanceAll,linesSizeZero]⟩
  | cons c cs ih =>
    obtain ⟨n,line,offset⟩ := ih (p.advance c)
    rw [advanceCons,List.cons_append]
    by_cases feed : c = '\n'
    · subst feed
      rw [advanceBreak] at line offset ⊢
      simp only [ite_self] at line offset
      refine ⟨n + 1,by omega,?_⟩
      rw [linesSizeBreak,if_neg (Nat.succ_ne_zero n)]
      omega
    · rw [advanceOther p feed] at line offset ⊢
      simp only at line offset
      refine ⟨n,line,?_⟩
      cases n with
      | zero =>
        simp only [linesSizeZero,if_true] at offset ⊢
        omega
      | succ n =>
        rw [if_neg (Nat.succ_ne_zero n)] at offset ⊢
        rw [linesSizeOther feed]
        omega

theorem offsetByLine (place : PlaceOf text p) :
    1 ≤ p.line ∧ p.offset = linesSize text (p.line - 1) + p.column ∧ p.offset ≤ Text.Utf8.size text := by
  obtain ⟨rest,cs,rfl,rfl⟩ := place
  obtain ⟨n,line,offset⟩ := advanceByLines cs rest .initial
  have bound : (Position.initial.advanceAll cs).offset ≤ Text.Utf8.size (cs ++ rest) := by
    rw [offsetOf,Text.Utf8.sizeAppend]
    exact Nat.le_add_right _ _
  simp only [Position.initial,ite_self,Nat.zero_add] at line offset bound ⊢
  rw [line,Nat.add_sub_cancel_left]
  exact ⟨Nat.le_add_right 1 n,by omega,bound⟩

theorem advanceLines (p : Position) (inside : n + 1 < (segments text).length) :
    p.advanceAll ((segments text).take (n + 1)).flatten =
      ⟨p.line + (n + 1),0,p.offset + linesSize text (n + 1)⟩ := by
  induction text generalizing p n with
  | nil => simp [segments] at inside
  | cons c text ih =>
    by_cases feed : c = '\n'
    · subst feed
      have lines : segments ('\n' :: text) = ['\n'] :: segments text := rfl
      rw [lines,List.length_cons] at inside
      rw [lines,List.take_succ_cons,List.flatten_cons,List.singleton_append,advanceCons,advanceBreak,
        linesSizeBreak]
      cases n with
      | zero => rfl
      | succ n =>
        rw [ih _ (by omega)]
        simp only [Position.mk.injEq,true_and]
        omega
    · rw [linesSizeOther feed]
      rw [segments,if_neg feed] at inside ⊢
      cases lines : segments text with
      | nil => simp [lines] at inside
      | cons piece pieces =>
        have next := ih (p.advance c) (n := n) (by simpa [lines] using inside)
        simp only [lines,List.take_succ_cons,List.flatten_cons,List.cons_append,advanceCons] at next ⊢
        rw [next,advanceOther p feed]
        simp only [Position.mk.injEq,true_and]
        omega

theorem lineReached (positive : 1 ≤ n) (inside : n ≤ (segments text).length) :
    Reached text ⟨n,0,linesSize text (n - 1)⟩ ((segments text).drop (n - 1)).flatten := by
  refine ⟨((segments text).take (n - 1)).flatten,?_,?_⟩
  · rw [← List.flatten_append,List.take_append_drop,Text.segments_flatten]
  · obtain ⟨m,rfl⟩ : ∃ m, n = m + 1 := ⟨n - 1,by omega⟩
    cases m with
    | zero => rfl
    | succ m =>
      rw [Nat.add_sub_cancel,advanceLines .initial (by omega)]
      simp only [Position.initial,Position.mk.injEq,true_and]
      omega

theorem lineStarts (positive : 1 ≤ n) (inside : n ≤ (segments text).length) :
    PlaceOf text ⟨n,0,linesSize text (n - 1)⟩ := placeOf (lineReached positive inside)

theorem lineAt {line : List Char} (there : (n,line) ∈ Text.numberedLines text) :
    ∃ before behind, text = before ++ (line ++ behind) ∧ '\n' ∉ line ∧
      (Position.initial.advanceAll before).line = n ∧ (Position.initial.advanceAll before).column = 0 := by
  obtain ⟨behind,rest,free,positive,inside⟩ := Text.numberedSplit there
  obtain ⟨before,whole,place⟩ := lineReached positive inside
  rw [rest] at whole
  exact ⟨before,behind,whole,free,by rw [← place],by rw [← place]⟩

theorem lineAhead (p : Position) (cs : List Char) : p.line ≤ (p.advanceAll cs).line := by
  obtain ⟨n,line,_⟩ := advanceByLines cs [] p
  omega

theorem advanceAppend (p : Position) (cs ds : List Char) :
    p.advanceAll (cs ++ ds) = (p.advanceAll cs).advanceAll ds := by
  simp [Position.advanceAll,List.foldl_append]

theorem linePrefix {ds : List Char} (kept : cs <+: ds) : (p.advanceAll cs).line ≤ (p.advanceAll ds).line := by
  obtain ⟨more,rfl⟩ := kept
  rw [advanceAppend]
  exact lineAhead _ more

theorem advanceWithin (p : Position) (free : '\n' ∉ cs) :
    p.advanceAll cs = ⟨p.line,p.column + Text.Utf8.size cs,p.offset + Text.Utf8.size cs⟩ := by
  induction cs generalizing p with
  | nil => rfl
  | cons c cs ih =>
    rw [List.mem_cons,not_or] at free
    rw [advanceCons,ih _ free.2,advanceOther p (Ne.symm free.1)]
    simp only [Text.Utf8.size,Nat.add_assoc]

theorem columnZero (first : (p.advanceAll cs).column = 0) : cs = [] ∨ ∃ ds, cs = ds ++ ['\n'] := by
  rcases List.eq_nil_or_concat cs with rfl | ⟨ds,d,rfl⟩
  · exact .inl rfl
  · refine .inr ⟨ds,?_⟩
    by_cases feed : d = '\n'
    · rw [feed,List.concat_eq_append]
    · rw [List.concat_eq_append,advanceAppend,advanceCons,advanceOther _ feed] at first
      have := d.utf8Size_pos
      simp only [Position.advanceAll,List.foldl_nil] at first
      omega

theorem lineEarlier {ds : List Char} (nonempty : ds ≠ []) (first : (p.advanceAll (cs ++ ds)).column = 0) :
    (p.advanceAll cs).line < (p.advanceAll (cs ++ ds)).line := by
  rw [advanceAppend] at first ⊢
  rcases columnZero first with empty | ⟨es,rfl⟩
  · exact absurd empty nonempty
  · rw [advanceAppend,advanceCons,advanceBreak]
    exact Nat.lt_succ_of_le (lineAhead _ es)

theorem lineInside (reached : Reached text p (c :: rest)) : p.line ≤ (segments text).length := by
  obtain ⟨cs,rfl,rfl⟩ := reached
  have counted (p : Position) : (p.advanceAll cs).line < p.line + (segments (cs ++ c :: rest)).length := by
    induction cs generalizing p with
    | nil =>
      show p.line < p.line + (segments (c :: rest)).length
      have nonempty : segments (c :: rest) ≠ [] := by
        intro empty
        have whole := Text.segments_flatten (c :: rest)
        simp [empty] at whole
      have := List.length_pos_iff.mpr nonempty
      omega
    | cons d cs ih =>
      rw [advanceCons,List.cons_append]
      have next := ih (p.advance d)
      by_cases feed : d = '\n'
      · subst feed
        rw [advanceBreak] at next ⊢
        simp only [segments,if_true,List.length_cons] at next ⊢
        omega
      · rw [advanceOther p feed] at next ⊢
        rw [segments,if_neg feed]
        cases lines : segments (cs ++ c :: rest) with
        | nil =>
          simp only [lines,List.length_nil] at next
          simp only [List.length_singleton]
          omega
        | cons piece pieces => simpa [lines] using next
  have := counted .initial
  simp only [Position.initial] at this ⊢
  omega

end Lines

end ConventionLint.Grammar
