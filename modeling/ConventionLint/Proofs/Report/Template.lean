import ConventionLint.Proofs.Text.Cut
import ConventionLint.Proofs.Text.Line
import ConventionLint.Report.Diagnostic

/-! Templates in pieces. The places for arguments cut a template into pieces without any place in them, and this in
one way only. A message is these pieces with the arguments between them; what stands in an argument never counts as a
place, so that another argument changes the message just where it stands. A message has the line breaks of its
template and of the arguments that have a place. -/
namespace ConventionLint.Report

namespace Template

def mark : List Char := ['\x7b','\x7d']

inductive Cut : List Char → List (List Char) → Prop where
  | whole {piece} (free : ¬mark <:+: piece) : Cut piece [piece]
  | more {piece rest pieces} (free : ¬mark <:+: piece) (behind : Cut rest pieces) :
      Cut (piece ++ mark ++ rest) (piece :: pieces)

def interleave : List (List Char) → List (List Char) → List Char
  | [], _ => []
  | [piece], _ => piece
  | piece :: next :: pieces, args => piece ++ args.headD [] ++ interleave (next :: pieces) args.tail

variable {piece rest cs : List Char} {pieces ps qs : List (List Char)}

theorem freeCons {c : Char} (other : ∀ cs, c = '\x7b' → piece = '\x7d' :: cs → False) (free : ¬mark <:+: piece) :
    ¬mark <:+: c :: piece := by
  intro inside
  rcases List.infix_cons_iff.mp inside with ⟨cs,begins⟩ | later
  · simp only [mark,List.cons_append,List.nil_append,List.cons.injEq] at begins
    exact other cs begins.1.symm begins.2.symm
  · exact free later

theorem cutExists (cs : List Char) : ∃ pieces, Cut cs pieces := by
  fun_induction places cs with
  | case1 rest ih =>
    obtain ⟨pieces,behind⟩ := ih
    have empty : ¬mark <:+: [] := by decide
    exact ⟨[] :: pieces,.more empty behind⟩
  | case2 c rest other ih =>
    obtain ⟨pieces,cut⟩ := ih
    cases cut with
    | whole free => exact ⟨[c :: rest],.whole (freeCons other free)⟩
    | @more piece rest pieces free behind =>
      refine ⟨(c :: piece) :: pieces,.more (freeCons (fun cs here next => ?_) free) behind⟩
      exact other _ here (by rw [next]; rfl)
  | case3 => exact ⟨[[]],.whole (by decide)⟩

theorem freeBeforeMark (free : ¬mark <:+: piece) : ¬mark <:+: piece ++ mark.dropLast := by
  intro inside
  rcases Text.infixAppend.mp inside with last | ⟨before,ends,rfl,nonempty,begins⟩
  · exact absurd last.length_le (by decide)
  · match ends with
    | [] => exact nonempty rfl
    | [c] =>
      obtain ⟨cs,same⟩ := begins
      simp [mark] at same
    | c :: d :: ends =>
      have within : mark <+: c :: d :: ends :=
        List.prefix_of_prefix_length_le begins (List.prefix_append _ _) (by simp [mark])
      exact free (within.isInfix.trans (List.suffix_append before _).isInfix)

theorem noMark (free : ¬mark <:+: piece) : Text.cutAt? mark piece = none := by
  simpa [Text.contains] using fun found => free (Text.containsIff.mp found)

theorem firstMark (free : ¬mark <:+: piece) : Text.cutAt? mark (piece ++ mark ++ rest) = some (piece,rest) :=
  Text.cutFirst (List.cons_ne_nil _ _) (freeBeforeMark free)

theorem cutCases (cut : Cut cs ps) : Text.cutAt? mark cs = none ∧ ps = [cs] ∨
    ∃ piece rest qs, Text.cutAt? mark cs = some (piece,rest) ∧ ps = piece :: qs ∧ Cut rest qs := by
  cases cut with
  | whole free => exact .inl ⟨noMark free,rfl⟩
  | more free behind => exact .inr ⟨_,_,_,firstMark free,rfl,behind⟩

theorem cutUnique (cut : Cut cs ps) (other : Cut cs qs) : ps = qs := by
  induction cut generalizing qs with
  | whole free =>
    rcases cutCases other with ⟨_,rfl⟩ | ⟨_,_,_,found,_⟩
    · rfl
    · cases (noMark free).symm.trans found
  | more free _ ih =>
    rcases cutCases other with ⟨missing,_⟩ | ⟨_,_,_,found,rfl,behind⟩
    · cases missing.symm.trans (firstMark free)
    · cases (firstMark free).symm.trans found
      rw [ih behind]

theorem fillFree (free : ¬mark <:+: piece) (args : List (List Char)) : fill piece args = piece := by
  induction piece with
  | nil => rfl
  | cons c piece ih =>
    have other : ∀ cs, c = '\x7b' → piece = '\x7d' :: cs → False := by
      rintro cs rfl rfl
      exact free (List.prefix_append mark cs).isInfix
    rw [fill.eq_2 args c piece other,ih fun inside => free (inside.trans (List.suffix_cons c _).isInfix)]

theorem fillBehind (free : ¬mark <:+: piece) (args : List (List Char)) :
    fill (piece ++ mark ++ rest) args = piece ++ args.headD [] ++ fill rest args.tail := by
  induction piece with
  | nil => rfl
  | cons c piece ih =>
    have other : ∀ cs, c = '\x7b' → piece ++ mark ++ rest = '\x7d' :: cs → False := by
      rintro cs rfl next
      cases piece with
      | nil => cases next
      | cons d piece =>
        cases next
        exact free (List.prefix_append mark piece).isInfix
    have later := ih fun inside => free (inside.trans (List.suffix_cons c _).isInfix)
    rw [List.cons_append,List.cons_append,fill.eq_2 args c _ other,later]
    rfl

theorem fillOfCut (cut : Cut cs pieces) (args : List (List Char)) : fill cs args = interleave pieces args := by
  induction cut generalizing args with
  | whole free => exact fillFree free args
  | more free behind ih =>
    rw [fillBehind free,ih]
    cases behind <;> rfl

theorem interleaveAt (pieces front : List (List Char)) (a : List Char) (behind : List (List Char)) :
    interleave pieces (front ++ a :: behind) = interleave (pieces.take (front.length + 1)) front ++
      if front.length + 1 < pieces.length then a ++ interleave (pieces.drop (front.length + 1)) behind else [] := by
  induction front generalizing pieces with
  | nil =>
    match pieces with
    | [] => rfl
    | [piece] => simp [interleave]
    | piece :: next :: pieces => simp [interleave]
  | cons b front ih =>
    match pieces with
    | [] => rfl
    | [piece] => simp [interleave]
    | piece :: next :: pieces =>
      have later := ih (next :: pieces)
      simp only [List.take_succ_cons,List.drop_succ_cons,List.length_cons] at later ⊢
      simp [interleave,later]

end Template

/-- A message is the pieces of its template with the arguments between them. One argument stands behind the piece
before its place, whatever is in it, and the rest of the message is the same for all that may stand there. -/
theorem renderedInPieces (m : Message) : ∃ pieces, (∀ ps, Template.Cut m.template.toList ps ↔ ps = pieces) ∧
    (∀ args, (m.render args).toList = Template.interleave pieces (args.map String.toList)) ∧
    ∀ front a behind, (m.render (front ++ a :: behind)).toList =
      Template.interleave (pieces.take (front.length + 1)) (front.map String.toList) ++
        if front.length + 1 < pieces.length then
          a.toList ++ Template.interleave (pieces.drop (front.length + 1)) (behind.map String.toList)
        else [] := by
  obtain ⟨pieces,cut⟩ := Template.cutExists m.template.toList
  have rendered (args : List String) :
      (m.render args).toList = Template.interleave pieces (args.map String.toList) := by
    rw [Message.render,String.toList_ofList,Template.fillOfCut cut]
  refine ⟨pieces,fun ps => ⟨fun other => Template.cutUnique other cut,fun same => same ▸ cut⟩,rendered,?_⟩
  intro front a behind
  rw [rendered,List.map_append,List.map_cons,Template.interleaveAt,List.length_map]

example : (⟨"E0001","nested","\x7b\x7b\x7d\x7d \x7b\x7d","in braces"⟩ : Message).render ["\x7b\x7d","x","y"] =
    "\x7b\x7b\x7d\x7d x" := by decide

section Breaks
open Text (breaks)

theorem breaksFill (template : List Char) (args : List (List Char)) :
    (Template.fill template args).count '\n' = template.count '\n' +
      ((args.take (Template.places template)).map fun a => a.count '\n').sum := by
  fun_induction Template.fill template args with
  | case1 rest args ih =>
    rw [List.count_append,ih,Template.places]
    cases args with
    | nil => simp
    | cons a args =>
      simp only [List.headD_cons,List.tail_cons,List.take_succ_cons,List.map_cons,List.sum_cons]
      simp
      omega
  | case2 c rest args other ih =>
    rw [List.count_cons,ih,List.count_cons,Template.places.eq_2 c rest other]
    omega
  | case3 => simp [Template.places]

theorem fillShown {template a : List Char} {args : List (List Char)}
    (placed : a ∈ args.take (Template.places template)) : a <:+: Template.fill template args := by
  fun_induction Template.fill template args with
  | case1 rest args ih =>
    rw [Template.places] at placed
    cases args with
    | nil => cases placed
    | cons b args =>
      rcases List.mem_cons.mp placed with rfl | later
      · exact List.infix_append' [] a _
      · exact (ih later).trans (List.suffix_append b _).isInfix
  | case2 c rest args other ih =>
    rw [Template.places.eq_2 c rest other] at placed
    exact (ih placed).trans (List.suffix_cons c _).isInfix
  | case3 => cases placed

def Message.placed (m : Message) (args : List String) : List String :=
  args.take (Template.places m.template.toList)

theorem breaksRender (m : Message) (args : List String) :
    breaks (m.render args) = breaks m.template + ((m.placed args).map breaks).sum := by
  rw [breaks,Message.render,String.toList_ofList,breaksFill,Message.placed,← List.map_take,List.map_map]
  rfl

theorem placedShown {m : Message} {args : List String} {a : String} (placed : a ∈ m.placed args) :
    a.toList <:+: (m.render args).toList := by
  rw [Message.render,String.toList_ofList]
  refine fillShown ?_
  rw [← List.map_take]
  exact List.mem_map_of_mem placed

end Breaks

end ConventionLint.Report
