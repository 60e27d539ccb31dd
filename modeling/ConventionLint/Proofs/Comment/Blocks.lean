import ConventionLint.Proofs.Comment.Pragma
import ConventionLint.Proofs.Grammar.Blocks
import ConventionLint.Proofs.Grammar.Indentation

/-! Pragmas in blocks. The end of a block is where its indentation ends, while a pragma ends before the first
line that is indented less, whatever the line is: a line in brackets or in a string and a comment may end
it within its block. The first lines of statements do not. -/
namespace ConventionLint.Comment
open Grammar (Concrete StartsLine Token codeIndent depth? layout scan)
open Text (allBlank numberedLines)

variable {text line : List Char} {p : Pragma}

theorem tokenLines {program : Concrete} (parsed : Grammar.parse text = .ok program) {first last : Token}
    (order : [first,last].Sublist (layout (scan text))) (listed : last ∈ scan text) :
    first.span.start.line ≤ last.span.start.line ∧ last.span.start.line ≤ (Text.lines text).length := by
  have valid := Grammar.scanValid (Grammar.parseValid parsed)
  obtain ⟨q,rest,reached,_⟩ := Grammar.tokenStarts listed (valid last listed)
  have inside := Grammar.lineInside reached
  obtain ⟨hi,all⟩ := Grammar.layoutSpans Grammar.lineAhead valid
  obtain ⟨mid,⟨_,own,ends⟩,_,⟨begins,_⟩,_⟩ := Grammar.spansSublist order all
  refine ⟨by omega,?_⟩
  rwa [Text.lines,List.length_map]

theorem spacesIndent {k : Nat} (spaces : List.replicate k ' ' <+: line) : k ≤ indentation line := by
  obtain ⟨more,rfl⟩ := spaces
  have blank : ∀ c ∈ List.replicate k ' ', Text.isBlank c = true := by
    intro c mem
    rw [List.eq_of_mem_replicate mem]
    rfl
  have size : Text.Utf8.size (List.replicate k ' ') = k :=
    (Grammar.sizeSpaces fun c mem => List.eq_of_mem_replicate mem).trans List.length_replicate
  rw [indentation,List.takeWhile_append_of_pos blank,Text.Utf8.sizeAppend,size]
  exact Nat.le_add_right k _

section Block
variable {before first between after : List Token} {opening comment statement t : Token} {i : Nat}

theorem codeInBlock (laid : layout (scan text) =
      before ++ opening :: (first ++ comment :: between ++ statement :: after))
    (opens : opening.lexeme = .indent) (within : (depth? 0 (first ++ comment :: between)).isSome)
    (mem : t ∈ between ++ [statement]) (code : t.isComment = false) (lead : t.lead = some i) :
    codeIndent (first ++ comment :: between ++ statement :: after) ≤ i := by
  obtain ⟨front,behind,split⟩ := List.append_of_mem mem
  have whole : first ++ comment :: between ++ statement :: after =
      (first ++ comment :: front) ++ t :: (behind ++ after) := by
    have both := congrArg (· ++ after) split
    simp only [List.append_assoc,List.nil_append,List.cons_append] at both ⊢
    rw [both]
  have sooner : front <+: between := by
    rcases List.prefix_concat_iff.mp ⟨_,split.symm⟩ with all | sooner
    · simp [← all] at split
    · exact sooner
  obtain ⟨more,rfl⟩ := sooner
  rw [← List.cons_append,← List.append_assoc] at within
  have deeper := Grammar.blockIndented (whole ▸ laid) opens (Grammar.depthHead within) code lead
  rwa [← whole] at deeper

/-- A pragma on a line of its own in a block holds for a later statement of the block, or of a block in it,
unless a line up to the statement is indented less. A line that starts with code behind spaces never is. -/
theorem blockPragmaReaches {program : Concrete} (parsed : Grammar.parse text = .ok program)
    (laid : layout (scan text) = before ++ opening :: (first ++ comment :: between ++ statement :: after))
    (opens : opening.lexeme = .indent) (within : (depth? 0 (first ++ comment :: between)).isSome)
    (listed : statement ∈ scan text)
    (there : (comment.span.start.line,line) ∈ numberedLines text)
    (found : Pragma.ofLine? line = some p) (block : p.scope = .block)
    (indented : indentation line ≤ codeIndent (first ++ comment :: between ++ statement :: after)) :
    (∀ name ∈ p.names, ∀ code,
      isSuppressed (Suppression.ofText text) statement.span.start.line name code = true ↔
        (∀ j l, (j,l) ∈ numberedLines text → comment.span.start.line < j →
          j ≤ statement.span.start.line → staysIn (indentation line) l = true) ∨
        ∃ s ∈ Suppression.ofText text, s.first ≠ comment.span.start.line ∧
          s.holdsFor statement.span.start.line name code = true) ∧
    (∀ t ∈ between ++ [statement], t.isComment = false → ∀ i, t.lead = some i → indentation line ≤ i) ∧
    ((∀ j l, (j,l) ∈ numberedLines text → comment.span.start.line < j →
        j ≤ statement.span.start.line → allBlank l = true ∨ ∃ t ∈ between ++ [statement],
          t.isComment = false ∧ t.span.start.line = j ∧ StartsLine text l t) →
      ∀ name ∈ p.names, ∀ code,
        isSuppressed (Suppression.ofText text) statement.span.start.line name code = true) := by
  have order : [comment,statement].Sublist (layout (scan text)) := by
    rw [laid]
    refine .trans ?_ ((List.sublist_cons_self opening _).trans (List.sublist_append_right before _))
    exact List.Sublist.append (List.singleton_sublist.mpr (by simp)) (List.singleton_sublist.mpr (by simp))
  obtain ⟨notBefore,inside⟩ := tokenLines parsed order listed
  have reaches {name : String} (mem : name ∈ p.names) (code : String) :=
    suppressedByBlock there found block notBefore inside mem code
  have deep : ∀ t ∈ between ++ [statement], t.isComment = false → ∀ i, t.lead = some i →
      indentation line ≤ i := fun t mem code i lead =>
    indented.trans (codeInBlock laid opens within mem code lead)
  refine ⟨fun name mem code => reaches mem code,deep,fun plain name mem code => ?_⟩
  refine (reaches mem code).mpr (.inl fun j l numbered behind upTo => ?_)
  -- what the lexer counts as an indentation is bounded from below by the block, what the pragma counts is not
  rcases plain j l numbered behind upTo with blank | ⟨t,own,isCode,rfl,starts⟩
  · simp [staysIn,blank]
  · have inLayout : t ∈ layout (scan text) := by
      rw [laid]
      rcases List.mem_append.mp own with front | last
      · simp [front]
      · simp [List.mem_singleton.mp last]
    have scanned := Grammar.scannedOfLead inLayout starts.1
    have valid := Grammar.scanValid (Grammar.parseValid parsed) t scanned
    have far := deep t own isCode _ (Grammar.leadOfSpaces scanned valid numbered starts)
    simp [staysIn,far.trans (spacesIndent starts.2.1)]

end Block

theorem stringEndsPragma :
    let text := "if 1:\n    # pylint: disable=foo\n    a = 1\n    x = '''\nb'''\n    y = 1\n".toList
    let tokens := layout (scan text)
    let opening := Grammar.layoutToken .indent ⟨1,5,5⟩
    let comment : Token := ⟨.comment,⟨⟨2,4,10⟩,⟨2,25,31⟩⟩,some 4⟩
    let soon : Token := ⟨.word "x",⟨⟨4,4,46⟩,⟨4,5,47⟩⟩,some 4⟩
    let later : Token := ⟨.word "y",⟨⟨6,4,63⟩,⟨6,5,64⟩⟩,some 4⟩
    (Grammar.parse text).toOption.isSome = true ∧
    tokens = tokens.take 3 ++ opening :: ([] ++ comment :: (tokens.drop 5).take 4 ++ soon :: tokens.drop 10) ∧
    tokens = tokens.take 3 ++ opening :: ([] ++ comment :: (tokens.drop 5).take 9 ++ later :: tokens.drop 15) ∧
    isSuppressed (Suppression.ofText text) 4 "foo" "C7620" = true ∧
    isSuppressed (Suppression.ofText text) 6 "foo" "C7620" = false ∧
    ¬ ∀ j l, (j,l) ∈ numberedLines text → 2 < j → j ≤ 6 → staysIn 4 l = true := by
  intro text tokens opening comment soon later
  have toSoon : tokens = tokens.take 3 ++
      opening :: ([] ++ comment :: (tokens.drop 5).take 4 ++ soon :: tokens.drop 10) := by decide +kernel
  have toLater : tokens = tokens.take 3 ++
      opening :: ([] ++ comment :: (tokens.drop 5).take 9 ++ later :: tokens.drop 15) := by decide +kernel
  have isRead : (Grammar.parse text).toOption.isSome = true := by decide +kernel
  have there : (comment.span.start.line,"    # pylint: disable=foo".toList) ∈ numberedLines text := by
    decide +kernel
  have found : Pragma.ofLine? "    # pylint: disable=foo".toList = some ⟨["foo"],.block⟩ := by decide +kernel
  have plain : ∀ e ∈ numberedLines text, 2 < e.1 → e.1 ≤ 4 → allBlank e.2 = true ∨
      ∃ t ∈ (tokens.drop 5).take 4 ++ [soon], t.isComment = false ∧ t.span.start.line = e.1 ∧
        StartsLine text e.2 t := by decide +kernel
  have ended : isSuppressed (Suppression.ofText text) 6 "foo" "C7620" = false := by decide +kernel
  cases parsed : Grammar.parse text with
  | error e => simp [parsed,Except.toOption] at isRead
  | ok program =>
    obtain ⟨_,_,holds⟩ := blockPragmaReaches parsed toSoon rfl (by decide +kernel) (by decide +kernel) there
      found rfl (by decide +kernel)
    obtain ⟨heldIff,_⟩ := blockPragmaReaches parsed toLater rfl (by decide +kernel) (by decide +kernel) there
      found rfl (by decide +kernel)
    refine ⟨rfl,toSoon,toLater,holds (fun j l numbered => plain (j,l) numbered) "foo" (.head _) "C7620",
      ended,fun all => ?_⟩
    rw [(heldIff "foo" (.head _) "C7620").mpr (.inl all)] at ended
    cases ended

end ConventionLint.Comment
