import ConventionLint.Proofs.Grammar.OnwardStatements
import ConventionLint.Proofs.Grammar.Program
import ConventionLint.Proofs.Grammar.Scan

/-! The tree of a program lists what the text holds in its order. A program that is read has no invalid
token, since all tokens are taken and none of them is invalid; the scan of such a text goes forward, and
layout and the dropping of comments keep the tokens in their order. -/
namespace ConventionLint.Grammar

section Program
variable {rank : Position → Nat} {r : Reader} {s : Stream}

theorem advancesStep (adv : Advances rank r) : Advances rank (step r) where
  reads
    | .expression _ => Gives.expression adv
    | .operand _ => Gives.operand adv
    | .clause => Gives.clauseExpression adv
    | .typeForm _ => Gives.typeForm adv
    | .casePattern => Gives.casePattern adv
    | .suite => Gives.suite adv
  operand _ := GivesNode.operand

theorem advancesBounded (n : Nat) : Advances rank (readBounded n) := by
  induction n with
  | zero => exact ⟨fun _ _ => Gives.fail,fun _ => Always.fail⟩
  | succ n ih => exact advancesStep ih

theorem manyUntilEnd {α : Type} [Spanned α] {p : Parser (Option α)}
    (hp : ∀ s, Gives rank s p fun t o => Upto rank (rank s.front) t o ∧
      if o.isSome then t.tokens.length < s.tokens.length else t.tokens = []) :
    Gives rank s (Parser.many p) fun t as => Upto rank (rank s.front) t as ∧ t.tokens = [] := by
  have bounded (n : Nat) (s : Stream) (enough : s.tokens.length ≤ n) : Gives rank s (Parser.manyBounded p n)
      fun t as => Upto rank (rank s.front) t as ∧ t.tokens = [] := by
    induction n generalizing s with
    | zero => exact .pure ⟨spansNil (Nat.le_refl _),List.length_eq_zero_iff.mp (Nat.le_zero.mp enough)⟩
    | succ n ih =>
      refine (hp s).bind fun o t le h => ?_
      cases o with
      | none => exact .pure ⟨spansNil le,h.2⟩
      | some a =>
        have fewer : t.tokens.length < s.tokens.length := h.2
        refine (ih t (by omega)).bind fun as u _ hs => .pure ⟨?_,hs.2⟩
        exact spansCons (spansSome.mp h.1) hs.1 (Nat.le_refl _)
  exact Gives.get (bounded _ s (Nat.le_refl _))

theorem programStatementsGives (adv : Advances rank r) : Gives rank s (programStatements r)
    fun t cs => Upto rank (rank s.front) t cs ∧ t.tokens = [] := by
  refine (manyUntilEnd (α := List Concrete) fun t => Gives.peek ?_).bind fun _ _ _ h =>
    .pure ⟨spansFlatten h.1,h.2⟩
  cases next : t.next? with
  | none =>
    refine .pure ⟨spansNone (Nat.le_refl _),?_⟩
    simpa [Stream.next?] using next
  | some l =>
    exact (Gives.statements adv t).bind fun _ _ _ h => .pure ⟨spansSome.mpr h.1,h.2⟩

end Program

inductive Interspersed : Position → List Token → List Token → Prop where
  | nil {last : Position} (ls : List Lexeme) : Interspersed last [] (ls.map (layoutToken · last))
  | cons {last : Position} {t : Token} {ts us : List Token} (ls : List Lexeme)
      (rest : Interspersed t.span.stop ts us) :
      Interspersed last (t :: ts) (ls.map (layoutToken · last) ++ t :: us)

section Layout
variable {rank : Position → Nat} {last : Position} {hi : Nat} {ts us : List Token}

theorem spansLayout (ls : List Lexeme) (h : Spans rank (rank last) hi ts) :
    Spans rank (rank last) hi (ls.map (layoutToken · last) ++ ts) := by
  induction ls with
  | nil => exact h
  | cons l ls ih => exact ⟨_,⟨Nat.le_refl _,Nat.le_refl _,Nat.le_refl _⟩,ih⟩

theorem spansInterspersed (h : Interspersed last ts us) (all : Spans rank (rank last) hi ts) :
    Spans rank (rank last) hi us := by
  induction h with
  | nil ls => simpa using spansLayout ls all
  | cons ls _ ih =>
    obtain ⟨mid,⟨begins,own,ends⟩,rest⟩ := all
    refine spansLayout ls ⟨_,⟨begins,own,Nat.le_refl _⟩,ih ?_⟩
    exact spansSince rest ends

theorem keptInterspersed (h : Interspersed last ts us) : ts.Sublist us := by
  induction h with
  | nil ls => exact List.nil_sublist _
  | cons ls _ ih => exact (ih.cons_cons _).trans (List.sublist_append_right _ _)

theorem interspersedMember {t : Token} (h : Interspersed last ts us) (mem : t ∈ us) :
    t ∈ ts ∨ t.lead = none := by
  induction h with
  | nil ls =>
    obtain ⟨l,_,rfl⟩ := List.mem_map.mp mem
    exact .inr rfl
  | cons ls _ ih =>
    rcases List.mem_append.mp mem with mark | rest
    · obtain ⟨l,_,rfl⟩ := List.mem_map.mp mark
      exact .inr rfl
    · rcases List.mem_cons.mp rest with rfl | later
      · exact .inl List.mem_cons_self
      · exact (ih later).imp (List.mem_cons_of_mem _) id

theorem closeBlocksLayout (last : Position) (code : Nat) (comment : Option Nat) (levels : List Nat) :
    ∃ ls : List Lexeme, (closeBlocks last code comment levels).1 = ls.map (layoutToken · last) := by
  induction levels with
  | nil => exact ⟨[],rfl⟩
  | cons top levels ih =>
    unfold closeBlocks
    split
    · obtain ⟨ls,same⟩ := ih
      exact ⟨.dedent :: ls,congrArg (layoutToken .dedent last :: ·) same⟩
    · exact ⟨[],rfl⟩

theorem endedLayout (last : Position) (pending : Bool) : ∃ ls : List Lexeme,
    (if pending then [layoutToken .newline last] else []) = ls.map (layoutToken · last) := by
  cases pending with
  | false => exact ⟨[],rfl⟩
  | true => exact ⟨[.newline],rfl⟩

theorem layoutFromInterspersed {levels : List Nat} {pending header : Bool} :
    Interspersed last ts (layoutFrom levels pending header last ts) := by
  induction ts generalizing levels pending header last with
  | nil =>
    obtain ⟨ls,ended⟩ := endedLayout last pending
    have closed : levels.map (fun _ => layoutToken .dedent last) =
        (levels.map fun _ => Lexeme.dedent).map (layoutToken · last) := by simp
    rw [layoutFrom,ended,closed,← List.map_append]
    exact .nil _
  | cons t ts ih =>
    unfold layoutFrom
    extract_lets resume code ended
    have goesOn (ls : List Lexeme) (levels : List Nat) (pending : Bool) :
        Interspersed last (t :: ts) (ls.map (layoutToken · last) ++ resume levels pending) := by
      dsimp only [resume]
      split
      · exact .cons ls ih
      · exact .cons ls ih
    split
    · exact goesOn [] levels pending
    · split
      · exact goesOn [.indent] _ _
      · obtain ⟨ls,same⟩ : ∃ ls : List Lexeme, ended = ls.map (layoutToken · last) := endedLayout last pending
        dsimp only
        obtain ⟨ms,closed⟩ := closeBlocksLayout last code (if t.isComment then some _ else none) levels
        rw [same,closed,← List.map_append]
        exact goesOn _ _ _

end Layout

theorem readyAnywhere (s : Stream) : s.Ready fun _ => 0 := by
  obtain ⟨tokens,last⟩ := s
  refine ⟨0,?_⟩
  induction tokens with
  | nil => exact Nat.le_refl _
  | cons t ts ih => exact ⟨0,⟨Nat.le_refl _,Nat.le_refl _,Nat.le_refl _⟩,ih⟩

theorem offsetAhead (p : Position) (cs : List Char) : p.offset ≤ (p.advanceAll cs).offset := by
  rw [Position.offset_advanceAll]
  exact Nat.le_add_right _ _

theorem layoutInterspersed (text : List Char) : Interspersed .initial (scan text) (layout (scan text)) :=
  layoutFromInterspersed

theorem scannedOfLead {text : List Char} {t : Token} (mem : t ∈ layout (scan text)) (lead : t.lead.isSome) :
    t ∈ scan text := by
  refine (interspersedMember (layoutInterspersed text) mem).resolve_right fun noLead => ?_
  rw [noLead] at lead
  cases lead

theorem scanValid {text : List Char} (valid : ∀ t ∈ significantTokens text, t.lexeme ≠ .invalid) :
    ∀ t ∈ scan text, t.lexeme ≠ .invalid := by
  intro t mem same
  refine valid t (List.mem_filter.mpr ⟨(keptInterspersed (layoutInterspersed text)).mem mem,?_⟩) same
  simp [Token.isComment,same]

theorem layoutSpans {rank : Position → Nat} (ahead : ∀ p ds, rank p ≤ rank (p.advanceAll ds))
    {text : List Char} (valid : ∀ t ∈ scan text, t.lexeme ≠ .invalid) :
    ∃ hi, Spans rank (rank .initial) hi (layout (scan text)) := by
  obtain ⟨hi,all⟩ := (scanFromScanned _ .initial text).spans ahead valid
  exact ⟨hi,spansInterspersed (layoutInterspersed text) all⟩

theorem parseValid {text : List Char} {program : Concrete} (ok : parse text = .ok program) :
    ∀ t ∈ significantTokens text, t.lexeme ≠ .invalid := by
  unfold parse at ok
  dsimp only at ok
  split at ok
  · next read =>
    -- where all places rank alike every stream is ready, so the tokens need not be in order for this
    obtain ⟨onward,_,ended⟩ := programStatementsGives (advancesBounded _) (readyAnywhere _) _ _ read
    have noInvalid := onward.invalid
    simp only [Stream.invalid,ended,List.filter_nil] at noInvalid
    simpa using List.filter_eq_nil_iff.mp noInvalid.symm
  · cases ok

theorem parseInOrderBy {rank : Position → Nat} (ahead : ∀ p ds, rank p ≤ rank (p.advanceAll ds))
    {text : List Char} {program : Concrete} (ok : parse text = .ok program) :
    ∃ lo hi, rank program.span.start ≤ hi ∧ Spans rank lo hi program.children := by
  obtain ⟨hi,all⟩ := layoutSpans ahead (scanValid (parseValid ok))
  have ready : Stream.Ready rank ⟨significantTokens text,.initial⟩ :=
    ⟨hi,spansSublist List.filter_sublist all⟩
  unfold parse at ok
  dsimp only at ok
  split at ok
  · next read =>
    cases ok
    obtain ⟨_,below,_⟩ := programStatementsGives (advancesBounded _) ready _ _ read
    exact ⟨_,_,Nat.le_max_left _ _,spansTill below (Nat.le_max_right _ _)⟩
  · cases ok

theorem parseInOrder {text : List Char} {program : Concrete} (ok : parse text = .ok program) :
    ∃ lo hi, program.span.start.offset ≤ hi ∧ Spans Position.offset lo hi program.children :=
  parseInOrderBy offsetAhead ok

end ConventionLint.Grammar
