import ConventionLint.Proofs.Comment.Literals
import ConventionLint.Proofs.Tree.StringToken

/-! The parts of string tokens. A token whose quotes stand in its body behind backslashes only falls into its
mark and its body. So does every literal that is read of a text, also a formatted one or one with a named
character escape, in which quotes may stand without a backslash. -/
namespace ConventionLint.Tree
open Comment (literals literalsFrom)
open Grammar (Admitting Broken Delimiter InHoles Moves Opening Position Scan Scanned Span Token Unnamed
  isStringMark movesInHoles movesLiterals plainLength stepStop)
open StringToken (isQuote split?)
open Text.Utf8 (slice)

structure ReadAs (token q : List Char) (t : StringToken) : Prop where
  whole : token = t.mark ++ q ++ t.body ++ q
  letters : ∀ c ∈ t.mark, isStringMark c = true
  quotes : q ∈ quoteStyles ∨ q = ['\x60']
  broken : t.isFormat = false → t.isRaw = true ∨ Unnamed t.body → Broken q t.body

structure Begun (front cs : List Char) (start : Position) (d : Delimiter) (mark body : List Char) : Prop where
  read : ∃ before, front = before ++ (mark ++ d.closing ++ body) ∧ start = Position.initial.advanceAll before
  letters : ∀ c ∈ mark, isStringMark c = true
  opened : d.OpenedBy mark (d.closing ++ body ++ cs)
  fresh : d.format = false → body = []

/-- What surrounds a place of a text. All literals but the innermost one are formatted. -/
structure Surrounded (front cs : List Char) (stack : List Opening) : Prop where
  begun : ∀ start d, .literal start d ∈ stack → ∃ mark body, Begun front cs start d mark body
  formatted : ∀ start d, .literal start d ∈ stack.tail → d.format = true
  holes : InHoles stack

section Steps
variable {front taken cs rest inner mark body : List Char} {start : Position} {d : Delimiter}
  {stack stack' outer : List Opening}

theorem Begun.on (begun : Begun front (taken ++ rest) start d mark body) (format : d.format = true) :
    Begun (front ++ taken) rest start d mark (body ++ taken) := by
  obtain ⟨⟨before,rfl,rfl⟩,letters,opened,_⟩ := begun
  refine ⟨⟨before,by simp only [List.append_assoc],rfl⟩,letters,?_,fun plain => ?_⟩
  · simpa only [List.append_assoc] using opened
  · rw [format] at plain
    cases plain

theorem Surrounded.allFormatted (around : Surrounded front cs stack) (admitting : Admitting stack) :
    ∀ start d, .literal start d ∈ stack → d.format = true := by
  intro start d mem
  cases stack with
  | nil => cases mem
  | cons o outer =>
    rcases List.mem_cons.mp mem with rfl | below
    · exact admitting start d outer rfl
    · exact around.formatted start d below

theorem Surrounded.moved (around : Surrounded front (taken ++ rest) stack) (admitting : Admitting stack)
    (moves : Moves stack stack') : Surrounded (front ++ taken) rest stack' where
  begun start d mem := by
    have before := movesLiterals moves mem
    obtain ⟨mark,body,begun⟩ := around.begun start d before
    exact ⟨mark,_,begun.on (around.allFormatted admitting start d before)⟩
  formatted start d mem := around.allFormatted admitting start d (movesLiterals moves (List.mem_of_mem_tail mem))
  holes := (movesInHoles moves around.holes).1

theorem Surrounded.opened (around : Surrounded front (taken ++ (mark ++ d.closing ++ rest)) stack)
    (outside : ∀ start d outer, stack ≠ .literal start d :: outer)
    (letters : ∀ c ∈ mark, isStringMark c = true) (opened : d.OpenedBy mark (d.closing ++ rest)) :
    Surrounded (front ++ (taken ++ (mark ++ d.closing))) rest
      (.literal (Position.initial.advanceAll (front ++ taken)) d :: stack) := by
  have formatted := around.allFormatted fun _ _ _ same => absurd same (outside _ _ _)
  refine ⟨fun start d' mem => ?_,formatted,Grammar.inHolesCons around.holes nofun⟩
  rcases List.mem_cons.mp mem with same | below
  · cases same
    exact ⟨mark,[],⟨front ++ taken,by simp,rfl⟩,letters,by simpa using opened,fun _ => rfl⟩
  · obtain ⟨mark',body,begun⟩ := around.begun start d' below
    rw [← List.append_assoc] at begun
    exact ⟨mark',_,begun.on (formatted start d' below)⟩

theorem Surrounded.closed (around : Surrounded front (taken ++ rest) (.literal start d :: outer)) :
    Surrounded (front ++ taken) rest outer where
  begun start' d' mem := by
    obtain ⟨mark,body,begun⟩ := around.begun start' d' (List.mem_cons_of_mem _ mem)
    exact ⟨mark,_,begun.on (around.formatted start' d' mem)⟩
  formatted start' d' mem := around.formatted start' d' (List.mem_of_mem_tail mem)
  holes p beyond below := around.holes p beyond (below.trans (List.suffix_cons _ _))

theorem styleOf (opened : d.OpenedBy mark cs) : d.closing ∈ quoteStyles ∨ d.closing = ['\x60'] := by
  have quote := opened.quote
  have backquote := opened.backquote
  unfold Delimiter.closing
  simp only [Grammar.quoteMarks,List.mem_cons,List.not_mem_nil,or_false] at quote
  rcases quote with same | same | same
  · rw [same]
    cases d.triple <;> exact .inl (by decide)
  · rw [same]
    cases d.triple <;> exact .inl (by decide)
  · rw [backquote same,same]
    exact .inr rfl

theorem markUnquoted {c : Char} (letter : isStringMark c = true) : ¬ isQuote c := by
  simp only [isStringMark,List.contains_iff_mem,List.mem_cons,List.not_mem_nil,or_false] at letter
  rcases letter with rfl | rfl | rfl | rfl | rfl | rfl | rfl | rfl <;> decide

theorem openedApart (opened : d.OpenedBy mark (d.closing ++ inner ++ d.closing ++ rest))
    (style : d.closing ∈ quoteStyles) (single : d.closing.length = 1) :
    ¬ d.closing ++ d.closing <+: inner ++ d.closing := by
  have one : d.triple = false ∧ d.closing = [d.quote] := by
    unfold Delimiter.closing at single ⊢
    split at single
    · cases single
    · next simple => exact ⟨eq_false_of_ne_true simple,if_neg simple⟩
  obtain ⟨simple,closing⟩ := one
  have quote : d.quote ≠ '\x60' := by
    intro same
    rw [closing,same] at style
    exact absurd style (by decide)
  rw [closing] at opened ⊢
  intro twice
  have three := (List.prefix_append_right_inj [d.quote]).mpr twice
  exact opened.single simple quote (three.trans ⟨rest,by simp⟩)

theorem Begun.closed (begun : Begun front (inner ++ (d.closing ++ rest)) start d mark body)
    (broken : d.raw = true ∨ Unnamed inner → Broken d.closing inner) :
    ∃ before token, front ++ inner ++ d.closing = before ++ token ∧ start = Position.initial.advanceAll before ∧
      ReadAs token d.closing ⟨mark,body ++ inner⟩ ∧
      (d.closing ∈ quoteStyles → split? token = some ⟨mark,body ++ inner⟩) := by
  obtain ⟨⟨before,rfl,rfl⟩,letters,opened,fresh⟩ := begun
  refine ⟨before,mark ++ d.closing ++ (body ++ inner) ++ d.closing,by simp,rfl,
    ⟨rfl,letters,styleOf opened,fun plain unnamed => ?_⟩,fun style => ?_⟩
  · have empty : body = [] := fresh (opened.format.trans plain)
    subst empty
    exact broken (unnamed.imp (opened.raw.trans ·) id)
  · have whole : d.OpenedBy mark (d.closing ++ (body ++ inner) ++ d.closing ++ rest) := by simpa using opened
    exact (StringToken.splitIff (fun c mem => markUnquoted (letters c mem)) style).mpr (openedApart whole style)

theorem Surrounded.token (around : Surrounded front (inner ++ d.closing ++ rest) (.literal start d :: outer))
    (broken : d.quote ∈ Grammar.quoteMarks → d.raw = true ∨ Unnamed inner → Broken d.closing inner) :
    let token := slice start.offset (Position.initial.advanceAll (front ++ (inner ++ d.closing))).offset
      (front ++ (inner ++ d.closing) ++ rest)
    ∃ t, ReadAs token d.closing t ∧ (d.closing ∈ quoteStyles → split? token = some t) := by
  obtain ⟨mark,body,begun⟩ := around.begun start d List.mem_cons_self
  rw [List.append_assoc] at begun
  obtain ⟨before,token,upTo,starts,result⟩ := begun.closed (broken begun.opened.quote)
  rw [starts,← List.append_assoc front,upTo,Grammar.offsetOf,Grammar.offsetOf,Text.Utf8.sliceMiddle before token rest]
  exact ⟨_,result⟩

end Steps

section Literals
variable {text front cs : List Char} {s : Scan} {ts : List Token} {l : Span}

theorem literalsOther {begun : List Position} {t : Token}
    (other : t.lexeme ≠ .stringOpen ∧ t.lexeme ≠ .stringClose) (mem : l ∈ literalsFrom begun (t :: ts)) :
    l ∈ literalsFrom begun ts := by
  unfold literalsFrom at mem
  split at mem
  · next opens => exact absurd opens other.1
  · next closes => exact absurd closes other.2
  · exact mem

theorem literalsRead (scanned : Scanned s cs ts) (reached : s.position = Position.initial.advanceAll front)
    (around : Surrounded front cs s.stack)
    (mem : l ∈ literalsFrom (s.stack.filterMap Opening.literalStart?) ts) :
    ∃ q t, ReadAs (slice l.start.offset l.stop.offset (front ++ cs)) q t ∧
      (q ∈ quoteStyles → split? (slice l.start.offset l.stop.offset (front ++ cs)) = some t) := by
  induction scanned generalizing front with
  | ended => cases mem
  | stuck => cases mem
  | @next s cs n c lead ts step valid rest ih =>
    have parts : cs = cs.take n ++ (cs.drop n).take c.length ++ (cs.drop n).drop c.length := by
      rw [List.append_assoc,List.take_append_drop,List.take_append_drop]
    have onward : stepStop s cs n c =
        Position.initial.advanceAll (front ++ (cs.take n ++ (cs.drop n).take c.length)) := by
      rw [stepStop,reached,← Grammar.advanceAppend,← Grammar.advanceAppend]
    have whole : front ++ cs =
        front ++ (cs.take n ++ (cs.drop n).take c.length) ++ (cs.drop n).drop c.length := by
      rw [List.append_assoc,← parts]
    have later := @ih _ onward
    rw [← whole] at later
    cases step.turn valid with
    | opens outside letters here opened =>
      refine later ?_ mem
      dsimp only [Scan.after] at parts ⊢
      rw [here,List.take_left,List.drop_left] at parts ⊢
      rw [reached,← Grammar.advanceAppend]
      rw [parts,List.append_assoc] at around
      exact around.opened outside letters opened
    | @closes start d outer behind inside here =>
      dsimp only [Scan.after] at parts onward whole later
      rw [here,List.take_left,List.drop_left] at parts whole later
      rw [here,List.take_left] at onward
      rw [inside] at around mem
      rw [parts] at around
      rcases List.mem_cons.mp mem with own | others
      · have token := around.token Grammar.plainBroken
        rw [← onward,← whole] at token
        rw [own]
        exact ⟨_,token⟩
      · exact later around.closed others
    | moves other admitting moves =>
      rw [parts] at around
      refine later (around.moved admitting moves) ?_
      dsimp only [Scan.after]
      rw [(movesInHoles moves around.holes).2]
      exact literalsOther other mem

theorem literalRead (mem : l ∈ literals text) : ∃ q t, ReadAs (slice l.start.offset l.stop.offset text) q t ∧
    (q ∈ quoteStyles → split? (slice l.start.offset l.stop.offset text) = some t) := by
  have nothing : Surrounded [] text [] := ⟨nofun,nofun,fun _ _ below => nomatch List.suffix_nil.mp below⟩
  have scanned := Grammar.scanFromScanned (text.length + 1) .initial text
  exact @literalsRead [] text .initial _ l scanned rfl nothing mem

end Literals

/-- A token falls into its mark and its body if its quotes stand in the body behind backslashes only, and every
literal of a text falls into its parts. -/
theorem tokenByQuotes :
    (∀ mark q body, (∀ c ∈ mark, ¬ isQuote c) → q ∈ quoteStyles → Broken q body →
      split? (mark ++ q ++ body ++ q) = some ⟨mark,body⟩) ∧
    ∀ text, ∀ l ∈ literals text, ∃ q t, ReadAs (slice l.start.offset l.stop.offset text) q t ∧
      (q ∈ quoteStyles → split? (slice l.start.offset l.stop.offset text) = some t) := by
  refine ⟨fun mark q body letters style broken => ?_,fun text l => literalRead⟩
  -- quotes at the head of the body have nothing before them
  refine StringToken.splitApart letters style fun ⟨rest,begins⟩ => ?_
  have never := broken [] rest (by simpa using begins.symm)
  simp at never

theorem quotesWithin :
    let q := ['"','"','"']
    let body := "\\\"\"\"'a'\\\"".toList
    let text := "f'\x7bg('a')\x7d'\n".toList
    (∀ c ∈ ['r','b'], ¬ isQuote c) ∧ q ∈ quoteStyles ∧ Broken q body ∧
    split? (['r','b'] ++ q ++ body ++ q) = some ⟨['r','b'],body⟩ ∧
    ∃ l ∈ literals text, slice l.start.offset l.stop.offset text = "f'\x7bg('a')\x7d'".toList ∧
      ∃ q t, ReadAs (slice l.start.offset l.stop.offset text) q t ∧
        (q ∈ quoteStyles → split? (slice l.start.offset l.stop.offset text) = some t) := by
  intro q body text
  have letters : ∀ c ∈ ['r','b'], ¬ isQuote c := by simp [isQuote]
  have style : q ∈ quoteStyles := by decide
  have broken : Broken q body := by decide +kernel
  have listed : ∃ l ∈ literals text, slice l.start.offset l.stop.offset text = "f'\x7bg('a')\x7d'".toList := by
    decide +kernel
  obtain ⟨l,mem,written⟩ := listed
  exact ⟨letters,style,broken,tokenByQuotes.1 _ q body letters style broken,l,mem,written,
    tokenByQuotes.2 text l mem⟩

example : split? "''".toList = some ⟨[],[]⟩ := by decide

example : split? "\"\"\"\"\"\"".toList = some ⟨[],[]⟩ := by decide

end ConventionLint.Tree
