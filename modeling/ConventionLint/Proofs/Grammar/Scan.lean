import Mathlib.Data.List.Basic
import Mathlib.Data.List.TakeWhile
import ConventionLint.Proofs.Grammar.Order
import ConventionLint.Proofs.Grammar.Program

/-! The scan of a text as a trace of its steps, from which facts about single tokens and about their order
are read. Every token of a text begins at a place of it with something before it. A literal is opened where
quotes stand, behind a mark or none, and closed where its quotes stand again; every other step leaves the
literals as they are. The text of a literal that is read in one step has its quotes behind backslashes only. -/
namespace ConventionLint.Grammar

inductive Step (s : Scan) (cs : List Char) : Nat → Cut → Option Nat → Prop where
  | literal {c : Cut} {start : Position} {d : Delimiter} {outer : List Opening}
      (inside : s.stack = .literal start d :: outer)
      (cut : c = literalCut (s.position.advanceAll (cs.take (plainLength d cs.length cs))) start d outer
        (cs.drop (plainLength d cs.length cs))) : Step s cs (plainLength d cs.length cs) c none
  | holeOpen {n : Nat} {rest : List Char} {start : Position} {outer : List Opening}
      (brace : cs.drop n = '\x7b' :: rest) (inside : s.stack = .format start :: outer) :
      Step s cs n ⟨.holeOpen,1,.hole (s.position.advanceAll (cs.take n)) :: s.stack⟩ none
  | holeClose {n : Nat} {rest : List Char} {start : Position} {hole : Opening} {beyond : List Opening}
      (brace : cs.drop n = '\x7d' :: rest) (inside : s.stack = .format start :: hole :: beyond) :
      Step s cs n ⟨.holeClose,1,beyond⟩ none
  | code {c : Cut} (remains : cs.drop (gap cs).length ≠ [])
      (cut : c = codeCut (s.position.advanceAll (cs.take (gap cs).length)) s.stack s.bare
        (cs.drop (gap cs).length))
      (outside : ∀ start d outer, s.stack ≠ .literal start d :: outer) :
      Step s cs (gap cs).length c (if s.stack.isEmpty then (gap cs).lead else none)

def stepStop (s : Scan) (cs : List Char) (n : Nat) (c : Cut) : Position :=
  (s.position.advanceAll (cs.take n)).advanceAll ((cs.drop n).take c.length)

def stepToken (s : Scan) (cs : List Char) (n : Nat) (c : Cut) (lead : Option Nat) : Token :=
  ⟨c.lexeme,⟨s.position.advanceAll (cs.take n),stepStop s cs n c⟩,lead⟩

inductive Scanned : Scan → List Char → List Token → Prop where
  | ended {s : Scan} {cs : List Char} : Scanned s cs []
  | stuck {s : Scan} {cs : List Char} {p : Position} {lead : Option Nat} :
      Scanned s cs [⟨.invalid,⟨p,p⟩,lead⟩]
  | next {s : Scan} {cs : List Char} {n : Nat} {c : Cut} {lead : Option Nat} {ts : List Token}
      (step : Step s cs n c lead) (valid : c.lexeme ≠ .invalid)
      (rest : Scanned (s.after c (stepStop s cs n c)) ((cs.drop n).drop c.length) ts) :
      Scanned s cs (stepToken s cs n c lead :: ts)

theorem scanFromScanned (n : Nat) (s : Scan) (cs : List Char) : Scanned s cs (scanFrom n s cs) := by
  induction n generalizing s cs with
  | zero => exact .ended
  | succ n ih =>
    unfold scanFrom
    extract_lets +onlyGivenNames stopped emit
    split
    · next inside =>
      dsimp only
      split
      · exact .stuck
      · next valid => exact .next (.literal inside rfl) valid (ih _ _)
    · dsimp only
      split
      · exact .next (.holeOpen (by assumption) (by assumption)) (by simp) (ih _ _)
      · exact .next (.holeClose (by assumption) (by assumption)) (by simp) (ih _ _)
      · exact .stuck
    · dsimp only
      split
      · split
        · exact .stuck
        · exact .ended
      · next remains =>
        split
        · exact .stuck
        · next valid => exact .next (.code (by simpa using remains) rfl (by assumption)) valid (ih _ _)

def quoteMarks : List Char := ['\'','"','\x60']

structure Delimiter.OpenedBy (d : Delimiter) (mark cs : List Char) : Prop where
  quote : d.quote ∈ quoteMarks
  here : d.closing <+: cs
  raw : d.raw = mark.any ['r','R'].contains
  format : d.format = mark.any ['f','F'].contains
  single : d.triple = false → d.quote ≠ '\x60' → ¬ [d.quote,d.quote,d.quote] <+: cs
  backquote : d.quote = '\x60' → d.triple = false

def beginsString (c : Char) : Bool := isStringMark c || c == '\x60' || c == '\'' || c == '"'

section Begins
variable {cs mark : List Char} {n : Nat} {d : Delimiter} {c : Cut} {p : Position} {stack : List Opening}
  {bare : Bool}

theorem startsWithIff {ps cs : List Char} : startsWith ps cs = true ↔ ps <+: cs := by
  induction ps generalizing cs with
  | nil => simp [startsWith]
  | cons p ps ih =>
    cases cs with
    | nil => simp [startsWith]
    | cons c cs => simp [startsWith,ih]

theorem closingHead (d : Delimiter) : ∃ tail, d.closing = d.quote :: tail := by
  unfold Delimiter.closing
  split
  · exact ⟨_,rfl⟩
  · exact ⟨_,rfl⟩

theorem openingOpens (found : opening? mark cs = some (d,n)) : n = d.closing.length ∧ d.OpenedBy mark cs := by
  have either (a b : Char) : (mark.any fun c => c == a || c == b) = mark.any [a,b].contains := by
    refine congrArg mark.any (funext fun c => ?_)
    rw [List.contains_cons,List.contains_cons,List.contains_nil,Bool.or_false]
  have wide {q : Char} (single : ¬ ∃ a b rest, cs = q :: a :: b :: rest ∧ a = q ∧ b = q) : ¬ [q,q,q] <+: cs := by
    rintro ⟨rest,rfl⟩
    exact single ⟨q,q,rest,rfl,rfl,rfl⟩
  have quoted {q : Char} (quote : q = '\'' ∨ q = '"') : q ∈ quoteMarks := by
    rcases quote with rfl | rfl <;> decide
  unfold opening? at found
  rw [either,either] at found
  repeat' split at found
  all_goals cases found
  · next tick =>
    exact ⟨rfl,by simp [tick,quoteMarks],⟨_,rfl⟩,rfl,rfl,fun _ other => absurd tick other,fun _ => rfl⟩
  · next other quote _ _ _ _ same =>
    obtain ⟨rfl,rfl⟩ := same
    exact ⟨rfl,quoted quote,⟨_,rfl⟩,rfl,rfl,nofun,fun tick => absurd tick other⟩
  · next other quote _ _ _ _ apart =>
    refine ⟨rfl,quoted quote,⟨_,rfl⟩,rfl,rfl,fun _ _ => wide ?_,fun tick => absurd tick other⟩
    rintro ⟨a,b,rest,same,equal⟩
    cases same
    exact apart equal
  · next other quote _ short =>
    refine ⟨rfl,quoted quote,⟨_,rfl⟩,rfl,rfl,fun _ _ => wide ?_,fun tick => absurd tick other⟩
    rintro ⟨a,b,rest,same,_⟩
    cases same
    exact short _ _ _ rfl

theorem codeOpens (cut : c = codeCut p stack bare cs) (opens : c.lexeme = .stringOpen) :
    ∃ d mark rest, c = ⟨.stringOpen,(mark ++ d.closing).length,.literal p d :: stack⟩ ∧
      (∀ c ∈ mark, isStringMark c = true) ∧ cs = mark ++ d.closing ++ rest ∧
      d.OpenedBy mark (d.closing ++ rest) := by
  unfold codeCut at cut
  extract_lets whole mark at cut
  repeat' split at cut
  all_goals subst cut
  all_goals try cases opens
  next found =>
    obtain ⟨rfl,opened⟩ := openingOpens found
    obtain ⟨rest,here⟩ := opened.here
    refine ⟨_,mark,rest,by rw [List.length_append],fun _ => List.mem_takeWhile_imp,?_,here ▸ opened⟩
    rw [List.append_assoc,here]
    exact (List.prefix_iff_eq_append.mp (List.takeWhile_prefix _)).symm

theorem codeBegins (cut : c = codeCut p stack bare cs) (opens : c.lexeme = .stringOpen) :
    ∃ q rest, cs = q :: rest ∧ beginsString q = true := by
  obtain ⟨d,mark,rest,_,letters,rfl,opened⟩ := codeOpens cut opens
  cases mark with
  | nil =>
    have quotes : quoteMarks.Forall fun q => beginsString q = true := by decide
    obtain ⟨tail,closing⟩ := closingHead d
    refine ⟨d.quote,tail ++ rest,?_,List.forall_iff_forall_mem.mp quotes _ opened.quote⟩
    rw [List.nil_append,closing,List.cons_append]
  | cons q mark => exact ⟨q,_,rfl,by simp [beginsString,letters q List.mem_cons_self]⟩

end Begins

section Steps
variable {text : List Char} {s : Scan} {cs : List Char} {n : Nat} {c : Cut} {lead : Option Nat}
  {t : Token} {ts : List Token}

theorem Step.nonempty (step : Step s cs n c lead) (valid : c.lexeme ≠ .invalid) : cs.drop n ≠ [] := by
  cases step with
  | literal _ cut =>
    intro empty
    have unclosed (d : Delimiter) : startsWith d.closing [] = false := by
      unfold Delimiter.closing
      split <;> rfl
    simp [cut,literalCut,empty,unclosed] at valid
  | holeOpen brace => simp [brace]
  | holeClose brace => simp [brace]
  | code remains => exact remains

theorem Step.opensString (step : Step s cs n c lead) (opens : c.lexeme = .stringOpen) :
    ∃ q rest, cs.drop n = q :: rest ∧ beginsString q = true := by
  cases step with
  | literal _ cut =>
    subst cut
    unfold literalCut at opens
    repeat' split at opens
    all_goals cases opens
  | holeOpen | holeClose => cases opens
  | code _ cut => exact codeBegins cut opens

def Lexeme.isLayout : Lexeme → Bool
  | .newline | .indent | .dedent => true
  | _ => false

theorem Step.notLayout (step : Step s cs n c lead) : c.lexeme.isLayout = false := by
  cases step with
  | literal _ cut =>
    subst cut
    unfold literalCut
    repeat' split
    all_goals rfl
  | holeOpen | holeClose => rfl
  | code _ cut =>
    subst cut
    unfold codeCut
    extract_lets
    repeat' split
    all_goals rfl

theorem wordCut {c : Cut} {p : Position} {stack : List Opening} {bare : Bool} {rest : List Char} {w : String}
    (cut : c = codeCut p stack bare rest) (word : c.lexeme = .word w) : '\n' ∉ rest.take c.length := by
  unfold codeCut at cut
  extract_lets at cut
  repeat' split at cut
  all_goals subst cut
  all_goals try cases word
  next q rest _ _ _ _ _ starts =>
    have whole := List.prefix_iff_eq_take.mp
      (List.cons_prefix_cons.mpr ⟨rfl,List.takeWhile_prefix _⟩ :
        q :: rest.takeWhile Text.isIdentifierContinue <+: q :: rest)
    change '\n' ∉ (q :: rest).take (q :: rest.takeWhile Text.isIdentifierContinue).length
    rw [← whole]
    intro mem
    rcases List.mem_cons.mp mem with rfl | inside
    · exact absurd starts (by decide)
    · exact absurd (List.mem_takeWhile_imp inside) (by decide)

theorem Step.word {w : String} (step : Step s cs n c lead) (word : c.lexeme = .word w) :
    '\n' ∉ (cs.drop n).take c.length := by
  cases step with
  | literal _ cut =>
    subst cut
    unfold literalCut at word
    repeat' split at word
    all_goals cases word
  | holeOpen | holeClose => cases word
  | code _ cut => exact wordCut cut word

theorem Scanned.origin (scanned : Scanned s cs ts) (reached : Reached text s.position cs) (mem : t ∈ ts)
    (valid : t.lexeme ≠ .invalid) : ∃ s' cs' n c lead, Reached text s'.position cs' ∧
      Step s' cs' n c lead ∧ c.lexeme ≠ .invalid ∧ t = stepToken s' cs' n c lead := by
  induction scanned with
  | ended => cases mem
  | stuck =>
    rw [List.mem_singleton.mp mem] at valid
    exact absurd rfl valid
  | next step own _ ih =>
    rcases List.mem_cons.mp mem with rfl | later
    · exact ⟨_,_,_,_,_,reached,step,own,rfl⟩
    · exact ih (reachedOn _ (reachedOn _ reached)) later

theorem scanOrigin (mem : t ∈ scan text) (valid : t.lexeme ≠ .invalid) :
    ∃ s cs n c lead, Reached text s.position cs ∧ Step s cs n c lead ∧ c.lexeme ≠ .invalid ∧
      t = stepToken s cs n c lead :=
  (scanFromScanned _ .initial text).origin (reachedStart text) mem valid

theorem tokenStarts (mem : t ∈ scan text) (valid : t.lexeme ≠ .invalid) :
    ∃ q rest, Reached text t.span.start (q :: rest) ∧
      (t.lexeme = .stringOpen → beginsString q = true) := by
  obtain ⟨s,cs,n,c,lead,reached,step,own,rfl⟩ := scanOrigin mem valid
  have here := reachedOn n reached
  obtain ⟨q,rest,same⟩ := List.exists_cons_of_ne_nil (step.nonempty own)
  rw [same] at here
  refine ⟨q,rest,here,fun opens => ?_⟩
  obtain ⟨q',rest',same',begins⟩ := step.opensString opens
  rw [same] at same'
  cases same'
  exact begins

theorem wordUnbroken {w : String} (mem : t ∈ scan text) (word : t.lexeme = .word w) :
    '\n' ∉ Text.Utf8.slice t.span.start.offset t.span.stop.offset text := by
  obtain ⟨s,cs,n,c,lead,reached,step,_,rfl⟩ := scanOrigin mem (by simp [word])
  obtain ⟨before,same,start⟩ := reachedOn n reached
  have stop : stepStop s cs n c = Position.initial.advanceAll (before ++ (cs.drop n).take c.length) := by
    rw [stepStop,start,Position.advanceAll,Position.advanceAll,Position.advanceAll,List.foldl_append]
  have split : text = before ++ (cs.drop n).take c.length ++ (cs.drop n).drop c.length := by
    rw [List.append_assoc,List.take_append_drop,same]
  change '\n' ∉ Text.Utf8.slice (s.position.advanceAll (cs.take n)).offset (stepStop s cs n c).offset text
  rw [start,stop,offsetOf,offsetOf,split,Text.Utf8.sliceMiddle]
  exact step.word word

theorem scanNotLayout (mem : t ∈ scan text) : t.lexeme.isLayout = false := by
  by_cases valid : t.lexeme = .invalid
  · rw [valid]
    rfl
  · obtain ⟨s,cs,n,c,lead,_,step,_,rfl⟩ := scanOrigin mem valid
    exact step.notLayout

/-- The tokens of a trace come one behind the other if none is invalid, also by other measures of places
that do not decrease. -/
theorem Scanned.spans {rank : Position → Nat} (ahead : ∀ p ds, rank p ≤ rank (p.advanceAll ds))
    (scanned : Scanned s cs ts) (valid : ∀ t ∈ ts, t.lexeme ≠ .invalid) :
    ∃ hi, Spans rank (rank s.position) hi ts := by
  induction scanned with
  | ended => exact ⟨_,spansNil (Nat.le_refl _)⟩
  | stuck => exact absurd rfl (valid _ List.mem_cons_self)
  | next step _ _ ih =>
    obtain ⟨hi,rest⟩ := ih fun t mem => valid t (List.mem_cons_of_mem _ mem)
    exact ⟨hi,_,⟨ahead _ _,ahead _ _,Nat.le_refl _⟩,rest⟩

end Steps

inductive Moves (stack : List Opening) : List Opening → Prop where
  | stay : Moves stack stack
  | bracket {p : Position} : Moves stack (.bracket p :: stack)
  | unbracket {p : Position} {outer : List Opening} (inside : stack = .bracket p :: outer) : Moves stack outer
  | hole {p : Position} : Moves stack (.hole p :: stack)
  | unhole {p : Position} {outer : List Opening} (inside : stack = .hole p :: outer) : Moves stack outer
  | format {p p' : Position} {outer : List Opening} (inside : stack = .hole p' :: outer) :
      Moves stack (.format p :: stack)
  | unformat {p : Position} {hole : Opening} {outer : List Opening}
      (inside : stack = .format p :: hole :: outer) : Moves stack outer

def Admitting (stack : List Opening) : Prop :=
  ∀ start d outer, stack = .literal start d :: outer → d.format = true

inductive Turn (s : Scan) (cs : List Char) : Nat → Cut → Prop where
  | opens {n : Nat} {d : Delimiter} {mark rest : List Char}
      (outside : ∀ start d outer, s.stack ≠ .literal start d :: outer)
      (letters : ∀ c ∈ mark, isStringMark c = true) (here : cs.drop n = mark ++ d.closing ++ rest)
      (opened : d.OpenedBy mark (d.closing ++ rest)) :
      Turn s cs n ⟨.stringOpen,(mark ++ d.closing).length,
        .literal (s.position.advanceAll (cs.take n)) d :: s.stack⟩
  | closes {start : Position} {d : Delimiter} {outer : List Opening} {rest : List Char}
      (inside : s.stack = .literal start d :: outer)
      (here : cs.drop (plainLength d cs.length cs) = d.closing ++ rest) :
      Turn s cs (plainLength d cs.length cs) ⟨.stringClose,d.closing.length,outer⟩
  | moves {n : Nat} {c : Cut} (other : c.lexeme ≠ .stringOpen ∧ c.lexeme ≠ .stringClose)
      (admitting : Admitting s.stack) (moves : Moves s.stack c.stack) : Turn s cs n c

section Turns
variable {s : Scan} {cs : List Char} {n : Nat} {c : Cut} {lead : Option Nat} {d : Delimiter} {p : Position}
  {stack : List Opening} {bare : Bool}

theorem codeMoves (cut : c = codeCut p stack bare cs) (other : c.lexeme ≠ .stringOpen) :
    c.lexeme ≠ .stringClose ∧ Moves stack c.stack := by
  unfold codeCut at cut
  extract_lets whole mark inHole at cut
  have hole (inside : inHole = true) : ∃ p outer, stack = .hole p :: outer := by
    unfold inHole at inside
    split at inside
    · exact ⟨_,_,rfl⟩
    · cases inside
  repeat' split at cut
  all_goals refine ⟨by rw [cut]; nofun,?_⟩
  all_goals first
    | exact absurd (congrArg Cut.lexeme cut) other
    | exact cut ▸ .stay
    | exact cut ▸ .bracket
    | (obtain ⟨_,_,inside⟩ := hole ‹_›; exact cut ▸ .format inside)
    | exact cut ▸ .unbracket rfl
    | (obtain ⟨_,_,inside⟩ := hole ‹_›; cases inside; exact cut ▸ .unhole rfl)

theorem literalEnds {here start : Position} {outer : List Opening} (cut : c = literalCut here start d outer cs)
    (valid : c.lexeme ≠ .invalid) :
    c = ⟨.stringClose,d.closing.length,outer⟩ ∧ d.closing <+: cs ∨
      c = ⟨.holeOpen,1,.hole here :: .literal start d :: outer⟩ ∧ d.format = true := by
  unfold literalCut at cut
  split at cut
  · next closes => exact .inl ⟨cut,startsWithIff.mp closes⟩
  · split at cut
    · split at cut
      · next format => exact .inr ⟨cut,format⟩
      · exact absurd (congrArg Cut.lexeme cut) valid
    · exact absurd (congrArg Cut.lexeme cut) valid

theorem Step.turn (step : Step s cs n c lead) (valid : c.lexeme ≠ .invalid) : Turn s cs n c := by
  cases step with
  | literal inside cut =>
    rcases literalEnds cut valid with ⟨rfl,rest,here⟩ | ⟨rfl,format⟩
    · exact .closes inside here.symm
    · refine .moves ⟨nofun,nofun⟩ ?_ (inside ▸ .hole)
      rintro _ _ _ same
      cases inside.symm.trans same
      exact format
  | holeOpen _ inside => exact .moves ⟨nofun,nofun⟩ (fun _ _ _ same => nomatch inside.symm.trans same) .hole
  | holeClose _ inside =>
    exact .moves ⟨nofun,nofun⟩ (fun _ _ _ same => nomatch inside.symm.trans same) (.unformat inside)
  | code _ cut outside =>
    by_cases opens : c.lexeme = .stringOpen
    · obtain ⟨d,mark,rest,rfl,letters,here,opened⟩ := codeOpens cut opens
      exact .opens outside letters here opened
    · obtain ⟨closes,moves⟩ := codeMoves cut opens
      exact .moves ⟨opens,closes⟩ (fun _ _ _ same => absurd same (outside _ _ _)) moves

end Turns

def InHoles (stack : List Opening) : Prop :=
  ∀ p outer, Opening.format p :: outer <:+ stack → ∃ p' beyond, outer = .hole p' :: beyond

def Opening.literalStart? : Opening → Option Position
  | .literal p _ => some p
  | _ => none

section Stacks
variable {stack stack' : List Opening} {o : Opening}

theorem inHolesCons (holes : InHoles stack) (other : ∀ p, o ≠ .format p) : InHoles (o :: stack) := by
  intro p outer inside
  rcases List.suffix_cons_iff.mp inside with same | below
  · exact absurd (List.cons.inj same).1.symm (other p)
  · exact holes p outer below

theorem movesLiterals (moves : Moves stack stack') {start : Position} {d : Delimiter}
    (mem : .literal start d ∈ stack') : .literal start d ∈ stack := by
  cases moves with
  | stay => exact mem
  | bracket | hole | format => simpa using mem
  | unbracket inside | unhole inside => rw [inside]; exact List.mem_cons_of_mem _ mem
  | unformat inside => rw [inside]; exact List.mem_cons_of_mem _ (List.mem_cons_of_mem _ mem)

theorem movesInHoles (moves : Moves stack stack') (holes : InHoles stack) :
    InHoles stack' ∧ stack'.filterMap Opening.literalStart? = stack.filterMap Opening.literalStart? := by
  have outer {os : List Opening} (inside : os <:+ stack) : InHoles os := fun p beyond below =>
    holes p beyond (below.trans inside)
  cases moves with
  | stay => exact ⟨holes,rfl⟩
  | bracket | hole => exact ⟨inHolesCons holes nofun,rfl⟩
  | unbracket inside | unhole inside =>
    exact ⟨outer (inside ▸ List.suffix_cons _ _),by rw [inside]; rfl⟩
  | format inside =>
    refine ⟨fun p beyond below => ?_,rfl⟩
    rcases List.suffix_cons_iff.mp below with same | within
    · exact ⟨_,_,(List.cons.inj same).2.trans inside⟩
    · exact holes p beyond within
  | unformat inside =>
    obtain ⟨_,_,same⟩ := holes _ _ ⟨[],inside.symm⟩
    cases same
    exact ⟨outer (inside ▸ (List.suffix_cons _ _).trans (List.suffix_cons _ _)),by rw [inside]; rfl⟩

end Stacks

def Broken (q cs : List Char) : Prop := ∀ front rest, cs = front ++ q ++ rest → ['\\'] <:+ front

/-- In a named character escape quotes may stand without a backslash. -/
def Unnamed (cs : List Char) : Prop := ¬ ['\\','N','\x7b'] <:+: cs

inductive Escaped (d : Delimiter) : List Char → Prop where
  | short {w : List Char} (one : w.length ≤ 1) : Escaped d w
  | lineEnd : Escaped d ['\r','\n']
  | named {w : List Char} (cooked : d.raw = false) : Escaped d ('N' :: '\x7b' :: w)

inductive GoesOn (d : Delimiter) (cs : List Char) (k : Nat) : Prop where
  | escape {w : List Char} (taken : cs.take k = '\\' :: w) (escaped : Escaped d w)
  | plain (apart : ¬ d.closing <+: cs) (braces : ∀ c ∈ (cs.take k).tail, c = '\x7b' ∨ c = '\x7d')

section Text
variable {d : Delimiter} {q u v cs : List Char} {n k : Nat}

theorem brokenIff : Broken q cs ↔ ∀ i < cs.length + 1, q <+: cs.drop i → ['\\'] <:+ cs.take i := by
  constructor
  · rintro broken i _ ⟨rest,here⟩
    exact broken _ rest (by rw [List.append_assoc,here,List.take_append_drop])
  · rintro behind front rest rfl
    have own := behind front.length (by simp only [List.length_append]; omega)
    rw [List.append_assoc,List.drop_left,List.take_left] at own
    exact own (List.prefix_append q rest)

instance : Decidable (Broken q cs) := decidable_of_iff _ brokenIff.symm

theorem brokenAppend (own : ∀ front rest, u = front ++ rest → rest ≠ [] → q <+: rest ++ v → ['\\'] <:+ front)
    (later : Broken q v) : Broken q (u ++ v) := by
  intro front rest whole
  rw [List.append_assoc] at whole
  rcases List.append_eq_append_iff.mp whole with ⟨more,rfl,same⟩ | ⟨more,rfl,same⟩
  · exact (later more rest (by rw [same,List.append_assoc])).trans (List.suffix_append _ _)
  · by_cases empty : more = []
    · subst empty
      have never := later [] rest (by simpa using same.symm)
      simp at never
    · exact own front more rfl empty ⟨rest,same⟩

theorem escapeTakes (here : 0 < escape d cs) : ∃ w, cs.take (escape d cs) = '\\' :: w ∧ Escaped d w := by
  have alone (cs : List Char) : ∃ w, ('\\' :: cs).take 1 = '\\' :: w ∧ Escaped d w :=
    ⟨[],rfl,.short (Nat.zero_le 1)⟩
  have one (c : Char) (cs : List Char) : ∃ w, ('\\' :: c :: cs).take 2 = '\\' :: w ∧ Escaped d w :=
    ⟨[c],rfl,.short le_rfl⟩
  unfold escape at here ⊢
  split
  · exact ⟨_,rfl,.lineEnd⟩
  · next c rest _ =>
    split
    · exact one c rest
    · split
      · split
        · exact one c rest
        · exact alone _
      · next cooked =>
        split
        · exact one c rest
        · extract_lets n
          split
          · exact alone _
          · next named =>
            unfold n namedEscape at named ⊢
            split at named
            · next cs same =>
              cases same
              dsimp only at named ⊢
              split at named
              · exact absurd rfl named
              · next whole =>
                rw [if_neg whole,Nat.add_comm]
                exact ⟨_,rfl,.named (eq_false_of_ne_true cooked)⟩
            · exact absurd rfl named
  · exact alone []
  · simp at here

theorem plainGoesOn (d : Delimiter) (n : Nat) (cs : List Char) : plainLength d (n + 1) cs = 0 ∨
    ∃ k, plainLength d (n + 1) cs = k + plainLength d n (cs.drop k) ∧ GoesOn d cs k := by
  cases cs with
  | nil => exact .inl rfl
  | cons c cs =>
    generalize length : plainLength d (n + 1) (c :: cs) = l
    rw [plainLength.eq_def] at length
    dsimp only at length
    split at length
    · next escaped =>
      obtain ⟨w,taken,inside⟩ := escapeTakes escaped
      exact .inr ⟨_,length.symm,.escape taken inside⟩
    · split at length
      · exact .inl length.symm
      · next unclosed =>
        have apart : ¬ d.closing <+: c :: cs := fun closes => unclosed (startsWithIff.mpr closes)
        split at length
        · exact .inl length.symm
        · split at length
          · next brace =>
            split at length
            · next k rest =>
              split at length
              · next twice =>
                subst twice
                exact .inr ⟨2,length.symm,.plain apart (by simpa using brace.2)⟩
              · exact .inl length.symm
            · exact .inl length.symm
          · exact .inr ⟨1,length.symm,.plain apart (by simp)⟩

theorem GoesOn.behind (goes : GoesOn d cs k) (quote : d.quote ∈ quoteMarks) (here : v <+: cs.drop k)
    (unnamed : d.raw = true ∨ Unnamed (cs.take k ++ v)) {front rest : List Char} (cut : cs.take k = front ++ rest)
    (nonempty : rest ≠ []) (begins : d.closing <+: rest ++ v) : ['\\'] <:+ front := by
  obtain ⟨a,as,rfl⟩ := List.exists_cons_of_ne_nil nonempty
  have other : a ∉ ['\\','\n','\x7b','\x7d'] := by
    have never : quoteMarks.Forall fun q => q ∉ ['\\','\n','\x7b','\x7d'] := by decide
    obtain ⟨more,closing⟩ := closingHead d
    rw [closing,List.cons_append,List.cons_prefix_cons] at begins
    exact begins.1 ▸ List.forall_iff_forall_mem.mp never _ quote
  cases goes with
  | @escape w taken escaped =>
    rw [taken] at cut unnamed
    cases front with
    | nil => exact absurd (by simp [← (List.cons.inj cut).1]) other
    | cons b front =>
      obtain ⟨rfl,same⟩ := List.cons.inj cut
      cases front with
      | nil => exact List.suffix_rfl
      | cons b front =>
        -- only a named escape has quotes behind its first character
        have later : a ∈ w.tail := by simp [same]
        cases escaped with
        | short one =>
          have noTail : w.tail = [] := List.eq_nil_of_length_eq_zero (by rw [List.length_tail]; omega)
          exact absurd (noTail ▸ later) List.not_mem_nil
        | lineEnd => exact absurd (by simp [List.mem_singleton.mp later]) other
        | @named w cooked =>
          rcases unnamed with raw | free
          · rw [cooked] at raw
            cases raw
          · exact absurd ⟨[],w ++ v,rfl⟩ free
  | plain apart braces =>
    cases front with
    | nil =>
      obtain ⟨more,whole⟩ := here
      rw [List.nil_append] at cut
      refine absurd (begins.trans ⟨more,?_⟩) apart
      rw [List.append_assoc,whole,← cut,List.take_append_drop]
    | cons b front =>
      rw [cut,List.cons_append,List.tail_cons] at braces
      exact absurd (by rcases braces a (by simp) with rfl | rfl <;> simp) other

theorem plainBroken (quote : d.quote ∈ quoteMarks)
    (unnamed : d.raw = true ∨ Unnamed (cs.take (plainLength d n cs))) :
    Broken d.closing (cs.take (plainLength d n cs)) := by
  have nothing : Broken d.closing [] := by
    obtain ⟨more,closing⟩ := closingHead d
    intro front rest whole
    rw [closing] at whole
    simp at whole
  induction n generalizing cs with
  | zero => exact nothing
  | succ n ih =>
    rcases plainGoesOn d n cs with stop | ⟨k,length,goes⟩
    · rw [stop]
      exact nothing
    · rw [length,List.take_add] at unnamed ⊢
      have later := ih (unnamed.imp id fun free inside => free (inside.trans (List.suffix_append _ _).isInfix))
      exact brokenAppend (fun front rest => goes.behind quote (List.take_prefix _ _) unnamed) later

end Text

end ConventionLint.Grammar
