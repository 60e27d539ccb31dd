import ConventionLint.Proofs.Text.Cut
import ConventionLint.Proofs.Text.Number

/-! What a string stands for. The body of a string falls into pieces, single characters or escapes, each of
which stands for at most two code points. Where a piece ends is said by what follows it, so that a body falls
into pieces in one way only. -/
namespace ConventionLint.Tree
open ConventionLint.Text (Denotes IsDigit)

inductive Piece where
  | plain (c : Char)
  | lineEnd (e : List Char)
  | joined (e : List Char)
  | letter (c : Char) (point : Nat)
  | octal (digits : List Char) (point : Nat)
  | wide (mark : Char) (digits : List Char) (point : Nat)
  | named (name : List Char) (point : Nat)
  | kept (c : Char)

def lineEnds : List (List Char) := [['\n'],['\r','\n'],['\r']]

def letterEscapes : List (Char × Nat) :=
  [('\\',92),('\'',39),('"',34),('a',7),('b',8),('f',12),('n',10),('r',13),('t',9),('v',11)]

def wideEscapes : List (Char × Nat) := [('x',2),('u',4),('U',8)]

def escapeHeads : List Char :=
  "\n\rN".toList ++ "01234567".toList ++ letterEscapes.map Prod.fst ++ wideEscapes.map Prod.fst

namespace Piece

def written : Piece → List Char
  | plain c => [c]
  | lineEnd e => e
  | joined e => '\\' :: e
  | letter c _ => ['\\',c]
  | octal digits _ => '\\' :: digits
  | wide mark digits _ => '\\' :: mark :: digits
  | named name _ => '\\' :: 'N' :: '\x7b' :: name ++ ['\x7d']
  | kept c => ['\\',c]

def points : Piece → List Nat
  | plain c => [c.toNat]
  | lineEnd _ => ['\n'.toNat]
  | joined _ => []
  | letter _ point => [point]
  | octal _ point => [point]
  | wide _ _ point => [point]
  | named _ point => [point]
  | kept c => ['\\'.toNat,c.toNat]

/-- A piece of a body as the language has it; only a raw one has backslashes that are no escapes. Which code
points have names is left open. -/
inductive Valid (names : List Char → Option Nat) (raw : Bool) : Piece → Prop where
  | plain {c : Char} (free : c = '\\' → raw = true) (inline : c ≠ '\n' ∧ c ≠ '\r') : Valid names raw (plain c)
  | lineEnd {e : List Char} (known : e ∈ lineEnds) : Valid names raw (lineEnd e)
  | joined {e : List Char} (cooked : raw = false) (known : e ∈ lineEnds) : Valid names raw (joined e)
  | letter {c : Char} {point : Nat} (cooked : raw = false) (known : (c,point) ∈ letterEscapes) :
      Valid names raw (letter c point)
  | octal {digits : List Char} {point : Nat} (cooked : raw = false) (short : digits.length ≤ 3)
      (numeral : Denotes 8 digits point) : Valid names raw (octal digits point)
  | wide {mark : Char} {digits : List Char} {point : Nat} (cooked : raw = false)
      (known : (mark,digits.length) ∈ wideEscapes) (numeral : Denotes 16 digits point)
      (unicode : point ≤ 0x10FFFF) : Valid names raw (wide mark digits point)
  | named {name : List Char} {point : Nat} (cooked : raw = false)
      (spelled : ∀ c ∈ name, c.isAlphanum ∨ c = ' ' ∨ c = '-') (known : names name = some point) :
      Valid names raw (named name point)
  | kept {c : Char} (cooked : raw = false) (unknown : c ∉ escapeHeads) : Valid names raw (kept c)

/-- A piece takes in all that it can: both characters that end a line, and three octal digits. -/
def Ends : Piece → List Char → Prop
  | lineEnd e, cs | joined e, cs => e = ['\r'] → cs.head? ≠ some '\n'
  | octal digits _, cs => digits.length < 3 → ∀ c ∈ cs.head?, ∀ d, ¬ IsDigit 8 c d
  | _, _ => True

end Piece

inductive Cut (names : List Char → Option Nat) (raw : Bool) : List Char → List Piece → Prop where
  | nil : Cut names raw [] []
  | cons {p : Piece} {cs : List Char} {ps : List Piece} (valid : p.Valid names raw) (ends : p.Ends cs)
      (rest : Cut names raw cs ps) : Cut names raw (p.written ++ cs) (p :: ps)

theorem octalRow {c : Char} {d : Nat} (digit : IsDigit 8 c d) : c ∈ "01234567".toList := by
  have low : ∀ d < 8, Text.digitRow[d]? = "01234567".toList[d]? := by decide
  have lower := List.mem_of_getElem? ((low d digit.below).symm.trans digit.place)
  rcases Text.lowerOrCapital c with same | capital
  · rwa [same] at lower
  · have letters : "ABCDEFGHIJKLMNOPQRSTUVWXYZ".toList.Forall fun c => c.toLower ∉ "01234567".toList := by decide
    exact absurd lower (List.forall_iff_forall_mem.mp letters c capital)

def lineEndOf? : List Char → Option (List Char)
  | '\n' :: _ => some ['\n']
  | '\r' :: '\n' :: _ => some ['\r','\n']
  | '\r' :: _ => some ['\r']
  | _ => none

def escapeBy? (names : List Char → Option Nat) (c : Char) (cs : List Char) : Option Piece :=
  if c = 'N' then
    let name := (cs.drop 1).takeWhile (· ≠ '\x7d')
    (names name).map (Piece.named name)
  else match letterEscapes.lookup c, wideEscapes.lookup c with
    | some point, _ => some (.letter c point)
    | none, some width => (Text.natural? 16 (cs.take width)).map (Piece.wide c (cs.take width))
    | none, none =>
      if c ∈ "01234567".toList then
        let digits := ((c :: cs).take 3).takeWhile (· ∈ "01234567".toList)
        (Text.natural? 8 digits).map (Piece.octal digits)
      else some (.kept c)

def escapeOf? (names : List Char → Option Nat) (cs : List Char) : Option Piece :=
  match lineEndOf? cs with
  | some e => some (.joined e)
  | none =>
    match cs with
    | c :: cs => escapeBy? names c cs
    | [] => none

def pieceOf? (names : List Char → Option Nat) (raw : Bool) (cs : List Char) : Option Piece :=
  match lineEndOf? cs with
  | some e => some (.lineEnd e)
  | none =>
    match cs with
    | c :: cs => if c = '\\' ∧ raw = false then escapeOf? names cs else some (.plain c)
    | [] => none

section Reading
variable {names : List Char → Option Nat} {raw : Bool} {p : Piece} {ps : List Piece} {c : Char}
  {cs body : List Char}

theorem lineEndRead {e : List Char} (known : e ∈ lineEnds) (whole : e = ['\r'] → cs.head? ≠ some '\n') :
    lineEndOf? (e ++ cs) = some e := by
  simp only [lineEnds,List.mem_cons,List.not_mem_nil,or_false] at known
  rcases known with rfl | rfl | rfl
  · rfl
  · rfl
  · cases cs with
    | nil => rfl
    | cons c cs =>
      rw [List.cons_append,List.nil_append,lineEndOf?]
      rintro _ same
      exact whole rfl (congrArg List.head? same)

theorem inlineNone (inline : c ≠ '\n' ∧ c ≠ '\r') (cs : List Char) : lineEndOf? (c :: cs) = none := by
  unfold lineEndOf?
  split
  · next same => exact absurd (List.cons.inj same).1 inline.1
  · next same => exact absurd (List.cons.inj same).1 inline.2
  · next same => exact absurd (List.cons.inj same).1 inline.2
  · rfl

theorem escapeInline (inline : c ≠ '\n' ∧ c ≠ '\r') (cs : List Char) :
    escapeOf? names (c :: cs) = escapeBy? names c cs := by
  rw [escapeOf?,inlineNone inline]

theorem letterRead {point : Nat} (known : (c,point) ∈ letterEscapes) (cs : List Char) :
    escapeOf? names (c :: cs) = some (.letter c point) := by
  have listed : ∀ e ∈ letterEscapes,
      (e.1 ≠ '\n' ∧ e.1 ≠ '\r') ∧ e.1 ≠ 'N' ∧ letterEscapes.lookup e.1 = some e.2 := by decide
  obtain ⟨inline,unnamed,found⟩ := listed _ known
  rw [escapeInline inline,escapeBy?,if_neg unnamed,found]

theorem wideRead {digits : List Char} {point : Nat} (known : (c,digits.length) ∈ wideEscapes)
    (numeral : Denotes 16 digits point) (cs : List Char) :
    escapeOf? names (c :: (digits ++ cs)) = some (.wide c digits point) := by
  have listed : ∀ e ∈ wideEscapes, (e.1 ≠ '\n' ∧ e.1 ≠ '\r') ∧ e.1 ≠ 'N' ∧
      letterEscapes.lookup e.1 = none ∧ wideEscapes.lookup e.1 = some e.2 := by decide
  obtain ⟨inline,unnamed,other,found⟩ := listed _ known
  rw [escapeInline inline,escapeBy?,if_neg unnamed,other,found]
  dsimp only
  rw [List.take_left,Text.naturalRead numeral le_rfl,Option.map_some]

theorem octalTaken {digits : List Char} (figures : ∀ c ∈ digits, c ∈ "01234567".toList)
    (short : digits.length ≤ 3) (ends : digits.length < 3 → ∀ c ∈ cs.head?, c ∉ "01234567".toList) :
    ((digits ++ cs).take 3).takeWhile (· ∈ "01234567".toList) = digits := by
  rw [List.take_append,List.take_of_length_le short,
    List.takeWhile_append_of_pos fun c mem => decide_eq_true (figures c mem)]
  have stop : (cs.take (3 - digits.length)).takeWhile (· ∈ "01234567".toList) = [] := by
    cases cs with
    | nil => rw [List.take_nil,List.takeWhile_nil]
    | cons c cs =>
      cases left : 3 - digits.length with
      | zero => rfl
      | succ n =>
        rw [List.take_succ_cons,List.takeWhile_cons_of_neg]
        exact (decide_eq_false (ends (by omega) c rfl)).symm ▸ Bool.false_ne_true
  rw [stop,List.append_nil]

theorem octalRead {digits : List Char} {point : Nat} (numeral : Denotes 8 digits point)
    (short : digits.length ≤ 3) (ends : digits.length < 3 → ∀ c ∈ cs.head?, ∀ d, ¬ IsDigit 8 c d) :
    escapeOf? names (digits ++ cs) = some (.octal digits point) := by
  have figure : "01234567".toList.Forall fun c => (c ≠ '\n' ∧ c ≠ '\r') ∧ c ≠ 'N' ∧
      letterEscapes.lookup c = none ∧ wideEscapes.lookup c = none := by decide
  have octal : "01234567".toList.Forall fun c => ∃ d < 8, Text.digitRow[d]? = some c.toLower := by decide
  have figures : ∀ c ∈ digits, c ∈ "01234567".toList := by
    obtain ⟨_,ds,all,_⟩ := numeral
    exact ((List.forall₂_and_left digits ds).mp (all.imp fun _ _ digit => ⟨octalRow digit,digit⟩)).1
  have stops : digits.length < 3 → ∀ c ∈ cs.head?, c ∉ "01234567".toList := by
    intro less c mem listed
    obtain ⟨d,below,place⟩ := List.forall_iff_forall_mem.mp octal c listed
    exact ends less c mem d ⟨below,place⟩
  have taken := octalTaken figures short stops
  have value := Text.naturalRead numeral (by decide)
  cases digits with
  | nil => exact absurd rfl numeral.nonempty
  | cons c digits =>
    have own := figures c List.mem_cons_self
    obtain ⟨inline,unnamed,other,narrow⟩ := List.forall_iff_forall_mem.mp figure c own
    rw [List.cons_append] at taken ⊢
    rw [escapeInline inline,escapeBy?,if_neg unnamed,other,narrow]
    dsimp only
    rw [if_pos own,taken,value,Option.map_some]

theorem namedRead {name : List Char} {point : Nat} (spelled : ∀ c ∈ name, c.isAlphanum ∨ c = ' ' ∨ c = '-')
    (known : names name = some point) (cs : List Char) :
    escapeOf? names ('N' :: '\x7b' :: name ++ ['\x7d'] ++ cs) = some (.named name point) := by
  have inside : ∀ c ∈ name, decide (c ≠ '\x7d') = true := by
    refine fun c mem => decide_eq_true ?_
    rintro rfl
    exact absurd (spelled _ mem) (by decide)
  have taken : (name ++ ['\x7d'] ++ cs).takeWhile (· ≠ '\x7d') = name := by
    rw [List.append_assoc]
    exact (Text.spanned inside fun c first => by cases first; decide).1
  rw [List.cons_append,List.cons_append,List.cons_append,List.cons_append,escapeInline (by decide),escapeBy?,
    if_pos rfl]
  dsimp only
  rw [List.drop_one,List.tail_cons,taken,known,Option.map_some]

theorem keptRead (unknown : c ∉ escapeHeads) (cs : List Char) : escapeOf? names (c :: cs) = some (.kept c) := by
  simp only [escapeHeads,List.mem_append,not_or] at unknown
  obtain ⟨⟨⟨fixed,figures⟩,letters⟩,marks⟩ := unknown
  have absent {es : List (Char × Nat)} (unlisted : c ∉ es.map Prod.fst) : es.lookup c = none :=
    List.lookup_eq_none_iff.mpr fun e mem => by
      simpa using fun same : c = e.1 => unlisted (same ▸ List.mem_map_of_mem mem)
  have other {d : Char} (mem : d ∈ "\n\rN".toList) : c ≠ d := fun same => fixed (same ▸ mem)
  rw [escapeInline ⟨other (by decide),other (by decide)⟩,escapeBy?,if_neg (other (by decide)),absent letters,
    absent marks]
  dsimp only
  rw [if_neg figures]

theorem pieceRead (valid : p.Valid names raw) (ends : p.Ends cs) :
    pieceOf? names raw (p.written ++ cs) = some p := by
  have escape (cs : List Char) : pieceOf? names false ('\\' :: cs) = escapeOf? names cs := rfl
  cases valid with
  | plain free inline =>
    rw [Piece.written,List.singleton_append,pieceOf?,inlineNone inline]
    dsimp only
    rw [if_neg]
    rintro ⟨same,cooked⟩
    rw [free same] at cooked
    cases cooked
  | lineEnd known =>
    unfold pieceOf?
    rw [Piece.written,lineEndRead known ends]
  | joined cooked known =>
    rw [cooked,Piece.written,List.cons_append,escape]
    unfold escapeOf?
    rw [lineEndRead known ends]
  | letter cooked known => rw [cooked,Piece.written,List.cons_append,escape]; exact letterRead known cs
  | octal cooked short numeral =>
    rw [cooked,Piece.written,List.cons_append,escape,octalRead numeral short ends]
  | wide cooked known numeral _ =>
    rw [cooked,Piece.written,List.cons_append,List.cons_append,escape,wideRead known numeral]
  | named cooked spelled known => rw [cooked]; exact namedRead spelled known cs
  | kept cooked unknown => rw [cooked,Piece.written,List.cons_append,escape]; exact keptRead unknown cs

theorem cutCases (cut : Cut names raw body ps) : body = [] ∧ ps = [] ∨
    ∃ p cs qs, body = p.written ++ cs ∧ ps = p :: qs ∧ pieceOf? names raw body = some p ∧ Cut names raw cs qs := by
  cases cut with
  | nil => exact .inl ⟨rfl,rfl⟩
  | cons valid ends rest => exact .inr ⟨_,_,_,rfl,rfl,pieceRead valid ends,rest⟩

theorem cutUnique {ps' : List Piece} (cut : Cut names raw body ps) (other : Cut names raw body ps') :
    ps' = ps := by
  induction cut generalizing ps' with
  | nil =>
    rcases cutCases other with ⟨_,noPieces⟩ | ⟨_,_,_,_,_,found,_⟩
    · exact noPieces
    · cases found
  | @cons p cs ps valid ends _ ih =>
    have found := pieceRead valid ends
    rcases cutCases other with ⟨empty,_⟩ | ⟨p',cs',qs,whole,rfl,found',rest⟩
    · rw [empty] at found
      cases found
    · obtain rfl : p' = p := Option.some.inj (found'.symm.trans found)
      rw [← List.append_cancel_left whole] at rest
      rw [ih rest]

end Reading

end ConventionLint.Tree
