import Mathlib.Algebra.Order.BigOperators.Group.List
import ConventionLint.Proofs.Tree.Piece
import ConventionLint.Proofs.Tree.StringToken

/-! What is read of a string. It is read piece by piece, and what is read of a piece is never shorter than what
that stands for, so that the whole is read right only if every piece is. -/
namespace ConventionLint.Tree
open ConventionLint.Text (Denotes IsDigit)

namespace Piece

def readLetters : List Char := ['n','t','r','\\','\'','"']

def octalDecoded (digits : List Char) : List Char :=
  match digits with
  | '0' :: rest => '\x00' :: rest
  | _ => '\\' :: digits

def decoded : Piece → List Char
  | plain c => [c]
  | lineEnd e => e
  | joined e => if e = ['\n'] then [] else '\\' :: e
  | letter c point => if c ∈ readLetters then [Char.ofNat point] else ['\\',c]
  | octal digits _ => octalDecoded digits
  | wide mark digits point => if point.isValidChar then [Char.ofNat point] else '\\' :: mark :: digits
  | named name _ => '\\' :: 'N' :: '\x7b' :: name ++ ['\x7d']
  | kept c => ['\\',c]

def Exact : Piece → Prop
  | plain _ => True
  | lineEnd e => e = ['\n']
  | joined e => e = ['\n']
  | letter c _ => c ∈ readLetters
  | octal digits _ => digits = ['0']
  | wide _ _ point => point.isValidChar
  | named _ _ => False
  | kept _ => True

end Piece

theorem boundedPlain {c : Char} (free : c ≠ '\\') (n : Nat) (cs : List Char) :
    unescapeBounded (n + 1) (c :: cs) = c :: unescapeBounded n cs := by
  rw [unescapeBounded]
  exact fun d ds same => absurd same free

theorem unescapeFuel {n m : Nat} {cs : List Char} (enough : cs.length ≤ n) (enough' : cs.length ≤ m) :
    unescapeBounded n cs = unescapeBounded m cs := by
  induction n generalizing m cs with
  | zero =>
    cases List.eq_nil_of_length_eq_zero (Nat.le_zero.mp enough)
    cases m <;> rfl
  | succ n ih =>
    cases m with
    | zero =>
      cases List.eq_nil_of_length_eq_zero (Nat.le_zero.mp enough')
      rfl
    | succ m =>
      cases cs with
      | nil => rfl
      | cons c cs =>
        have rest (ds : List Char) (shorter : ds.length ≤ cs.length) : unescapeBounded n ds = unescapeBounded m ds :=
          ih (shorter.trans (Nat.le_of_succ_le_succ enough)) (shorter.trans (Nat.le_of_succ_le_succ enough'))
        by_cases free : c = '\\'
        · cases cs with
          | nil =>
            subst free
            simp only [unescapeBounded,rest [] le_rfl]
          | cons d cs =>
            subst free
            have tails (w : Nat) : unescapeBounded n (cs.drop w) = unescapeBounded m (cs.drop w) :=
              rest _ (by simp only [List.length_drop,List.length_cons]; omega)
            simp only [unescapeBounded,rest cs (Nat.le_succ _),tails]
        · rw [boundedPlain free,boundedPlain free,rest cs le_rfl]

theorem unescapeWith {n : Nat} {cs : List Char} (enough : cs.length ≤ n) : unescapeBounded n cs = unescape cs :=
  unescapeFuel enough le_rfl

section Unescape
variable {c : Char} {cs : List Char}

theorem unescapePlain (free : c ≠ '\\') : unescape (c :: cs) = c :: unescape cs := by
  rw [unescape,List.length_cons,boundedPlain free]
  rfl

theorem unescapeSimple {out : List Char} (simple : simpleEscape? c = some out) :
    unescape ('\\' :: c :: cs) = out ++ unescape cs := by
  have enough : cs.length ≤ (c :: cs).length := Nat.le_succ _
  rw [unescape,List.length_cons,unescapeBounded,simple]
  dsimp only
  rw [unescapeWith enough]

theorem unescapeWide {width : Nat} (other : simpleEscape? c = none) (wide : escapeWidth? c = some width) :
    unescape ('\\' :: c :: cs) =
      (match hexScalar? (cs.take width) with
        | some ch => [ch]
        | none => '\\' :: c :: cs.take width) ++ unescape (cs.drop width) := by
  have enough : (cs.drop width).length ≤ (c :: cs).length := by
    rw [List.length_drop,List.length_cons]
    omega
  rw [unescape,List.length_cons,unescapeBounded,other,wide]
  dsimp only
  rw [unescapeWith enough]
  cases hexScalar? (cs.take width) <;> rfl

theorem unescapeKept (other : simpleEscape? c = none) (narrow : escapeWidth? c = none) :
    unescape ('\\' :: c :: cs) = '\\' :: c :: unescape cs := by
  have enough : cs.length ≤ (c :: cs).length := Nat.le_succ _
  rw [unescape,List.length_cons,unescapeBounded,other,narrow]
  dsimp only
  rw [unescapeWith enough]

theorem unescapeFree {front : List Char} (free : '\\' ∉ front) : unescape (front ++ cs) = front ++ unescape cs := by
  induction front with
  | nil => rfl
  | cons c front ih =>
    obtain ⟨own,rest⟩ := not_or.mp (List.mem_cons.not.mp free)
    rw [List.cons_append,unescapePlain (Ne.symm own),ih rest]
    rfl

end Unescape

theorem unknownKept {c : Char} (unknown : c ∉ escapeHeads) : simpleEscape? c = none ∧ escapeWidth? c = none := by
  constructor
  · unfold simpleEscape?
    split
    all_goals first | rfl | exact absurd (by decide) unknown
  · unfold escapeWidth?
    split
    all_goals first | rfl | exact absurd (by decide) unknown

theorem hexRead {digits : List Char} {point : Nat} (numeral : Denotes 16 digits point)
    (unicode : point ≤ 0x10FFFF) :
    hexScalar? digits = if point.isValidChar then some (Char.ofNat point) else none := by
  have fits : point < Text.pow2 32 := Nat.lt_of_le_of_lt unicode (by decide)
  rw [hexScalar?,Text.boundedRead numeral le_rfl,if_pos fits]
  rfl

section Piece
variable {names : List Char → Option Nat} {p : Piece} {cs : List Char}

theorem unescapeOctal {digits : List Char} {point : Nat} (numeral : Denotes 8 digits point) :
    unescape ('\\' :: digits ++ cs) = Piece.octalDecoded digits ++ unescape cs := by
  have free : '\\' ∉ digits := Text.digitsOnly numeral (by decide) rfl
  obtain ⟨nonempty,ds,figures,_⟩ := numeral
  cases figures with
  | nil => exact absurd rfl nonempty
  | @cons c d cs' ds' figure _ =>
    have rest : '\\' ∉ cs' := fun mem => free (List.mem_cons_of_mem _ mem)
    by_cases zero : c = '0'
    · subst zero
      rw [List.cons_append,List.cons_append,unescapeSimple rfl,unescapeFree rest]
      rfl
    · have unread : "01234567".toList.Forall fun c =>
          c ≠ '0' → simpleEscape? c = none ∧ escapeWidth? c = none := by decide
      obtain ⟨other,narrow⟩ := List.forall_iff_forall_mem.mp unread c (octalRow figure) zero
      rw [List.cons_append,List.cons_append,unescapeKept other narrow,unescapeFree rest,Piece.octalDecoded]
      · rfl
      · exact fun rest same => zero (List.cons.inj same).1

theorem unescapePiece (valid : p.Valid names false) (cs : List Char) :
    unescape (p.written ++ cs) = p.decoded ++ unescape cs := by
  cases valid with
  | plain free _ => exact unescapePlain fun same => Bool.noConfusion (free same)
  | lineEnd known => exact unescapeFree ((by decide : ∀ e ∈ lineEnds, '\\' ∉ e) _ known)
  | joined _ known =>
    simp only [lineEnds,List.mem_cons,List.not_mem_nil,or_false] at known
    rcases known with rfl | rfl | rfl
    · exact unescapeSimple rfl
    · exact (unescapeKept rfl rfl).trans (congrArg ('\\' :: '\r' :: ·) (unescapePlain (by decide)))
    · exact unescapeKept rfl rfl
  | @letter c point _ known =>
    have read : ∀ e ∈ letterEscapes, (e.1 ∈ Piece.readLetters ∧ simpleEscape? e.1 = some [Char.ofNat e.2]) ∨
        (e.1 ∉ Piece.readLetters ∧ simpleEscape? e.1 = none ∧ escapeWidth? e.1 = none) := by decide
    rw [Piece.decoded]
    rcases read _ known with ⟨listed,simple⟩ | ⟨unlisted,other,narrow⟩
    · rw [if_pos listed]
      exact unescapeSimple simple
    · rw [if_neg unlisted]
      exact unescapeKept other narrow
  | octal _ _ numeral => exact unescapeOctal numeral
  | @wide mark digits point _ known numeral unicode =>
    have letters : ∀ e ∈ wideEscapes, simpleEscape? e.1 = none ∧ escapeWidth? e.1 = some e.2 := by decide
    obtain ⟨other,wide⟩ := letters _ known
    rw [Piece.written,List.cons_append,List.cons_append,unescapeWide other wide,List.take_left,List.drop_left,
      hexRead numeral unicode,Piece.decoded]
    by_cases scalar : point.isValidChar
    · rw [if_pos scalar,if_pos scalar]
    · rw [if_neg scalar,if_neg scalar]
  | @named name point _ spelled known =>
    have free : '\\' ∉ '\x7b' :: name ++ ['\x7d'] := by
      simp only [List.cons_append,List.mem_cons,List.mem_append,List.not_mem_nil,or_false]
      rintro (brace | mem | brace)
      · exact absurd brace (by decide)
      · exact absurd (spelled _ mem) (by decide)
      · exact absurd brace (by decide)
    exact (unescapeKept rfl rfl).trans (congrArg ('\\' :: 'N' :: ·) (unescapeFree free))
  | kept _ unknown =>
    obtain ⟨other,narrow⟩ := unknownKept unknown
    exact unescapeKept other narrow

theorem unescapeCut {body : List Char} {ps : List Piece} (cut : Cut names false body ps) :
    unescape body = ps.flatMap Piece.decoded := by
  induction cut with
  | nil => rfl
  | cons valid _ _ ih => rw [unescapePiece valid,ih,List.flatMap_cons]

theorem rawPiece (valid : p.Valid names true) : p.decoded = p.written := by
  cases valid <;> first | rfl | contradiction

theorem rawCut {body : List Char} {ps : List Piece} (cut : Cut names true body ps) :
    ps.flatMap Piece.decoded = body := by
  induction cut with
  | nil => rfl
  | cons valid _ _ ih => rw [List.flatMap_cons,rawPiece valid,ih]

theorem scalarOfNat {point : Nat} (scalar : point.isValidChar) : (Char.ofNat point).toNat = point := by
  rw [Char.ofNat,dif_pos scalar]
  rfl

theorem octalExact {digits : List Char} {point : Nat} (numeral : Denotes 8 digits point) :
    (Piece.octal digits point).decoded.map Char.toNat = [point] ↔ digits = ['0'] := by
  rw [Piece.decoded]
  unfold Piece.octalDecoded
  constructor
  · intro same
    split at same
    · next rest =>
      have empty : rest = [] := by simpa using (List.cons.inj same).2
      rw [empty]
    · exact absurd numeral.nonempty (by simpa using (List.cons.inj same).2)
  · rintro rfl
    obtain ⟨_,ds,figures,rfl⟩ := numeral
    obtain ⟨d,_,figure,rest,rfl⟩ := List.forall₂_cons_left_iff.mp figures
    cases List.forall₂_nil_left_iff.mp rest
    have zero : ∀ d < 8, Text.digitRow[d]? = some '0' → d = 0 := by decide
    cases zero d figure.below figure.place
    rfl

theorem pieceExact {raw : Bool} (valid : p.Valid names raw) :
    p.decoded.map Char.toNat = p.points ↔ p.Exact := by
  cases valid with
  | plain => exact iff_of_true rfl trivial
  | lineEnd known =>
    exact (by decide : ∀ e ∈ lineEnds, e.map Char.toNat = ['\n'.toNat] ↔ e = ['\n']) _ known
  | joined _ known =>
    exact (by decide : ∀ e ∈ lineEnds,
      (if e = ['\n'] then [] else '\\' :: e).map Char.toNat = [] ↔ e = ['\n']) _ known
  | @letter c point _ known =>
    exact (by decide : ∀ e ∈ letterEscapes,
      (if e.1 ∈ Piece.readLetters then [Char.ofNat e.2] else ['\\',e.1]).map Char.toNat = [e.2] ↔
        e.1 ∈ Piece.readLetters) _ known
  | octal _ _ numeral => exact octalExact numeral
  | wide _ _ numeral =>
    rw [Piece.decoded,Piece.points,Piece.Exact]
    split
    · next scalar => simp [scalar,scalarOfNat scalar]
    · next other => simp [other]
  | named => simp [Piece.decoded,Piece.points,Piece.Exact]
  | kept => exact iff_of_true rfl trivial

theorem pieceLonger {raw : Bool} (valid : p.Valid names raw) : p.points.length ≤ p.decoded.length := by
  cases valid with
  | plain => exact le_rfl
  | lineEnd known => exact (by decide : ∀ e ∈ lineEnds, 1 ≤ e.length) _ known
  | joined => exact Nat.zero_le _
  | letter =>
    rw [Piece.decoded]
    split <;> simp [Piece.points]
  | octal =>
    rw [Piece.decoded]
    unfold Piece.octalDecoded
    split <;> simp [Piece.points]
  | wide =>
    rw [Piece.decoded]
    split <;> simp [Piece.points]
  | named => simp [Piece.decoded,Piece.points]
  | kept => exact le_rfl

theorem agreeByParts {f g : Piece → List Nat} {ps : List Piece} (longer : ∀ p ∈ ps, (g p).length ≤ (f p).length) :
    ps.flatMap f = ps.flatMap g ↔ ∀ p ∈ ps, f p = g p := by
  refine ⟨fun same => ?_,List.flatMap_congr⟩
  induction ps with
  | nil => exact List.forall_mem_nil _
  | cons p ps ih =>
    obtain ⟨own,rest⟩ := List.forall_mem_cons.mp longer
    have total : (ps.flatMap g).length ≤ (ps.flatMap f).length := by
      rw [List.length_flatMap,List.length_flatMap]
      exact List.sum_le_sum rest
    rw [List.flatMap_cons,List.flatMap_cons] at same
    have lengths := congrArg List.length same
    rw [List.length_append,List.length_append] at lengths
    obtain ⟨first,others⟩ := List.append_inj same (by omega)
    exact List.forall_mem_cons.mpr ⟨first,ih rest others⟩

end Piece

theorem cutValid {names : List Char → Option Nat} {raw : Bool} {body : List Char} {ps : List Piece}
    (cut : Cut names raw body ps) : ∀ p ∈ ps, p.Valid names raw := by
  induction cut with
  | nil => exact List.forall_mem_nil _
  | cons valid _ _ ih => exact List.forall_mem_cons.mpr ⟨valid,ih⟩

def textMarks : List (List Char × Bool) := [([],false),(['u'],false),(['U'],false),(['r'],true),(['R'],true)]

/-- The body of a text token falls into pieces in one way, and it is read piece by piece, a raw one as it is
written. This is the text that the token stands for if and only if there are no other pieces in it than single
characters, line feeds, escapes by some letters, the zero and hexadecimal escapes for characters; every other
escape is left as it is written. -/
theorem textByPieces {names : List Char → Option Nat} {mark q body : List Char} {raw : Bool} {ps : List Piece}
    (known : (mark,raw) ∈ textMarks) (style : q ∈ quoteStyles) (closed : Closed q body)
    (cut : Cut names raw body ps) :
    (∀ ps', Cut names raw body ps' → ps' = ps) ∧
    stringValue? (mark ++ q ++ body ++ q) = some (ps.flatMap Piece.decoded,false) ∧
    (raw = true → ps.flatMap Piece.decoded = body) ∧
    ((ps.flatMap Piece.decoded).map Char.toNat = ps.flatMap Piece.points ↔ ∀ p ∈ ps, p.Exact) := by
  have marks : ∀ m ∈ textMarks, (m.1.Forall fun c => ¬ StringToken.isQuote c) ∧
      (m.1.any ['r','R'].contains) = m.2 ∧ (m.1.any ['b','B'].contains) = false := by decide
  obtain ⟨letters,isRaw,noBytes⟩ := marks _ known
  have value : (if raw then body else unescape body) = ps.flatMap Piece.decoded := by
    cases raw with
    | false => exact unescapeCut cut
    | true => exact (rawCut cut).symm
  have token : stringValue? (mark ++ q ++ body ++ q) = some (if raw then body else unescape body,false) := by
    rw [stringValue?,StringToken.splitQuoted (List.forall_iff_forall_mem.mp letters) style closed,
      Option.bind_eq_bind,Option.bind_some,StringToken.isRaw,StringToken.isBytes,StringToken.marked,
      StringToken.marked,isRaw,noBytes]
    rfl
  refine ⟨fun _ => cutUnique cut,token.trans (by rw [value]),fun raw => ?_,?_⟩
  · subst raw
    exact rawCut cut
  · have valid := cutValid cut
    rw [List.map_flatMap,agreeByParts fun p mem => by rw [List.length_map]; exact pieceLonger (valid p mem)]
    exact forall₂_congr fun p mem => pieceExact (valid p mem)

theorem octalLeft :
    Cut (fun _ => none) false ['\\','1','0','1'] [.octal ['1','0','1'] 65] ∧
    stringValue? ['"','\\','1','0','1','"'] = some (['\\','1','0','1'],false) ∧
    ¬ (Piece.octal ['1','0','1'] 65).Exact := by
  have one : IsDigit 8 '1' 1 := ⟨by decide,by decide⟩
  have zero : IsDigit 8 '0' 0 := ⟨by decide,by decide⟩
  have octal : (Piece.octal ['1','0','1'] 65).Valid (fun _ => none) false :=
    .octal rfl (by decide) ⟨List.cons_ne_nil _ _,[1,0,1],.cons one (.cons zero (.cons one .nil)),rfl⟩
  have cut : Cut (fun _ => none) false ['\\','1','0','1'] [.octal ['1','0','1'] 65] :=
    .cons octal (fun short => absurd short (by decide)) .nil
  have closed : Closed ['"'] ['\\','1','0','1'] :=
    .escaped (.plain (by decide) (by decide) (by decide) (.plain (by decide) (by decide) (by decide) .nil))
  exact ⟨cut,(textByPieces (by decide : ([],false) ∈ textMarks) (by decide) closed cut).2.1,
    by simp [Piece.Exact]⟩

end ConventionLint.Tree
