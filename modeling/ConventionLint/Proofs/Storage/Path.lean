import Mathlib.Data.Prod.Lex
import Mathlib.Data.String.Basic
import ConventionLint.Proofs.List
import ConventionLint.Storage.Path

/-! Paths by their parts. A path that is read from a text is written as that text, and one that is seen
from a root keeps its parts when it is written and read again. Paths are compared by keys in a linear
order, and only those with the same parts have the same key. -/
namespace ConventionLint.Storage

theorem splitByOn (c : Char) (cs : List Char) : Text.splitBy (· == c) cs = cs.splitOn c := by
  rw [List.splitOn_eq_splitOnP]
  induction cs with
  | nil => rfl
  | cons d cs ih =>
    rw [Text.splitBy,List.splitOnP_cons_eq_if_modifyHead,← ih]
    split
    · rfl
    · cases cut : Text.splitBy (· == c) cs with
      | nil => exact absurd (ih.symm.trans cut) (List.splitOnP_ne_nil _ cs)
      | cons piece rest => rfl

namespace Path
variable {s : String} {p base : Path} {pieces : List String}

def IsWhole (pieces : List String) : Prop := ∀ piece ∈ pieces, '/' ∉ piece.toList

theorem piecesOfWhole (cs : List Char) : IsWhole (piecesOf cs) := by
  intro piece mem
  rw [piecesOf,splitByOn] at mem
  obtain ⟨cut,listed,rfl⟩ := List.mem_map.mp mem
  simpa using splitOnFree listed

theorem ofStringWhole (s : String) : IsWhole (ofString s).pieces := by
  unfold ofString
  split
  · exact piecesOfWhole _
  · exact piecesOfWhole _

theorem piecesOfWritten (cs : List Char) : "/".intercalate (piecesOf cs) = String.ofList cs := by
  rw [← String.toList_inj,String.toList_intercalate,piecesOf,splitByOn,List.map_map]
  simp [Function.comp_def]

theorem piecesOfJoined (whole : IsWhole pieces) (nonempty : pieces ≠ []) :
    piecesOf ("/".intercalate pieces).toList = pieces := by
  have cut : (['/'].intercalate (pieces.map String.toList)).splitOn '/' = pieces.map String.toList :=
    List.splitOn_intercalate '/' (by simpa [IsWhole] using whole) (by simpa using nonempty)
  rw [piecesOf,splitByOn,String.toList_intercalate,show "/".toList = ['/'] from rfl,cut]
  simp

theorem toStringOfString (s : String) : (ofString s).toString = s := by
  unfold ofString
  split
  · next rest read =>
    rw [toString,piecesOfWritten,← String.toList_inj,read]
    simp
  · simp [toString,piecesOfWritten]

theorem ofStringRelative (whole : IsWhole pieces) (first : ∀ piece, pieces.head? = some piece → piece ≠ "")
    (nonempty : pieces ≠ []) : ofString (⟨false,pieces⟩ : Path).toString = ⟨false,pieces⟩ := by
  have read := piecesOfJoined whole nonempty
  have plain : (⟨false,pieces⟩ : Path).toString = "/".intercalate pieces := by simp [toString]
  rw [plain]
  unfold ofString
  split
  · next rest absolute =>
    rw [absolute,piecesOf,splitByOn,List.splitOn_cons_eq_if_modifyHead] at read
    have empty : pieces.head? = some "" := by simp [← read]
    exact absurd rfl (first "" empty)
  · rw [read]

theorem dropPiecesSuffix (n : Nat) (pieces : List String) : dropPieces n pieces <:+ pieces := by
  induction n generalizing pieces with
  | zero => exact List.dropWhile_suffix _
  | succ n ih => exact (ih _).trans ((List.drop_suffix 1 _).trans (List.dropWhile_suffix _))

theorem dropPiecesHead (n : Nat) (pieces : List String) :
    ∀ piece, (dropPieces n pieces).head? = some piece → counts piece := by
  induction n generalizing pieces with
  | zero =>
    intro piece first
    have := List.head?_dropWhile_not (fun s => !counts s) pieces
    rw [dropPieces] at first
    simpa [first] using this
  | succ n ih => exact ih _

theorem trimEndPrefix (pieces : List String) : trimEnd pieces <+: pieces := by
  rw [trimEnd,← List.reverse_suffix,List.reverse_reverse]
  exact List.dropWhile_suffix _

theorem firstOfPrefix {before : List String} {piece : String} (kept : before <+: pieces)
    (first : before.head? = some piece) : pieces.head? = some piece := by
  obtain ⟨rest,rfl⟩ := kept
  simp [first]

theorem partsRelative (s : String) (base : Path) :
    (ofString ((ofString s).relativeTo base).toString).parts = ((ofString s).relativeTo base).parts := by
  unfold relativeTo relativeTo?
  split
  · rw [Option.getD_some,toStringOfString]
  · split
    · rw [Option.getD_some]
      by_cases empty : trimEnd (dropPieces (base.pieces.filter counts).length (ofString s).pieces) = []
      · rw [empty]
        rfl
      · have kept := (trimEndPrefix (dropPieces (base.pieces.filter counts).length (ofString s).pieces))
        have part := kept.isInfix.trans (dropPiecesSuffix _ (ofString s).pieces).isInfix
        rw [ofStringRelative (fun piece mem => ofStringWhole s piece (part.subset mem)) _ empty]
        intro piece first
        have counted := dropPiecesHead _ _ piece (firstOfPrefix kept first)
        rintro rfl
        simp [counts] at counted
    · rw [Option.getD_none,toStringOfString]

end Path

def Part.key (a : Part) : Nat ×ₗ String := toLex (a.rank,a.text)

theorem Part.keyInjective : Function.Injective Part.key := by
  intro a b same
  simp only [Part.key,toLex_inj,Prod.mk.injEq] at same
  cases a <;> cases b <;> simp_all [Part.rank,Part.text]

theorem Part.beforeIff (a b : Part) : a.before b = true ↔ a.key < b.key := by
  simp [Part.before,Part.key,Prod.Lex.toLex_lt_toLex]

theorem partsBeforeIff (as bs : List Part) :
    partsBefore as bs = true ↔ as.map Part.key < bs.map Part.key := by
  induction as generalizing bs with
  | nil => cases bs <;> simp [partsBefore]
  | cons a as ih =>
    cases bs with
    | nil => simp [partsBefore]
    | cons b bs =>
      have behind : b.before a = false ↔ a.key ≤ b.key := by
        rw [← Bool.not_eq_true,Part.beforeIff,not_lt]
      simp only [partsBefore,Bool.or_eq_true,Bool.and_eq_true,Bool.not_eq_true',List.map_cons,
        List.cons_lt_cons_iff,ih,Part.beforeIff,behind]
      constructor
      · rintro (first | ⟨upTo,rest⟩)
        · exact .inl first
        · exact upTo.lt_or_eq.imp id fun same => ⟨same,rest⟩
      · rintro (first | ⟨same,rest⟩)
        · exact .inl first
        · exact .inr ⟨same.le,rest⟩

def Path.key (p : Path) : List (Nat ×ₗ String) := p.parts.map Part.key

theorem Path.keyInj {p q : Path} : p.key = q.key ↔ p.parts = q.parts :=
  (List.map_injective_iff.mpr Part.keyInjective).eq_iff

theorem Path.beforeIff (p q : Path) : p.before q = true ↔ p.key < q.key := partsBeforeIff _ _

end ConventionLint.Storage
