import ConventionLint.Grammar.Program
import ConventionLint.Proofs.Grammar.Statements
import ConventionLint.Proofs.Text.Utf8

/-! Every place in the tree of a program is a place of its text: the scan only moves forward over the
text, layout tokens stand where others end, and parsers make up no places. -/
namespace ConventionLint.Grammar

def Reached (text : List Char) (p : Position) (rest : List Char) : Prop :=
  ∃ cs, text = cs ++ rest ∧ p = Position.initial.advanceAll cs

def PlaceOf (text : List Char) (p : Position) : Prop := ∃ rest, Reached text p rest

def sitesOf (text : List Char) (word : Span → Prop) : Sites := ⟨PlaceOf text,word⟩

section Scan
variable {text rest : List Char} {p : Position}

theorem reachedStart (text : List Char) : Reached text .initial text := ⟨[],rfl,rfl⟩

theorem reachedOn (n : Nat) (reached : Reached text p rest) :
    Reached text (p.advanceAll (rest.take n)) (rest.drop n) := by
  obtain ⟨cs,rfl,rfl⟩ := reached
  refine ⟨cs ++ rest.take n,?_,?_⟩
  · rw [List.append_assoc,List.take_append_drop]
  · simp [Position.advanceAll,List.foldl_append]

theorem placeOf (reached : Reached text p rest) : PlaceOf text p := ⟨rest,reached⟩

theorem offsetOf (cs : List Char) :
    (Position.initial.advanceAll cs).offset = Text.Utf8.size cs := by
  rw [Position.offset_advanceAll]
  exact Nat.zero_add _

theorem sliceOfPlaces {start stop : Position} (more : List Char) (hs : PlaceOf text start)
    (ht : PlaceOf text stop) :
    Text.Utf8.slice start.offset stop.offset (text ++ more) =
      Text.Utf8.slice start.offset stop.offset text := by
  obtain ⟨_,cs,rfl,rfl⟩ := hs
  obtain ⟨_,ds,same,rfl⟩ := ht
  rw [offsetOf,offsetOf]
  apply Text.Utf8.sliceAppend
  rw [same,Text.Utf8.sizeAppend]
  exact Nat.le_add_right _ _

def Opened (text : List Char) (stack : List Opening) : Prop := ∀ o ∈ stack, PlaceOf text o.start

theorem openedCons {o : Opening} {stack : List Opening} :
    Opened text (o :: stack) ↔ PlaceOf text o.start ∧ Opened text stack := by
  simp [Opened]

theorem codeCutOpened {stack : List Opening} {bare : Bool} (here : PlaceOf text p)
    (opened : Opened text stack) : Opened text (codeCut p stack bare rest).stack := by
  unfold codeCut
  extract_lets
  repeat' split
  all_goals first
    | exact opened
    | exact openedCons.mpr ⟨here,opened⟩
    | exact (openedCons.mp opened).2

theorem literalCutOpened {start : Position} {d : Delimiter} {outer : List Opening}
    (here : PlaceOf text p) (begun : PlaceOf text start) (opened : Opened text outer) :
    Opened text (literalCut p start d outer rest).stack := by
  unfold literalCut
  repeat' split
  all_goals first
    | exact opened
    | exact openedCons.mpr ⟨here,openedCons.mpr ⟨begun,opened⟩⟩

theorem scanFromPlaces (n : Nat) {s : Scan} (reached : Reached text s.position rest)
    (opened : Opened text s.stack) : ∀ t ∈ scanFrom n s rest, t.span.Within (PlaceOf text) := by
  induction n generalizing s rest with
  | zero => exact nofun
  | succ n ih =>
    unfold scanFrom
    extract_lets +onlyGivenNames stopped emit
    have stops {q : Position} {lead : Option Nat} (hq : PlaceOf text q) :
        ∀ t ∈ stopped q lead, t.span.Within (PlaceOf text) := List.forall_mem_singleton.mpr ⟨hq,hq⟩
    have emits {c : Cut} {q : Position} {lead : Option Nat} {cs : List Char}
        (hq : Reached text q cs) (ho : Opened text c.stack) :
        ∀ t ∈ emit c q lead cs, t.span.Within (PlaceOf text) := by
      have next := reachedOn c.length hq
      exact List.forall_mem_cons.mpr ⟨⟨placeOf hq,placeOf next⟩,ih next ho⟩
    split
    · rename_i start d outer stack
      rw [stack] at opened
      have ⟨begun,around⟩ := openedCons.mp opened
      have here := reachedOn (plainLength d rest.length rest) reached
      dsimp only
      split
      · exact stops begun
      · exact emits here (literalCutOpened (placeOf here) begun around)
    · rename_i start outer stack
      rw [stack] at opened
      have ⟨begun,around⟩ := openedCons.mp opened
      have here := reachedOn (rest.takeWhile fun c => c ≠ '\x7b' ∧ c ≠ '\x7d' ∧ c ≠ '\n').length reached
      dsimp only
      split
      · rw [stack]
        exact emits here (openedCons.mpr ⟨placeOf here,opened⟩)
      · exact emits here (openedCons.mp around).2
      · exact stops begun
    · have here := reachedOn (gap rest).length reached
      dsimp only
      split
      · split
        · rename_i stack
          rw [stack] at opened
          exact stops (openedCons.mp opened).1
        · exact nofun
      · split
        · exact stops (placeOf here)
        · exact emits here (codeCutOpened (placeOf here) opened)

theorem scanPlaces (text : List Char) : ∀ t ∈ scan text, t.span.Within (PlaceOf text) :=
  scanFromPlaces _ (reachedStart text) (by simp [Opened,Scan.initial])

end Scan

section Layout
variable {S : Sites} {last : Position}

theorem liesLayoutToken {l : Lexeme} (h : S last) (layout : ∀ w, l ≠ .word w) :
    Lies S (layoutToken l last) := ⟨⟨h,h⟩,fun w same => absurd same (layout w)⟩

theorem closeBlocksPlaces (h : S last) (code : Nat) (comment : Option Nat) (levels : List Nat) :
    Lies S (closeBlocks last code comment levels).1 := by
  induction levels with
  | nil => exact liesNil
  | cons top levels ih =>
    unfold closeBlocks
    split
    · exact liesCons.mpr ⟨liesLayoutToken h nofun,ih⟩
    · exact liesNil

theorem endedPlaces {pending : Bool} (h : S last) :
    Lies S (if pending then [layoutToken .newline last] else []) := by
  split
  · exact liesCons.mpr ⟨liesLayoutToken h nofun,liesNil⟩
  · exact liesNil

theorem layoutFromPlaces {levels : List Nat} {pending header : Bool} {ts : List Token} (h : S last)
    (all : Lies S ts) : Lies S (layoutFrom levels pending header last ts) := by
  induction ts generalizing levels pending header last with
  | nil =>
    refine liesAppend.mpr ⟨endedPlaces h,?_⟩
    intro t mem
    obtain ⟨_,_,rfl⟩ := List.mem_map.mp mem
    exact liesLayoutToken h nofun
  | cons t ts ih =>
    have ⟨own,rest⟩ := liesCons.mp all
    unfold layoutFrom
    extract_lets resume
    have goesOn (levels : List Nat) (pending : Bool) : Lies S (resume levels pending) := by
      dsimp only [resume]
      split
      · exact liesCons.mpr ⟨own,ih own.1.2 rest⟩
      · exact liesCons.mpr ⟨own,ih own.1.2 rest⟩
    split
    · exact goesOn levels pending
    · dsimp only
      split
      · exact liesCons.mpr ⟨liesLayoutToken h nofun,goesOn _ _⟩
      · refine liesAppend.mpr ⟨liesAppend.mpr ⟨endedPlaces h,?_⟩,goesOn _ _⟩
        exact closeBlocksPlaces h _ _ _

end Layout

theorem stepReads {S : Sites} {r : Reader} (reads : Reads S r) : Reads S (step r)
  | .expression _ => Keeps.expression reads
  | .operand _ => Keeps.operand reads
  | .clause => Keeps.clauseExpression reads
  | .typeForm _ => Keeps.typeForm reads
  | .casePattern => Keeps.casePattern reads
  | .suite => Keeps.suite reads

theorem readBoundedReads (S : Sites) (n : Nat) : Reads S (readBounded n) := by
  induction n with
  | zero => exact fun _ => Keeps.fail
  | succ n ih => exact stepReads ih

theorem programStatementsKeeps {S : Sites} {r : Reader} (reads : Reads S r) :
    Keeps S (programStatements r) := by
  refine .bind (α := List (List Concrete)) (.many (Keeps.peek.bind fun _ _ => ?_)) fun _ h =>
    .pure (liesFlatten h)
  split
  · exact .pure liesNone
  · exact (Keeps.statements reads).bind fun _ h => .pure (liesSome.mpr h)

section Program
variable {text : List Char} {word : Span → Prop}

theorem significantPlaces (words : ∀ t ∈ scan text, ∀ w, t.lexeme = .word w → word t.span) :
    Lies (sitesOf text word) (significantTokens text) := by
  have scanned : Lies (sitesOf text word) (scan text) := fun t mem => ⟨scanPlaces text t mem,words t mem⟩
  exact fun t mem => layoutFromPlaces (placeOf (reachedStart text)) scanned t (List.mem_filter.mp mem).1

theorem programSpanPlaces (text : List Char) : (programSpan text).Within (PlaceOf text) := by
  have stop : PlaceOf text (Position.initial.advanceAll text) := ⟨[],text,by simp,rfl⟩
  unfold programSpan
  dsimp only
  split
  · rename_i t ts tokens
    have all := scanPlaces text
    rw [tokens] at all
    exact ⟨(all t List.mem_cons_self).1,stop⟩
  · exact ⟨stop,stop⟩

theorem parsePlaces {program : Concrete} (ok : parse text = .ok program)
    (words : ∀ t ∈ scan text, ∀ w, t.lexeme = .word w → word t.span) :
    Lies (sitesOf text word) program := by
  unfold parse at ok
  dsimp only at ok
  split at ok
  · rename_i body s read
    cases ok
    have start : Lies (sitesOf text word) (⟨significantTokens text,.initial⟩ : Stream) :=
      ⟨significantPlaces words,placeOf (reachedStart text)⟩
    have reads := readBoundedReads (sitesOf text word) (8 * (significantTokens text).length + 16)
    have ⟨below,_⟩ := programStatementsKeeps reads _ _ _ start read
    exact liesForm nofun ⟨programSpanPlaces text,below⟩
  · cases ok

end Program

namespace Concrete

mutual

def decEq : (c d : Concrete) → Decidable (c = d)
  | .token t s, .token t' s' => decidable_of_iff (t = t' ∧ s = s') (by simp)
  | .node k r s cs, .node k' r' s' cs' =>
    match decEqAll cs cs' with
    | .isTrue h => decidable_of_iff (k = k' ∧ r = r' ∧ s = s') (by simp [h])
    | .isFalse h => .isFalse (by simp [h])
  | .token .., .node .. => .isFalse (by simp)
  | .node .., .token .. => .isFalse (by simp)

def decEqAll : (cs ds : List Concrete) → Decidable (cs = ds)
  | [], [] => .isTrue rfl
  | c :: cs, d :: ds =>
    match decEq c d, decEqAll cs ds with
    | .isTrue h, .isTrue hs => .isTrue (by rw [h,hs])
    | .isFalse h, _ => .isFalse (by simp [h])
    | _, .isFalse hs => .isFalse (by simp [hs])
  | [], _ :: _ => .isFalse (by simp)
  | _ :: _, [] => .isFalse (by simp)

end

instance : DecidableEq Concrete := decEq

end Concrete

end ConventionLint.Grammar
