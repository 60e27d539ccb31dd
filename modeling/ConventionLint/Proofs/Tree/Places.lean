import ConventionLint.Proofs.Tree.Every

/-! Lowering makes up neither places nor names: a node has the span of a construct of the program, and its
name is written there. So every node of a parsed text lies between two places of the text. -/
namespace ConventionLint.Tree
open ConventionLint.Grammar

def Payload.name? {ρ : Type} : Payload ρ → Option String
  | .name id => some id
  | .classDef n _ _ => some n
  | .functionDef n _ _ _ => some n
  | _ => none

theorem nameOfMap {ρ σ : Type} (f : ρ → σ) (p : Payload ρ) : (p.map f).name? = p.name? := by
  cases p <;> rfl

theorem nameOfPayload (t : Tree) (i : NodeId) : t.name? i = (t.payload i).name? := by
  unfold Tree.name?
  cases t.payload i <;> rfl

namespace Lowering

def Inside (program c : Concrete) : Prop := c = program ∨ Part c program

def IsDefinition (program c : Concrete) : Prop :=
  c.hasKind .classDefinition ∨ c.hasKind .functionDefinition ∨
    ∃ d, Inside program d ∧ d.hasKind .decoratedDefinition ∧ d.child? .definition = some c

def Spells (text : List Char) (program c : Concrete) (name : String) : Prop :=
  c.hasKind .identifier ∧ name = written text c ∨
    IsDefinition program c ∧ name = writtenChild text c .name

end Lowering

open Lowering (Inside Spells IsDefinition Part)

def MadeFrom (text : List Char) (program : Concrete) (_ : NodeKind) (s : Span) (p : Payload Nat)
    (_ : List Outline) : Prop :=
  ∃ c, Inside program c ∧ s = c.span ∧ ∀ n, p.name? = some n → Spells text program c n

namespace Lowering

section Inside
variable {text : List Char} {program c d : Concrete} {r : Reader}

theorem insidePart (h : Inside program c) (part : Part d c) : Inside program d := by
  rcases h with rfl | outer
  · exact .inr part
  · exact .inr (part.trans outer)

theorem insideDefined {ds : List Concrete} (h : Inside program c) (defines : Defines c ds d) :
    Inside program d ∧ IsDefinition program d := by
  cases defines with
  | bare kind => exact ⟨h,kind.imp id .inl⟩
  | decorated kind found => exact ⟨insidePart h (partChild found),.inr (.inr ⟨c,h,kind,found⟩)⟩

theorem madeUnnamed {p : Payload Nat} (k : NodeKind) (os : List Outline) (unnamed : p.name? = none)
    (h : Inside program c) : MadeFrom text program k c.span p os :=
  ⟨c,h,rfl,fun n found => by rw [unnamed] at found; cases found⟩

theorem madeDefinition {ds : List Concrete} (h : Inside program c) (defines : Defines c ds d) :
    (definition text r ds d).Has (MadeFrom text program) := by
  obtain ⟨within,defined⟩ := insideDefined h defines
  have titled {p : Payload Nat} (own : p.name? = some (writtenChild text d .name)) (n : String)
      (found : p.name? = some n) : Spells text program d n :=
    .inr ⟨defined,Option.some.inj (found.symm.trans own)⟩
  unfold definition
  dsimp only
  split
  · exact ⟨d,within,rfl,titled rfl⟩
  · exact ⟨d,within,rfl,titled rfl⟩

theorem admitsMade (text : List Char) (program : Concrete) (r : Reader) :
    Admits text (Inside program) (MadeFrom text program) r where
  parts _ _ := insidePart
  plain _ k p os h _ plain _ := madeUnnamed k os (by cases p <;> first | rfl | cases plain) h
  name c h kind := ⟨c,h,rfl,fun _ same => .inl ⟨kind,(Option.some.inj same).symm⟩⟩
  call _ h _ := hasCall (fun _ _ _ os => madeUnnamed .call os rfl h) fun _ => madeUnnamed .other [] rfl h
  definition _ _ _ := madeDefinition
  assign _ h _ := madeUnnamed .assign [] rfl h
  imports _ h _ := madeUnnamed .imports [] rfl h
  importFrom _ h _ := madeUnnamed .importFrom [] rfl h

end Inside

end Lowering

theorem constructOf {text : List Char} {program : Concrete} {i : NodeId}
    (inside : i < (ofOutline text (outline text program)).size) :
    ∃ c, Inside program c ∧ (ofOutline text (outline text program)).span i = c.span ∧
      ∀ n, (ofOutline text (outline text program)).name? i = some n → Spells text program c n := by
  have every := outlineEvery (fun n => Lowering.admitsMade text program _) (.inl rfl)
  obtain ⟨_,_,_,_,_,stored,c,within,same,named⟩ := everyPlace every inside
  refine ⟨c,within,?_,fun n found => named n ?_⟩
  · rw [Tree.span,nodeOfStored (Outline.storedNode stored),same]
  · rwa [nameOfPayload,Tree.payload,nodeOfStored (Outline.storedNode stored),nameOfMap] at found

theorem spanPlaces {text : List Char} {t : Tree} (parsed : Tree.parse text = .ok t) (i : NodeId) :
    (t.span i).Within (PlaceOf text) := by
  obtain ⟨program,read,rfl⟩ := outlineOfParse parsed
  by_cases inside : i < (ofOutline text (outline text program)).size
  · obtain ⟨c,within,same,_⟩ := constructOf inside
    have lies : Lies (sitesOf text fun _ => True) program := parsePlaces read fun _ _ _ _ => trivial
    have own : Lies (sitesOf text _) c := within.elim (fun whole => whole ▸ lies) (Lowering.liesPart lies)
    exact same ▸ liesSpan own
  · rw [Tree.span,nodeMissing (Nat.le_of_not_lt inside)]
    exact ⟨placeOf (reachedStart text),placeOf (reachedStart text)⟩

end ConventionLint.Tree
