import Mathlib.Data.List.Basic
import ConventionLint.Proofs.Grammar.Regular
import ConventionLint.Tree.Lowering

/-! What becomes of the calls of a program. Where a part stands decides about the calls in it: what is
annotated or declared as a type does not count, and lowering passes over the patterns among parameters,
over format specifiers, and over the holes of strings of which none is read as a formatted one. -/
namespace ConventionLint.Tree
open ConventionLint.Grammar (Concrete Kind Role Span)

/-- What becomes of the calls in a part of a program. A piece is one of neighbouring strings of which one is
formatted. Of a hole in a formatted string only the value is read, and of a parameter only the default value. -/
inductive Standing where
  | read
  | piece
  | hole
  | parameters
  | parameter
  | typed
  | lost
  deriving DecidableEq, Repr

namespace Lowering

def isFormatted (text : List Char) (c : Concrete) : Bool :=
  (if c.hasKind .concatenatedString then c.named else [c]).any fun d =>
    (StringToken.split? (written text d).toList).any StringToken.isFormat

def hasDefault (c : Concrete) : Bool := c.hasKind .defaultParameter || c.hasKind .typedDefaultParameter

def belowRead (text : List Char) (c d : Concrete) : Standing :=
  match c.kind? with
  | some .functionDefinition =>
    if d.hasKind .parameters then .parameters
    else if d.hasKind .type || d.hasKind .typeParameter then .typed else .read
  | some .classDefinition => if d.hasKind .typeParameter then .typed else .read
  | some .assignment => if d.hasKind .type then .typed else .read
  | some .string => if isFormatted text c then .hole else .lost
  | some .concatenatedString => if isFormatted text c then .piece else .lost
  | _ => .read

def belowParameter (c d : Concrete) : Standing :=
  if hasDefault c && d.role? == some .value then .read
  else if d.hasKind .type then .typed
  else .lost

def below (text : List Char) (m : Standing) (c d : Concrete) : Standing :=
  match m with
  | .read => belowRead text c d
  | .piece => .hole
  | .hole => if d.hasKind .formatSpecifier then .lost else .read
  | .parameters => .parameter
  | .parameter => belowParameter c d
  | .typed => .typed
  | .lost => .lost

mutual

def callsIn (text : List Char) (m : Standing) : Concrete → List (Standing × Span)
  | .token .. => []
  | .node k r s cs => (if k = .call then [(m,s)] else []) ++ callsBelow text m (.node k r s cs) cs

def callsBelow (text : List Char) (m : Standing) (c : Concrete) : List Concrete → List (Standing × Span)
  | [] => []
  | d :: ds => callsIn text (below text m c d) d ++ callsBelow text m c ds

end

mutual

def writtenCalls : Concrete → List Span
  | .token .. => []
  | .node k _ s cs => (if k = .call then [s] else []) ++ writtenCallsAll cs

def writtenCallsAll : List Concrete → List Span
  | [] => []
  | c :: cs => writtenCalls c ++ writtenCallsAll cs

end

def readCalls (text : List Char) (m : Standing) (c : Concrete) : List Span :=
  ((callsIn text m c).filter fun e => e.1 == .read).map Prod.snd

section Calls
variable {text : List Char} {m : Standing} {c d : Concrete} {k : Kind} {r : Option Role} {s : Span}
  {cs : List Concrete}

mutual

theorem callsInWritten (m : Standing) (c : Concrete) : (callsIn text m c).map Prod.snd = writtenCalls c := by
  cases c with
  | token => rfl
  | node k r s cs =>
    rw [callsIn,writtenCalls,List.map_append,callsBelowWritten m _ cs]
    by_cases call : k = .call
    · simp [call]
    · simp [call]

theorem callsBelowWritten (m : Standing) (c : Concrete) (cs : List Concrete) :
    (callsBelow text m c cs).map Prod.snd = writtenCallsAll cs := by
  cases cs with
  | nil => rfl
  | cons d ds =>
    rw [callsBelow,writtenCallsAll,List.map_append,callsInWritten _ d,callsBelowWritten m c ds]

end

theorem callsBelowParts (c : Concrete) (cs : List Concrete) :
    callsBelow text m c cs = cs.flatMap fun d => callsIn text (below text m c d) d := by
  induction cs with
  | nil => rfl
  | cons d ds ih => rw [callsBelow,List.flatMap_cons,ih]

theorem readCallsToken {t : String} : readCalls text m (.token t s) = [] := rfl

theorem readCallsNode : readCalls text m (.node k r s cs) = (if k = .call ∧ m = .read then [s] else []) ++
    cs.flatMap fun d => readCalls text (below text m (.node k r s cs) d) d := by
  have own : ((if k = .call then [(m,s)] else []).filter fun e : Standing × Span => e.1 == .read).map Prod.snd =
      if k = .call ∧ m = .read then [s] else [] := by
    by_cases call : k = .call <;> by_cases read : m = .read <;> simp [call,read]
  rw [readCalls,callsIn,List.filter_append,List.map_append,own,callsBelowParts,List.filter_flatMap,
    List.map_flatMap]
  rfl

theorem readCallsParts (own : k = .call → m ≠ .read) : readCalls text m (.node k r s cs) =
    cs.flatMap fun d => readCalls text (below text m (.node k r s cs) d) d := by
  rw [readCallsNode,if_neg fun h => own h.1 h.2,List.nil_append]

theorem readCallsOther (other : k ≠ .call)
    (all : ∀ d ∈ cs, belowRead text (.node k r s cs) d = .read) :
    readCalls text .read (.node k r s cs) = cs.flatMap (readCalls text .read) := by
  rw [readCallsParts fun call => absurd call other]
  exact List.flatMap_congr fun d mem => by rw [below,all d mem]

theorem readCallsCall : readCalls text .read (.node .call r s cs) =
    s :: cs.flatMap (readCalls text .read) := by
  rw [readCallsNode,if_pos ⟨rfl,rfl⟩]
  rfl

theorem readCallsNamed : (cs.filter Concrete.isNamed).flatMap (readCalls text m) =
    cs.flatMap (readCalls text m) := by
  induction cs with
  | nil => rfl
  | cons c cs ih =>
    cases c with
    | token t s => rw [List.filter_cons_of_neg Bool.false_ne_true,ih,List.flatMap_cons,readCallsToken,List.nil_append]
    | node k r s ds => rw [List.filter_cons_of_pos rfl,List.flatMap_cons,List.flatMap_cons,ih]

theorem readCallsSilent (silent : c.Silent) : readCalls text m c = [] := by
  induction silent generalizing m with
  | token => rfl
  | node other _ ih =>
    rw [readCallsParts fun call => absurd call other,List.flatMap_eq_nil_iff]
    exact fun d mem => ih d mem

mutual

theorem callsInUnread (c : Concrete) (out : m = .typed ∨ m = .lost) : ∀ e ∈ callsIn text m c, e.1 = m := by
  cases c with
  | token => exact nofun
  | node k r s cs =>
    rw [callsIn,List.forall_mem_append]
    refine ⟨fun e mem => ?_,callsBelowUnread _ cs out⟩
    split at mem
    · rw [List.mem_singleton.mp mem]
    · cases mem

theorem callsBelowUnread (c : Concrete) (cs : List Concrete) (out : m = .typed ∨ m = .lost) :
    ∀ e ∈ callsBelow text m c cs, e.1 = m := by
  cases cs with
  | nil => exact nofun
  | cons d ds =>
    have same : below text m c d = m := by
      rcases out with rfl | rfl
      · rfl
      · rfl
    rw [callsBelow,List.forall_mem_append,same]
    exact ⟨callsInUnread d out,callsBelowUnread c ds out⟩

end

theorem readCallsUnread (out : m = .typed ∨ m = .lost) : readCalls text m c = [] := by
  rw [readCalls,List.map_eq_nil_iff,List.filter_eq_nil_iff]
  intro e mem read
  rw [callsInUnread c out e mem] at read
  rcases out with rfl | rfl
  · cases read
  · cases read

theorem readCallsNone (unread : ∀ d ∈ cs, d.Silent ∨ below text m c d = .typed ∨ below text m c d = .lost) :
    (cs.flatMap fun d => readCalls text (below text m c d) d) = [] := by
  rw [List.flatMap_eq_nil_iff]
  intro d mem
  rcases unread d mem with silent | out
  · exact readCallsSilent silent
  · exact readCallsUnread out

end Calls
end Lowering

mutual

def Outline.calls : Outline → List Span
  | .node k s _ os => (if k = .call then [s] else []) ++ callsOf os

def Outline.callsOf : List Outline → List Span
  | [] => []
  | o :: os => o.calls ++ callsOf os

end

namespace Outline
variable {os ps : List Outline}

theorem callsNode {k : NodeKind} {s : Span} {p : Payload Nat} (other : k ≠ .call) :
    (Outline.node k s p os).calls = callsOf os := by
  rw [Outline.calls,if_neg other,List.nil_append]

theorem callsOfAppend : callsOf (os ++ ps) = callsOf os ++ callsOf ps := by
  induction os with
  | nil => rfl
  | cons o os ih => simp only [List.cons_append,callsOf,ih,List.append_assoc]

theorem callsOfSingle {o : Outline} : callsOf [o] = o.calls := List.append_nil _

theorem callsOfMap {α : Type} {f : α → Outline} {as : List α} :
    callsOf (as.map f) = as.flatMap fun a => (f a).calls := by
  induction as with
  | nil => rfl
  | cons a as ih => rw [List.map_cons,callsOf,List.flatMap_cons,ih]

theorem callsOfFlatMap {α : Type} {f : α → List Outline} {as : List α} :
    callsOf (as.flatMap f) = as.flatMap fun a => callsOf (f a) := by
  induction as with
  | nil => rfl
  | cons a as ih => rw [List.flatMap_cons,callsOfAppend,List.flatMap_cons,ih]

end Outline

end ConventionLint.Tree
