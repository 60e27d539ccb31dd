import ConventionLint.Proofs.Check.Notes
import ConventionLint.Proofs.Tree.Arguments
import ConventionLint.Rule.AttributeName

/-! Calls that could be plain access to an attribute. Without a star before it the literal of such a call is the
name of the attribute, and there is no default value. Whether the name may stand behind a dot is settled by its
letters and digits alone, which is enough for ASCII but for the keywords; of the other characters a few are
letters or digits and cannot be part of a name. -/
namespace ConventionLint.Rule.AttributeName
open ConventionLint.Check
open ConventionLint.Grammar (Concrete)
open ConventionLint.Tree (NodeId Passes Evaluates Restarred)
open ConventionLint.Tree.Lowering (placedArguments Starred IsLiteral)
open Text (isAlphabetic isAlphanumeric isIdentifierStart isIdentifierContinue)

variable {α : Type} {f : File} {t : Tree} {i object literal : NodeId} {rest : List NodeId} {given : List String}
variable {text : List Char} {e e' : Concrete} {es : List Concrete} {quote : String → α} {placed : List (List α)}
variable {name s : String} {c : Char}

def keywords : List String := "async" :: "await" :: Grammar.reservedWords

structure IsAttribute (s : String) : Prop where
  identifier : ∃ c cs, s.toList = c :: cs ∧ isIdentifierStart c = true ∧
    ∀ d ∈ cs, isIdentifierContinue d = true
  free : s ∉ keywords

def Fits (s : String) : Prop :=
  ∀ c cs, s.toList = c :: cs → (128 ≤ c.toNat → isIdentifierStart c = true) ∧
    ∀ d ∈ cs, 128 ≤ d.toNat → isIdentifierContinue d = true

theorem startOfAscii (ascii : c.toNat < 128) : isIdentifierStart c = (c == '_' || isAlphabetic c) := by
  simp [isIdentifierStart,isAlphabetic,ascii,Bool.or_comm]

theorem continueOfAscii (ascii : c.toNat < 128) : isIdentifierContinue c = (c == '_' || isAlphanumeric c) := by
  simp [isIdentifierContinue,isAlphanumeric,ascii,Bool.or_comm]

theorem nonemptyIdentifier (identifier : isIdentifier s = true) : s ≠ "" := by
  rintro rfl
  cases identifier

theorem attributeIff (identifier : isIdentifier s = true) : IsAttribute s ↔ s ∉ keywords ∧ Fits s := by
  constructor
  · rintro ⟨⟨c,cs,chars,start,behind⟩,free⟩
    refine ⟨free,fun c' cs' same => ?_⟩
    cases chars.symm.trans same
    exact ⟨fun _ => start,fun d mem _ => behind d mem⟩
  · rintro ⟨free,fits⟩
    refine ⟨?_,free⟩
    unfold isIdentifier at identifier
    split at identifier
    · cases identifier
    · next c cs chars =>
      obtain ⟨first,others⟩ := (Bool.and_eq_true ..).mp identifier
      refine ⟨c,cs,chars,?_,fun d mem => ?_⟩
      · rcases Nat.lt_or_ge c.toNat 128 with ascii | beyond
        · rwa [startOfAscii ascii]
        · exact (fits c cs chars).1 beyond
      · rcases Nat.lt_or_ge d.toNat 128 with ascii | beyond
        · rw [continueOfAscii ascii]
          exact List.all_eq_true.mp others d mem
        · exact (fits c cs chars).2 d mem beyond

theorem formCounts {n : Nat} (plain : hasPlainForm name n = true) : 2 ≤ n ∧ (name = "getattr" → n = 2) := by
  unfold hasPlainForm at plain
  split at plain
  · obtain rfl := beq_iff_eq.mp plain
    exact ⟨le_rfl,fun _ => rfl⟩
  · exact ⟨of_decide_eq_true plain,fun other => absurd other (by decide)⟩
  · exact ⟨of_decide_eq_true plain,fun other => absurd other (by decide)⟩
  · cases plain

theorem notedCall (noted : .at literalName i given ∈ checker.notes f) :
    ∃ name object literal rest s, given = [name] ∧ f.tree.callee? i = some name ∧
      f.tree.args i = object :: literal :: rest ∧ (name = "getattr" → rest = []) ∧
      f.tree.str? literal = some s ∧ isIdentifier s = true := by
  obtain ⟨j,_,told⟩ := Checker.notedAtCall noted
  unfold notes at told
  split at told
  · cases told
  · next name named =>
    dsimp only at told
    split at told
    · next plain =>
      cases List.mem_singleton.mp told
      obtain ⟨form,identifier⟩ := (Bool.and_eq_true ..).mp plain
      obtain ⟨enough,two⟩ := formCounts form
      obtain ⟨s,read,identifier⟩ := (Option.any_eq_true ..).mp identifier
      rcases args : f.tree.args i with _ | ⟨object,_ | ⟨literal,rest⟩⟩ <;> rw [args] at enough two read
      · cases enough
      · cases read
      · refine ⟨name,object,literal,rest,s,rfl,(Option.filter_eq_some_iff.mp named).1,rfl,fun get => ?_,read,
          identifier⟩
        simpa using two get
    · cases told

theorem callLiteral (parsed : Tree.parse text = .ok t) (args : t.args i = object :: literal :: rest)
    (read : t.str? literal = some s) : ∃ c e e' es, Tree.IsCallOf text t i c ∧
      placedArguments c = e :: e' :: es ∧ IsLiteral text e' (.str s) ∧ es.length = rest.length := by
  obtain ⟨c,made⟩ := Tree.callWritten parsed (by rw [args]; nofun)
  have written := made.arguments
  rw [args] at written
  obtain ⟨e,_,_,second,whole⟩ := List.forall₂_cons_right_iff.mp written
  obtain ⟨e',es,argument,others,rfl⟩ := List.forall₂_cons_right_iff.mp second
  refine ⟨c,e,e',es,made,whole,?_,others.length_eq⟩
  obtain ⟨l,own,value⟩ := Option.bind_eq_some_iff.mp read
  cases l <;> cases value
  exact argument.literal _ own (by simp)

theorem literalSecond (spelled : IsLiteral text e' (.str s))
    (evaluated : List.Forall₂ (Passes text fun l => l.str?.map quote) (e :: e' :: es) placed) (plain : ¬Starred e) :
    placed.flatten[1]? = some (quote s) ∧ (es = [] → placed.flatten.length = 2) := by
  obtain _ | ⟨first,_ | ⟨second,others⟩⟩ := evaluated
  obtain ⟨u,rfl⟩ := first.single plain
  obtain rfl := second.own _ _ spelled rfl
  refine ⟨rfl,?_⟩
  rintro rfl
  cases others
  rfl

theorem literalBehind (spelled : IsLiteral text e' (.str s))
    (evaluated : List.Forall₂ (Passes text fun l => l.str?.map quote) (e :: e' :: es) placed) (star : Starred e)
    (v : α) : ∃ other, Restarred (e :: e' :: es) placed other ∧ other.flatten[1]? = some v ∧
      (es = [] → other.flatten.length = 3) := by
  obtain ⟨_,_,_,after,rfl⟩ := List.forall₂_cons_left_iff.mp evaluated
  refine ⟨[v,v] :: _,.changed star (Tree.restarredSame after),rfl,?_⟩
  rintro rfl
  obtain _ | ⟨second,_ | _⟩ := after
  obtain rfl := second.own _ _ spelled rfl
  rfl

/-- The literal that a note speaks of is the name of the attribute, and a call of `getattr` has no default value,
unless a star stands before the literal. The name may stand behind a dot unless it is a keyword or has characters
beyond ASCII that no identifier has. -/
theorem literalNamesAttribute (parsed : Tree.parse text = .ok f.tree) (faithful : quote.Injective)
    (noted : .at literalName i given ∈ checker.notes f) :
    ∃ (name : String) (c object literal : Concrete) (rest : List Concrete) (s : String), given = [name] ∧
      f.tree.callee? i = some name ∧ Tree.IsCallOf text f.tree i c ∧
      placedArguments c = object :: literal :: rest ∧ IsLiteral text literal (.str s) ∧
      (∀ placed, Evaluates text (fun l => l.str?.map quote) c placed →
        (¬Starred object →
          placed.flatten[1]? = some (quote s) ∧ (name = "getattr" → placed.flatten.length = 2)) ∧
        (Starred object → ∃ other, Restarred (placedArguments c) placed other ∧
          Evaluates text (fun l => l.str?.map quote) c other ∧ other.flatten[1]? ≠ some (quote s) ∧
            (name = "getattr" → other.flatten.length = 3))) ∧
      s ≠ "" ∧ (IsAttribute s ↔ s ∉ keywords ∧ Fits s) := by
  obtain ⟨name,object,literal,rest,s,rfl,called,args,alone,read,identifier⟩ := notedCall noted
  obtain ⟨c,e,e',es,made,written,spelled,length⟩ := callLiteral parsed args read
  have last (get : name = "getattr") : es = [] := by
    rw [alone get] at length
    exact List.length_eq_zero_iff.mp length
  refine ⟨name,c,e,e',es,s,rfl,called,made,written,spelled,fun placed evaluated => ?_,
    nonemptyIdentifier identifier,attributeIff identifier⟩
  unfold Evaluates at evaluated ⊢
  rw [written] at evaluated ⊢
  refine ⟨fun plain => ?_,fun star => ?_⟩
  · obtain ⟨second,two⟩ := literalSecond spelled evaluated plain
    exact ⟨second,fun get => two (last get)⟩
  · obtain ⟨other,restarred,second,three⟩ := literalBehind spelled evaluated star (quote (s ++ "_"))
    refine ⟨other,restarred,Tree.passesRestarred evaluated restarred,?_,fun get => three (last get)⟩
    rw [second]
    intro same
    have longer := congrArg String.length (faithful (Option.some.inj same))
    simp at longer

theorem starredKeywordTold :
    let text := "getattr(*xs, 'class')\n".toList
    ∃ t c, Tree.parse text = .ok t ∧ Tree.IsCallOf text t 1 c ∧
      .at literalName 1 ["getattr"] ∈ checker.notes (.ofTree (.ofString "a.py") (.ofString "") t) ∧
      (∃ placed, Evaluates text (fun l => l.str?.map id) c placed ∧
        placed.flatten[1]? ≠ some "class" ∧ placed.flatten.length = 3) ∧
      ¬IsAttribute "class" := by
  intro text
  obtain ⟨t,parsed,read⟩ := Tree.okOfMap (x := Tree.parse text) (b := true)
    (f := fun t => decide (.at literalName 1 ["getattr"] ∈
        checker.notes (.ofTree (.ofString "a.py") (.ofString "") t) ∧
      t.args 1 = [3,5] ∧ t.payload 3 = .other "list_splat" ∧ t.literal? 5 = some (.str "class")))
    (by decide +kernel)
  obtain ⟨noted,args,star,own⟩ := of_decide_eq_true read
  obtain ⟨name,c,object,literal,rest,s,told,_,made,placed,spelled,each,_,legal⟩ :=
    literalNamesAttribute (f := .ofTree (.ofString "a.py") (.ofString "") t) parsed Function.injective_id noted
  obtain rfl := (List.cons.inj told).1
  have written : List.Forall₂ _ (object :: literal :: rest) [3,5] := placed ▸ args ▸ made.arguments
  obtain _ | ⟨first,_ | ⟨second,_ | _⟩⟩ := written
  obtain rfl : "class" = s := by
    simpa using Tree.Lowering.literalUnique (second.literal _ own (by simp)) spelled
  have starred := first.star.mp star
  have evaluates : Evaluates text (fun l => l.str?.map id) c [[],["class"]] := by
    rw [Evaluates,placed]
    exact .cons (.starred starred _) (.cons (.literal spelled rfl) .nil)
  obtain ⟨other,_,evaluated,changed,three⟩ := (each _ evaluates).2 starred
  refine ⟨t,c,parsed,made,noted,⟨other,evaluated,changed,three rfl⟩,fun named => ?_⟩
  exact (legal.mp named).1 (by decide)

end ConventionLint.Rule.AttributeName
