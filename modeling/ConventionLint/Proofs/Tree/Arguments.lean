import ConventionLint.Proofs.Tree.Docstring

/-! The arguments of a call in the text, and what they pass. The nodes of those without a name stand in the
order of the text, and one is a constant of a number or of a string only if that is what is written, in any
number of parentheses. An argument passes one value, a constant its own one; behind a star there may be any
number of values. Which values these are is known only when the call is made, so a statement about a call is
one about all of its evaluations. -/
namespace ConventionLint.Tree
open ConventionLint.Grammar (Concrete Kind Role Span)

namespace Lowering
variable {text : List Char} {c d d' e : Concrete} {l l' : Literal}

def placedArguments (c : Concrete) : List Concrete := (argumentsOf c).filter fun d => !isKeyword d

def Starred (e : Concrete) : Prop := ∃ d, Enclosed d e ∧ d.hasKind .listSplat

def IsLiteral (text : List Char) (e : Concrete) (l : Literal) : Prop := ∃ d, Enclosed d e ∧ IsConstant text d l

theorem argumentOperand (regular : c.Regular) (kind : c.hasKind .call) :
    ∀ e ∈ argumentsOf c, Part e c ∧ e.isOperand := by
  obtain ⟨f,as,parts,_,taken⟩ := regular.fits (beq_iff_eq.mp kind)
  intro e mem
  refine ⟨partArgument mem,?_⟩
  unfold argumentsOf at mem
  split at mem
  · next d found =>
    have among : d ∈ c.children := List.mem_of_find?_eq_some found
    have here : d = as.withRole .arguments := by
      have role : d.role? = some .arguments := by simpa using List.find?_some found
      rw [parts,List.mem_pair] at among
      rcases among with rfl | rfl
      · exact absurd role (roleElsewhere nofun)
      · rfl
    split at mem
    · next listed => exact (regular.children d among).fits (beq_iff_eq.mp listed) e (List.mem_filter.mp mem).1
    · obtain rfl := List.mem_singleton.mp mem
      exact here ▸ Concrete.operandWithRole taken _
  · cases mem

theorem argumentBare {r : Reader} (bare : (!isKeyword e) = true) : argument text r e = single r e := by
  unfold argument
  split
  · next kind => simp [isKeyword,Concrete.hasKind,kind] at bare
  · next kind => simp [isKeyword,Concrete.hasKind,kind] at bare
  · rfl

theorem constantBare (constant : IsConstant text d l) : ¬d.hasKind .parenthesizedExpression :=
  constantUndissolved constant (by decide)

theorem starBare (star : d.hasKind .listSplat) : ¬d.hasKind .parenthesizedExpression :=
  fun kind => Kind.noConfusion (Grammar.kindUnique star kind)

theorem literalUnique (literal : IsLiteral text e l) (literal' : IsLiteral text e l') : l = l' := by
  obtain ⟨d,enclosed,isConstant⟩ := literal
  obtain ⟨d',enclosed',constant'⟩ := literal'
  obtain rfl := enclosedUnique enclosed (constantBare isConstant) enclosed' (constantBare constant')
  have same : constant d l = constant d l' := (isConstant fun _ => []).symm.trans (constant' fun _ => [])
  simpa [constant] using same

theorem spelledPlain (literal : IsLiteral text e l) : ¬Starred e := by
  obtain ⟨d,enclosed,isConstant⟩ := literal
  rintro ⟨d',enclosed',star⟩
  obtain rfl := enclosedUnique enclosed (constantBare isConstant) enclosed' (starBare star)
  have bare := isConstant fun _ => []
  unfold step at bare
  rw [beq_iff_eq.mp star] at bare
  simp [constant,unmodelled] at bare

theorem stringAnyhow {r : Reader} (same : string text r c = .node .const c.span (.const l) []) (r' : Reader) :
    string text r' c = .node .const c.span (.const l) [] := by
  unfold string at same ⊢
  extract_lets at same ⊢
  split at same
  · cases same
  · next plain => rwa [if_neg plain]

theorem numberStepped (kind : c.hasKind .integer ∨ c.hasKind .float) (value : number? text c = some l)
    (r : Reader) : step text r c = constant c l := by
  have own : number text c = .node .const c.span (.const l) [] := by rw [number,value]
  unfold step
  rcases kind with kind | kind
  · rw [beq_iff_eq.mp kind]
    exact congrArg ([·]) own
  · rw [beq_iff_eq.mp kind]
    exact congrArg ([·]) own

theorem spelledOfWhole {o : Outline} (regular : e.Regular) (operand : e.isOperand) (alone : whole text e = [o])
    (value : o.payload = .const l) (word : l ∉ [.bool true,.bool false,.none,.ellipsis]) : IsLiteral text e l := by
  obtain ⟨d,enclosed,bare,own⟩ := wholeBare regular operand alone
  refine ⟨d,enclosed,fun r => ?_⟩
  rcases constantSpelled (own ▸ List.mem_singleton_self o) value with ⟨k,listed,kind⟩ | spelled
  · exact absurd kind (bare k listed)
  · cases spelled with
    | string kind same => rw [stepString (by simpa [isStringLike] using kind),stringAnyhow same r]; rfl
    | number kind same => exact numberStepped kind same r
    | word known => exact absurd known word

theorem unmodelledName {k : Kind} {name : String} {os : List Outline} (kind : c.hasKind k)
    (said : (unmodelled c os).payload = .other name) : k.name = name := by
  rw [unmodelled,Outline.payload,beq_iff_eq.mp kind] at said
  exact Payload.other.inj said

theorem incompleteOther {r : Reader} {name : String}
    (said : (call text r c).payload = .other name ∨ (keyword text r c).payload = .other name ∨
      (access text r c).payload = .other name ∨ (number text c).payload = .other name) :
    (unmodelled c []).payload = .other name := by
  unfold call keyword access number at said
  rcases said with said | said | said | said
  all_goals
    split at said
    · cases said
    · exact said

theorem stringOther {r : Reader} {name : String} (said : (string text r c).payload = .other name) :
    name = "fstring" := by
  rw [stringByTokens] at said
  dsimp only at said
  split at said
  · exact (Payload.other.inj said).symm
  · cases said

theorem definitionMeans {r : Reader} {ds : List Concrete} {name : String} :
    (definition text r ds c).payload ≠ .other name := by
  unfold definition
  dsimp only
  split <;> nofun

theorem otherNamed {r : Reader} {o : Outline} {name : String} (mem : o ∈ step text r c)
    (said : o.payload = .other name) :
    (∃ k ∈ dissolving, c.hasKind k) ∨ name = "fstring" ∨ ∃ k, c.hasKind k ∧ k.name = name := by
  have one {p : Outline} (mem : o ∈ [p]) : p.payload = .other name := List.mem_singleton.mp mem ▸ said
  unfold step at mem
  cases found : c.kind? with
  | none =>
    rw [found] at mem
    cases mem
  | some k =>
    have kind : c.hasKind k = true := by simp [Concrete.hasKind,found]
    have own {os : List Outline} (said : (unmodelled c os).payload = .other name) :
        (∃ k ∈ dissolving, c.hasKind k) ∨ name = "fstring" ∨ ∃ k, c.hasKind k ∧ k.name = name :=
      .inr (.inr ⟨k,kind,unmodelledName kind said⟩)
    rw [found] at mem
    dsimp only at mem
    split at mem
    · exact .inl ⟨_,by decide,kind⟩
    · exact .inl ⟨_,by decide,kind⟩
    · exact .inl ⟨_,by decide,kind⟩
    · obtain ⟨d,_,same⟩ := Option.map_eq_some_iff.mp (Option.mem_toList.mp mem)
      exact absurd (same ▸ said) definitionMeans
    · exact absurd (one mem) definitionMeans
    · exact absurd (one mem) definitionMeans
    · exact own (incompleteOther (.inl (one mem)))
    · exact own (incompleteOther (.inr (.inl (one mem))))
    · cases one mem
    · exact own (incompleteOther (.inr (.inr (.inl (one mem)))))
    · exact .inr (.inl (stringOther (one mem)))
    · exact .inr (.inl (stringOther (one mem)))
    · exact own (incompleteOther (r := r) (.inr (.inr (.inr (one mem)))))
    · exact own (incompleteOther (r := r) (.inr (.inr (.inr (one mem)))))
    all_goals first | exact own (one mem) | cases one mem

theorem starNamed {k : Kind} (same : k.name = "list_splat") : k = .listSplat := by
  cases k <;> first | rfl | exact absurd same (by decide)

theorem starWhole {o : Outline} (regular : e.Regular) (operand : e.isOperand) (alone : whole text e = [o]) :
    o.payload = .other "list_splat" ↔ Starred e := by
  obtain ⟨d,enclosed,bare,own⟩ := wholeBare regular operand alone
  constructor
  · intro said
    obtain ⟨k,listed,kind⟩ | format | ⟨k,kind,named⟩ := otherNamed (own ▸ List.mem_singleton_self o) said
    · exact absurd kind (bare k listed)
    · exact absurd format (by decide)
    · exact ⟨d,enclosed,starNamed named ▸ kind⟩
  · rintro ⟨d',enclosed',star⟩
    obtain rfl := enclosedUnique enclosed (bare _ (by decide)) enclosed' (starBare star)
    unfold step at own
    rw [beq_iff_eq.mp star] at own
    rw [← List.singleton_inj.mp own,unmodelled,Outline.payload,beq_iff_eq.mp star]
    rfl

def Called (text : List Char) (program : Concrete) (_ : NodeKind) (s : Span) (p : Payload Nat)
    (os : List Outline) : Prop :=
  ∀ f as ks, p = .call f as ks → ∃ c o, Inside program c ∧ c.hasKind .call ∧ s = c.span ∧
    as = placesFrom 1 (fun d => !isKeyword d) (argumentsOf c) ∧
    os = o :: (argumentsOf c).map (argument text (whole text))

theorem admitsCalled (text : List Char) (program : Concrete) :
    Admits text (Inside program) (Called text program) (whole text) where
  parts _ _ := insidePart
  plain _ _ _ _ _ _ plain _ _ _ _ same := by
    rw [same] at plain
    cases plain
  name _ _ _ := nofun
  call c h kind := by
    unfold call
    split
    · rintro _ _ _ ⟨⟩
      exact ⟨c,_,h,kind,rfl,rfl,rfl⟩
    · exact nofun
  definition _ _ _ _ _ := by
    unfold definition
    dsimp only
    split
    · exact nofun
    · exact nofun
  assign _ _ _ := nofun
  imports _ _ _ := nofun
  importFrom _ _ _ := nofun

end Lowering

open Lowering

section Nodes
variable {α : Type} {t : Tree} {i : NodeId} {parent : Option NodeId} {k : NodeKind} {s : Span} {p : Payload Nat}
variable {os : List Outline}

theorem childrenShown (stored : Outline.Stored t.nodes.toList parent i (.node k s p os)) :
    List.Forall₂ (Shows t) (t.children i) os := by
  have whole : ([] : List Outline) ++ os ++ [] = os := by simp
  obtain ⟨js,within,shown⟩ := partsShown [] os [] (whole.symm ▸ stored)
  have same : js = t.children i := within.eq_of_length (by
    rw [shown.length_eq,childrenOfStored stored,Outline.length_numbers])
  exact same ▸ shown

theorem placesShown {as : List α} {g : α → Outline} (chosen : α → Bool) (fallback : NodeId) (front : List NodeId)
    {js : List NodeId} (shown : List.Forall₂ (Shows t) js (as.map g)) :
    List.Forall₂ (fun a n => chosen a = true ∧ Shows t n (g a)) (as.filter chosen)
      ((placesFrom front.length chosen as).map fun j => (front ++ js).getD j fallback) := by
  induction as generalizing front js with
  | nil => exact .nil
  | cons a as ih =>
    obtain ⟨j,js',here,rest,rfl⟩ := List.forall₂_cons_right_iff.mp shown
    have others := ih (front ++ [j]) rest
    rw [List.length_append,List.length_singleton,List.append_assoc,List.singleton_append] at others
    rw [placesFrom,List.filter_cons]
    split
    · next own => exact .cons ⟨own,by simpa using here⟩ others
    · exact others

theorem otherShown {j : NodeId} {o : Outline} {name : String} (shows : Shows t j o) :
    t.payload j = .other name ↔ o.payload = .other name := by
  cases o with
  | node k s p cs =>
    obtain ⟨_,_,f,data⟩ := shows
    rw [data,Outline.payload]
    cases p <;> simp [Payload.map]

end Nodes

theorem argumentsShown {text : List Char} {t : Tree} {i : NodeId} (parsed : Tree.parse text = .ok t)
    (nonempty : t.args i ≠ []) :
    ∃ program c, Grammar.parse text = .ok program ∧ Inside program c ∧ c.hasKind .call ∧ t.span i = c.span ∧
      c.Regular ∧ List.Forall₂ (fun e n => Shows t n (single (whole text) e)) (placedArguments c) (t.args i) := by
  obtain ⟨program,ok,rfl⟩ := outlineOfParse parsed
  have regular := Grammar.programIsRegular ok
  have every := outlineEveryWhole (admitsCalled text program) (.inl rfl)
  have inside : i < (ofOutline text (outline text program)).size := by
    refine insideOfPayload fun nothing => nonempty ?_
    rw [args,nothing]
  obtain ⟨parent,k,s,p,os,stored,own⟩ := everyPlace every inside
  generalize ofOutline text (outline text program) = t at stored nonempty ⊢
  have data := nodeOfStored (Outline.storedNode stored)
  have shown := childrenShown stored
  rw [← childrenOfStored stored] at data
  rw [args,payload,data] at nonempty
  cases p with
  | call f as ks =>
    obtain ⟨c,o,within,kind,rfl,rfl,rfl⟩ := own f as ks rfl
    refine ⟨program,c,ok,within,kind,by rw [span,data],insideRegular regular within,?_⟩
    obtain ⟨x,js,_,rest,children⟩ := List.forall₂_cons_right_iff.mp shown
    rw [args,payload,data]
    rw [children]
    exact (placesShown _ i [x] rest).imp fun _ _ own => argumentBare own.1 ▸ own.2
  | _ => exact absurd rfl nonempty

/-- What the node of an argument says of it. The words that are constants, such as `None`, are left out. -/
structure IsArgument (text : List Char) (t : Tree) (e : Concrete) (n : NodeId) : Prop where
  literal : ∀ l, t.literal? n = some l → l ∉ [.bool true,.bool false,.none,.ellipsis] → IsLiteral text e l
  star : t.payload n = .other "list_splat" ↔ Starred e

structure IsCallOf (text : List Char) (t : Tree) (i : NodeId) (c : Concrete) : Prop where
  inside : ∃ program, Grammar.parse text = .ok program ∧ Inside program c
  kind : c.hasKind .call
  span : t.span i = c.span
  arguments : List.Forall₂ (IsArgument text t) (placedArguments c) (t.args i)

theorem callWritten {text : List Char} {t : Tree} {i : NodeId} (parsed : Tree.parse text = .ok t)
    (nonempty : t.args i ≠ []) : ∃ c, IsCallOf text t i c := by
  obtain ⟨program,c,ok,within,kind,span,regular,shown⟩ := argumentsShown parsed nonempty
  have operands : ∀ e ∈ placedArguments c, Part e c ∧ e.isOperand :=
    fun e mem => argumentOperand regular kind e (List.mem_filter.mp mem).1
  have both := (List.forall₂_and_left _ _).mpr ⟨operands,shown⟩
  refine ⟨c,⟨program,ok,within⟩,kind,span,both.imp fun e n own => ?_⟩
  obtain ⟨⟨part,operand⟩,shows⟩ := own
  have inner := partRegular regular part
  obtain ⟨o,alone⟩ := wholeOne text inner operand
  have same : single (whole text) e = o := by rw [single,alone]; rfl
  rw [same] at shows
  exact ⟨fun l value => spelledOfWhole inner operand alone ((literalShown shows).mp value),
    (otherShown shows).trans (starWhole inner operand alone)⟩

section Evaluations
variable {α : Type} {text : List Char} {constant : Literal → Option α} {c e a b : Concrete} {es : List Concrete}
variable {l : Literal} {v : α} {vs : List α} {placed other : List (List α)}

/-- What an argument may pass: one value, a constant its own one, and any values behind a star. -/
structure Passes (text : List Char) (constant : Literal → Option α) (e : Concrete) (vs : List α) : Prop where
  one : ¬Starred e → vs.length = 1
  own : ∀ l v, IsLiteral text e l → constant l = some v → vs = [v]

def Evaluates (text : List Char) (constant : Literal → Option α) (c : Concrete) (placed : List (List α)) : Prop :=
  List.Forall₂ (Passes text constant) (placedArguments c) placed

inductive Restarred {α : Type} : List Concrete → List (List α) → List (List α) → Prop where
  | nil : Restarred [] [] []
  | kept {e : Concrete} {es : List Concrete} {vs : List α} {placed other : List (List α)}
      (rest : Restarred es placed other) : Restarred (e :: es) (vs :: placed) (vs :: other)
  | changed {e : Concrete} {es : List Concrete} {vs vs' : List α} {placed other : List (List α)}
      (star : Starred e) (rest : Restarred es placed other) :
      Restarred (e :: es) (vs :: placed) (vs' :: other)

theorem Passes.single (passes : Passes text constant e vs) (plain : ¬Starred e) : ∃ v, vs = [v] :=
  List.length_eq_one_iff.mp (passes.one plain)

theorem Passes.starred (star : Starred e) (vs : List α) : Passes text constant e vs :=
  ⟨fun plain => absurd star plain,fun _ _ literal _ => absurd star (spelledPlain literal)⟩

theorem Passes.literal (spelled : IsLiteral text e l) (value : constant l = some v) :
    Passes text constant e [v] := by
  refine ⟨fun _ => rfl,fun l' v' spelled' value' => ?_⟩
  rw [literalUnique spelled spelled',value'] at value
  rw [Option.some.inj value]

theorem restarredSame (evaluated : List.Forall₂ (Passes text constant) es placed) :
    Restarred es placed placed := by
  induction evaluated with
  | nil => exact .nil
  | cons _ _ ih => exact .kept ih

theorem passesRestarred (evaluated : List.Forall₂ (Passes text constant) es placed)
    (restarred : Restarred es placed other) : List.Forall₂ (Passes text constant) es other := by
  induction restarred with
  | nil => exact .nil
  | kept _ ih =>
    obtain _ | ⟨first,rest⟩ := evaluated
    exact .cons first (ih rest)
  | changed star _ ih =>
    obtain _ | ⟨_,rest⟩ := evaluated
    exact .cons (.starred star _) (ih rest)

theorem singleValues (evaluated : Evaluates text constant c placed) (plain : ∀ e ∈ placedArguments c, ¬Starred e) :
    ∀ vs ∈ placed, vs.length = 1 := by
  unfold Evaluates at evaluated
  generalize placedArguments c = es at evaluated plain
  induction evaluated with
  | nil => exact nofun
  | cons passes _ ih =>
    obtain ⟨first,others⟩ := List.forall_mem_cons.mp plain
    exact List.forall_mem_cons.mpr ⟨passes.one first,ih others⟩

end Evaluations

end ConventionLint.Tree
