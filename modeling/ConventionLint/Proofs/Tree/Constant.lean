import ConventionLint.Proofs.Tree.Places

/-! Where constants come from. A construct that does not dissolve is lowered to a constant only if it spells
one, whatever its parts are lowered to, and the constants of a text are just those. -/
namespace ConventionLint.Tree
open ConventionLint.Grammar (Concrete Kind Span)

def Outline.payload : Outline → Payload Nat
  | .node _ _ p _ => p

namespace Lowering
variable {text : List Char} {program c : Concrete}

def dissolving : List Kind := [.expressionStatement,.block,.parenthesizedExpression]

inductive SpellsConstant (text : List Char) (r : Reader) (c : Concrete) (l : Literal) : Prop where
  | string (kind : c.hasKind .string ∨ c.hasKind .concatenatedString)
      (value : string text r c = .node .const c.span (.const l) [])
  | number (kind : c.hasKind .integer ∨ c.hasKind .float) (value : number? text c = some l)
  | word (value : l ∈ [.bool true,.bool false,.none,.ellipsis])

def Valued (text : List Char) (program : Concrete) (_ : NodeKind) (s : Span) (p : Payload Nat)
    (_ : List Outline) : Prop :=
  ∀ l, p = .const l → ∃ c, Inside program c ∧ s = c.span ∧ IsConstant text c l

theorem admitsValued (text : List Char) (program : Concrete) (r : Reader) :
    Admits text (Inside program) (Valued text program) r where
  parts _ _ := insidePart
  plain c _ _ _ h _ _ constant l same := ⟨c,h,rfl,(constant l same).2⟩
  name _ _ _ := nofun
  call _ _ _ := hasCall (fun _ _ _ _ => nofun) fun _ => nofun
  definition _ _ _ _ _ := by
    unfold definition
    dsimp only
    split
    · exact nofun
    · exact nofun
  assign _ _ _ := nofun
  imports _ _ _ := nofun
  importFrom _ _ _ := nofun

theorem stringConstant {r : Reader} {l : Literal} (value : (string text r c).payload = .const l) :
    string text r c = .node .const c.span (.const l) [] := by
  unfold string at value ⊢
  extract_lets at value ⊢
  split
  · next format =>
    rw [if_pos format] at value
    cases value
  · next plain =>
    rw [if_neg plain] at value
    rw [← value]
    rfl

theorem numberConstant {l : Literal} (value : (number text c).payload = .const l) : number? text c = some l := by
  unfold number at value
  split at value
  · next found => rw [found,Payload.const.inj value]
  · cases value

theorem numberLiteral {l : Literal} (value : number? text c = some l) :
    (∃ n : Nat, l = .int n ∧ integerValue? (written text c).toList = some n) ∨ ∃ bits, l = .float bits := by
  unfold number? at value
  dsimp only at value
  split at value
  · obtain ⟨_,cast,rfl⟩ := Option.map_eq_some_iff.mp value
    obtain ⟨n,found,cast⟩ := Option.bind_eq_some_iff.mp cast
    exact .inl ⟨n,congrArg Literal.int (Option.some.inj cast).symm,found⟩
  · obtain ⟨bits,_,rfl⟩ := Option.map_eq_some_iff.mp value
    exact .inr ⟨bits,rfl⟩

theorem constantSpelled {r : Reader} {l : Literal} {o : Outline} (mem : o ∈ step text r c)
    (value : o.payload = .const l) : (∃ k ∈ dissolving, c.hasKind k) ∨ SpellsConstant text r c l := by
  have one {p : Outline} (mem : o ∈ [p]) : p.payload = .const l := List.mem_singleton.mp mem ▸ value
  have defines (ds : List Concrete) (d : Concrete) : (definition text r ds d).payload ≠ .const l := by
    unfold definition
    dsimp only
    split <;> nofun
  have word {l' : Literal} (mem : o ∈ constant c l') (known : l' ∈ [.bool true,.bool false,.none,.ellipsis]) :
      SpellsConstant text r c l :=
    .word (Payload.const.inj (one mem) ▸ known)
  unfold step at mem
  cases found : c.kind? with
  | none =>
    rw [found] at mem
    cases mem
  | some k =>
    have kind : c.hasKind k = true := by simp [Concrete.hasKind,found]
    rw [found] at mem
    dsimp only at mem
    split at mem
    · exact .inl ⟨_,by decide,kind⟩
    · exact .inl ⟨_,by decide,kind⟩
    · exact .inl ⟨_,by decide,kind⟩
    · obtain ⟨d,_,same⟩ := Option.map_eq_some_iff.mp (Option.mem_toList.mp mem)
      exact absurd (same ▸ value) (defines _ d)
    · exact absurd (one mem) (defines _ c)
    · exact absurd (one mem) (defines _ c)
    · have own := one mem
      unfold call at own
      split at own <;> cases own
    · have own := one mem
      unfold keyword at own
      split at own <;> cases own
    · cases one mem
    · have own := one mem
      unfold access at own
      split at own <;> cases own
    · exact .inr (.string (.inl kind) (stringConstant (one mem)))
    · exact .inr (.string (.inr kind) (stringConstant (one mem)))
    · exact .inr (.number (.inl kind) (numberConstant (one mem)))
    · exact .inr (.number (.inr kind) (numberConstant (one mem)))
    · exact .inr (word mem (by decide))
    · exact .inr (word mem (by decide))
    · exact .inr (word mem (by decide))
    · exact .inr (word mem (by decide))
    all_goals cases one mem

theorem constantUndissolved {k : Kind} {l : Literal} (value : IsConstant text c l) (mem : k ∈ dissolving) :
    ¬ c.hasKind k := by
  intro kind
  have bare := value fun _ => []
  unfold step at bare
  rw [beq_iff_eq.mp kind] at bare
  simp only [dissolving,List.mem_cons,List.not_mem_nil,or_false] at mem
  rcases mem with rfl | rfl | rfl
  · cases (List.flatMap_eq_nil_iff.mpr fun _ _ => rfl).symm.trans bare
  · cases (List.flatMap_eq_nil_iff.mpr fun _ _ => rfl).symm.trans bare
  · cases first : c.named.head? <;> simp [constant,first,single,unmodelled] at bare

theorem constantOwn {l : Literal} (value : IsConstant text c l) (r : Reader) : SpellsConstant text r c l := by
  have here : Outline.node .const c.span (.const l) [] ∈ step text r c := value r ▸ List.mem_singleton_self _
  refine (constantSpelled here rfl).resolve_left ?_
  rintro ⟨k,mem,kind⟩
  exact constantUndissolved value mem kind

end Lowering

theorem constantOf {text : List Char} {t : Tree} {i : NodeId} {l : Literal}
    (parsed : Tree.parse text = .ok t) (value : t.literal? i = some l) :
    ∃ c, t.source i = Lowering.written text c ∧ Lowering.IsConstant text c l := by
  obtain ⟨program,_,rfl⟩ := outlineOfParse parsed
  have here : (ofOutline text (outline text program)).payload i = .const l := by
    unfold literal? at value
    split at value
    · next payload => rw [payload,Option.some.inj value]
    · cases value
  have every := outlineEvery (fun n => Lowering.admitsValued text program _) (.inl rfl)
  have inside : i < (ofOutline text (outline text program)).size := insideOfPayload (here ▸ nofun)
  obtain ⟨_,k,s,p,cs,stored,own⟩ := everyPlace every inside
  have data := nodeOfStored (Outline.storedNode stored)
  have constant : p = .const l := by
    rw [Tree.payload,data] at here
    cases p <;> first | exact Payload.const.inj here ▸ rfl | cases here
  obtain ⟨c,_,same,value⟩ := own l constant
  refine ⟨c,?_,value⟩
  rw [Tree.source,Tree.span,data,same]
  rfl

end ConventionLint.Tree
