import Mathlib.Data.List.Basic
import ConventionLint.Proofs.Grammar.Program
import ConventionLint.Tree.Lowering

/-! Lowering reads a construct and its proper parts and nothing else. So the depth that is allowed does
not matter once it covers the construct, and no other part of the text does. -/
namespace ConventionLint.Tree.Lowering
open ConventionLint.Grammar (Concrete Kind Role Span)

inductive Part (d : Concrete) : Concrete → Prop where
  | child {c : Concrete} (mem : d ∈ c.children) : Part d c
  | deeper {c e : Concrete} (mem : e ∈ c.children) (part : Part d e) : Part d c

theorem Part.trans {c d e : Concrete} (inner : Part e d) (outer : Part d c) : Part e c := by
  induction outer with
  | child mem => exact .deeper mem inner
  | deeper mem _ ih => exact .deeper mem ih

theorem childSmaller {c d : Concrete} (mem : d ∈ c.children) : d.size < c.size := by
  cases c with
  | token => cases mem
  | node k r s cs =>
    have below : d.size ≤ Concrete.sizeAll cs := by
      change d ∈ cs at mem
      induction cs with
      | nil => cases mem
      | cons e cs ih =>
        rcases List.mem_cons.mp mem with rfl | mem
        · simp [Concrete.sizeAll]
        · have := ih mem
          simp only [Concrete.sizeAll]
          omega
    simp only [Concrete.size]
    omega

theorem sizePositive (c : Concrete) : 0 < c.size := by
  cases c with
  | token => exact Nat.one_pos
  | node k r s cs => exact Nat.lt_of_lt_of_le Nat.one_pos (Nat.le_add_right 1 _)

theorem partSmaller {c d : Concrete} (part : Part d c) : d.size < c.size := by
  induction part with
  | child mem => exact childSmaller mem
  | deeper mem _ ih => exact Nat.lt_trans ih (childSmaller mem)

theorem partNamed {c d : Concrete} (mem : d ∈ c.named) : Part d c :=
  .child (List.mem_filter.mp mem).1

theorem partChild {c d : Concrete} {r : Role} (found : c.child? r = some d) : Part d c :=
  .child (List.mem_of_find?_eq_some found)

theorem partNamedIn {c d : Concrete} {r : Role} (mem : d ∈ namedIn c r) : Part d c := by
  unfold namedIn at mem
  split at mem
  · exact (partNamed mem).trans (partChild ‹_›)
  · cases mem

structure Agree (text text' : List Char) (r r' : Reader) (c : Concrete) : Prop where
  own : written text c = written text' c
  texts : ∀ d, Part d c → written text d = written text' d
  reads : ∀ d, Part d c → r d = r' d

section Agree
variable {text text' : List Char} {r r' : Reader} {c d : Concrete}

theorem Agree.below (h : Agree text text' r r' c) (part : Part d c) : Agree text text' r r' d :=
  ⟨h.texts d part,fun e inner => h.texts e (inner.trans part),fun e inner => h.reads e (inner.trans part)⟩

theorem Agree.textOf (h : Agree text text' r r' c) {o : Option Concrete}
    (part : ∀ d, o = some d → Part d c) : o.map (written text) = o.map (written text') := by
  cases o with
  | none => rfl
  | some d => simp [h.texts d (part d rfl)]

theorem Agree.child (h : Agree text text' r r' c) (role : Role) :
    writtenChild text c role = writtenChild text' c role := by
  unfold writtenChild
  rw [h.textOf fun d found => partChild found]

theorem Agree.single (h : Agree text text' r r' c) (part : Part d c) :
    single r d = single r' d := by
  unfold Lowering.single
  rw [h.reads d part]

theorem Agree.singles (h : Agree text text' r r' c) {cs : List Concrete}
    (parts : ∀ d ∈ cs, Part d c) :
    cs.map (Lowering.single r) = cs.map (Lowering.single r') :=
  List.map_congr_left fun d mem => h.single (parts d mem)

theorem Agree.all (h : Agree text text' r r' c) {cs : List Concrete} (parts : ∀ d ∈ cs, Part d c) :
    cs.flatMap r = cs.flatMap r' :=
  List.flatMap_congr fun d mem => h.reads d (parts d mem)

theorem Agree.docstring (h : Agree text text' r r' c) :
    docstring? text c = docstring? text' c := by
  unfold docstring?
  cases first : c.named.head? with
  | none => simp
  | some f =>
    cases second : f.named.head? with
    | none => simp [second]
    | some g =>
      have part := (partNamed (List.mem_of_head? second)).trans (partNamed (List.mem_of_head? first))
      simp [second,h.texts g part]

theorem Agree.bodyDocstring (h : Agree text text' r r' c) :
    (c.child? .body >>= docstring? text) = (c.child? .body >>= docstring? text') := by
  cases found : c.child? .body with
  | none => simp
  | some b => simp [(h.below (partChild found)).docstring]

theorem Agree.keyword (h : Agree text text' r r' c) : keyword text r c = keyword text' r' c := by
  unfold Lowering.keyword
  cases found : c.child? .value with
  | none => rfl
  | some v =>
    dsimp only
    rw [h.single (partChild found),h.textOf fun d name => partChild name]

theorem Agree.classDef (h : Agree text text' r r' c) (decorators : List Outline) :
    classDef text r c decorators = classDef text' r' c decorators := by
  unfold Lowering.classDef
  have parts : ∀ d ∈ namedIn c .superclasses,
      (if !d.hasKind .keywordArgument then Lowering.single r d else Lowering.keyword text r d) =
        if !d.hasKind .keywordArgument then Lowering.single r' d else Lowering.keyword text' r' d := by
    intro d mem
    rw [h.single (partNamedIn mem),(h.below (partNamedIn mem)).keyword]
  dsimp only
  rw [List.map_congr_left parts,h.child,h.bodyDocstring,h.all fun d mem => partNamedIn mem]

theorem partIdentifier (found : identifierIn? c = some d) : Part d c :=
  partNamed (List.mem_of_find?_eq_some found)

theorem Agree.parameterName (h : Agree text text' r r' c) :
    parameterName? text c = parameterName? text' c := by
  have inner : ∀ d, (c.named.head? >>= identifierIn?) = some d → Part d c := by
    intro d found
    obtain ⟨e,first,second⟩ := Option.bind_eq_some_iff.mp found
    exact (partIdentifier second).trans (partNamed (List.mem_of_head? first))
  unfold parameterName?
  split
  · rw [h.own]
  · exact h.textOf fun d found => partChild found
  · exact h.textOf fun d found => partChild found
  case h_7 => rfl
  all_goals
    split
    · rename_i name found
      rw [h.texts name (partIdentifier found)]
    · exact h.textOf inner

theorem partDefault (found : defaultValue? c = some d) : Part d c := by
  unfold defaultValue? at found
  split at found
  · exact partChild found
  · exact partChild found
  · cases found

theorem Agree.functionDef (h : Agree text text' r r' c) (decorators : List Outline) :
    functionDef text r c decorators = functionDef text' r' c decorators := by
  have names : (namedIn c .parameters).filterMap (parameterName? text) =
      (namedIn c .parameters).filterMap (parameterName? text') :=
    List.filterMap_congr fun d mem => (h.below (partNamedIn mem)).parameterName
  have defaults : ∀ d ∈ (namedIn c .parameters).filterMap defaultValue?, Part d c := by
    intro d mem
    obtain ⟨e,he,found⟩ := List.mem_filterMap.mp mem
    exact (partDefault found).trans (partNamedIn he)
  unfold Lowering.functionDef
  dsimp only
  rw [names,h.child,h.bodyDocstring,h.singles defaults,h.all fun d mem => partNamedIn mem]

theorem Agree.definition (h : Agree text text' r r' c) (decorators : List Concrete)
    (before : decorators.flatMap (fun d => d.named.flatMap r) =
      decorators.flatMap fun d => d.named.flatMap r') :
    definition text r decorators c = definition text' r' decorators c := by
  unfold Lowering.definition
  dsimp only
  rw [before,h.classDef,h.functionDef]

theorem Agree.argument (h : Agree text text' r r' c) (part : Part d c) :
    argument text r d = argument text' r' d := by
  unfold Lowering.argument
  split
  · exact (h.below part).keyword
  · have within : Part (d.named.head?.getD d) c := by
      cases first : d.named.head? with
      | none => exact part
      | some e => exact (partNamed (List.mem_of_head? first)).trans part
    unfold spread
    rw [h.single within]
  · exact h.single part

theorem partArgument (mem : d ∈ argumentsOf c) : Part d c := by
  unfold argumentsOf at mem
  split at mem
  · rename_i e found
    split at mem
    · exact (partNamed mem).trans (partChild found)
    · cases List.mem_singleton.mp mem
      exact partChild found
  · cases mem

theorem Agree.call (h : Agree text text' r r' c) : call text r c = call text' r' c := by
  unfold Lowering.call
  cases found : c.child? .function with
  | none => rfl
  | some f =>
    dsimp only
    rw [h.single (partChild found),List.map_congr_left fun d mem => h.argument (partArgument mem)]

theorem Agree.access (h : Agree text text' r r' c) : access text r c = access text' r' c := by
  unfold Lowering.access
  cases found : c.child? .object with
  | none => rfl
  | some o =>
    dsimp only
    rw [h.single (partChild found),h.child]

theorem partInterpolated {e : Concrete} (mem : e ∈ interpolated d) : Part e d := by
  obtain ⟨f,hf,found⟩ := List.mem_filterMap.mp mem
  exact (partChild found).trans (partNamed (List.mem_filter.mp hf).1)

theorem Agree.string (h : Agree text text' r r' c) : string text r c = string text' r' c := by
  have pieces : ∀ d ∈ (if c.hasKind .concatenatedString then c.named else [c]), d = c ∨ Part d c := by
    intro d mem
    split at mem
    · exact .inr (partNamed mem)
    · exact .inl (List.mem_singleton.mp mem)
  have tokens : (if c.hasKind .concatenatedString then c.named else [c]).map
      (fun d => (written text d).toList) =
        (if c.hasKind .concatenatedString then c.named else [c]).map
          fun d => (written text' d).toList := by
    refine List.map_congr_left fun d mem => ?_
    rcases pieces d mem with rfl | part
    · rw [h.own]
    · rw [h.texts d part]
  have values : ∀ e ∈ (if c.hasKind .concatenatedString then c.named else [c]).flatMap interpolated,
      Part e c := by
    intro e mem
    obtain ⟨d,hd,inside⟩ := List.mem_flatMap.mp mem
    rcases pieces d hd with rfl | part
    · exact partInterpolated inside
    · exact (partInterpolated inside).trans part
  unfold Lowering.string
  dsimp only
  rw [tokens,h.singles values]

theorem Agree.number (h : Agree text text' r r' c) : number text c = number text' c := by
  unfold Lowering.number number?
  rw [h.own]

theorem Agree.dict (h : Agree text text' r r' c) : dict r c = dict r' c := by
  have parts : ∀ d ∈ c.named, DictPart.read r d = DictPart.read r' d := by
    intro d mem
    have part := partNamed mem
    unfold DictPart.read
    split
    · split
      · rename_i k v key value
        rw [h.single ((partChild key).trans part),h.single ((partChild value).trans part)]
      · rfl
    · rw [h.reads d part]
  unfold Lowering.dict
  rw [List.map_congr_left parts]

theorem Agree.sequence (h : Agree text text' r r' c) (k : NodeKind) :
    sequence k r c = sequence k r' c := by
  unfold Lowering.sequence
  rw [h.singles fun d mem => partNamed mem]

theorem Agree.compare (h : Agree text text' r r' c) : compare r c = compare r' c := by
  unfold Lowering.compare
  rw [h.singles fun d mem => partNamed mem]

theorem partChain (n : Nat) : (∀ d ∈ (chain n c).1, Part d c) ∧ ∀ d, (chain n c).2 = some d → Part d c := by
  induction n generalizing c with
  | zero => simp [chain]
  | succ n ih =>
    have left : ∀ d ∈ (c.child? .left).toList, Part d c :=
      fun d mem => partChild (Option.mem_toList.mp mem)
    unfold chain
    cases right : c.child? .right with
    | none => exact ⟨left,fun d found => by cases found⟩
    | some v =>
      dsimp only
      split
      · have ⟨targets,value⟩ := ih (c := v)
        refine ⟨fun d mem => ?_,fun d found => (value d found).trans (partChild right)⟩
        rcases List.mem_append.mp mem with mem | mem
        · exact left d mem
        · exact (targets d mem).trans (partChild right)
      · refine ⟨left,fun d found => ?_⟩
        cases found
        exact partChild right

theorem Agree.assign (h : Agree text text' r r' c) : assign r c = assign r' c := by
  have ⟨targets,value⟩ := partChain (c := c) c.size
  have parts : ∀ d ∈ (chain c.size c).1 ++ (chain c.size c).2.toList, Part d c := by
    intro d mem
    rcases List.mem_append.mp mem with mem | mem
    · exact targets d mem
    · exact value d (Option.mem_toList.mp mem)
  unfold Lowering.assign
  dsimp only
  rw [h.singles parts]

theorem Agree.importName (h : Agree text text' r r' c) : importName text c = importName text' c := by
  unfold Lowering.importName
  rw [h.own,h.child,h.textOf fun d found => partChild found]

theorem Agree.importNames (h : Agree text text' r r' c) {cs : List Concrete}
    (parts : ∀ d ∈ cs, Part d c) :
    cs.map (Lowering.importName text) = cs.map (Lowering.importName text') :=
  List.map_congr_left fun d mem => (h.below (parts d mem)).importName

theorem Agree.importNode (h : Agree text text' r r' c) : importNode text c = importNode text' c := by
  unfold Lowering.importNode
  rw [h.importNames fun d mem => partNamed mem]

theorem Agree.importFrom (h : Agree text text' r r' c) : importFrom text c = importFrom text' c := by
  have source : importSource text c = importSource text' c := by
    unfold importSource
    rw [h.child]
  unfold Lowering.importFrom
  rw [source]
  dsimp only
  rw [h.importNames fun d mem => .child (List.mem_filter.mp mem).1]

theorem stepAgree (h : Agree text text' r r' c) : step text r c = step text' r' c := by
  have parts : c.named.flatMap r = c.named.flatMap r' := h.all fun d mem => partNamed mem
  unfold step
  cases found : c.kind? with
  | none => rfl
  | some k =>
    dsimp only
    split
    · exact parts
    · exact parts
    · cases first : c.named.head? with
      | none => rfl
      | some d => simp [h.single (partNamed (List.mem_of_head? first))]
    · cases inner : c.child? .definition with
      | none => rfl
      | some d =>
        have before : (c.named.filter fun d => d.hasKind .decorator).flatMap (fun d => d.named.flatMap r) =
            (c.named.filter fun d => d.hasKind .decorator).flatMap fun d => d.named.flatMap r' :=
          List.flatMap_congr fun d mem => (h.below (partNamed (List.mem_filter.mp mem).1)).all
            fun e inside => partNamed inside
        simp [(h.below (partChild inner)).definition _ before]
    · simp [h.definition [] rfl]
    · simp [h.definition [] rfl]
    · simp [h.call]
    · simp [h.keyword]
    · simp [h.own]
    · simp [h.access]
    · simp [h.string]
    · simp [h.string]
    · simp [h.number]
    · simp [h.number]
    · rfl
    · rfl
    · rfl
    · rfl
    · simp [h.dict]
    · simp [h.sequence]
    · simp [h.sequence]
    · simp [h.sequence]
    · simp [h.sequence]
    · simp [h.sequence]
    · simp [h.sequence]
    · simp [h.sequence]
    · simp [h.compare]
    · simp [h.assign]
    · simp [h.importNode]
    · simp [h.importFrom]
    · simp [h.importFrom]
    · rw [parts]

theorem boundedAgree {n m : Nat} (hn : c.size ≤ n) (hm : c.size ≤ m)
    (own : written text c = written text' c) (texts : ∀ d, Part d c → written text d = written text' d) :
    bounded text n c = bounded text' m c := by
  have positive := sizePositive c
  induction n generalizing m c with
  | zero => omega
  | succ n ih =>
    obtain ⟨m,rfl⟩ : ∃ k, m = k + 1 := ⟨m - 1,by omega⟩
    refine stepAgree ⟨own,texts,fun d part => ?_⟩
    have smaller := partSmaller part
    have below : ∀ e, Part e d → written text e = written text' e :=
      fun e inner => texts e (inner.trans part)
    exact ih (by omega) (by omega) (texts d part) below (sizePositive d)

end Agree

section Continued
open ConventionLint.Grammar (Lies sitesOf)
variable {text : List Char} {word : Grammar.Span → Prop} {c d program longer : Concrete}

theorem liesPart {S : Grammar.Sites} (h : Lies S c) (part : Part d c) : Lies S d := by
  have children {c : Concrete} (h : Lies S c) : ∀ e ∈ c.children, Lies S e := by
    cases h with
    | token => exact fun e mem => by cases mem
    | node _ _ below => exact below
  induction part with
  | child mem => exact children h _ mem
  | deeper mem _ ih => exact ih (children h _ mem)

theorem writtenContinued (more : List Char) (h : Lies (sitesOf text word) c) :
    written (text ++ more) c = written text c := by
  have ⟨start,stop⟩ := Grammar.liesSpan h
  unfold written
  rw [Grammar.sliceOfPlaces more start stop]

theorem boundedContinued (more : List Char) {n m : Nat} (hn : c.size ≤ n) (hm : c.size ≤ m)
    (h : Lies (sitesOf text word) c) : bounded (text ++ more) n c = bounded text m c :=
  boundedAgree hn hm (writtenContinued more h) fun _ part => writtenContinued more (liesPart h part)

theorem partsContinued (more : List Char) {further : List Concrete}
    (lies : Lies (sitesOf text word) program) (continued : longer.children = program.children ++ further) :
    ∃ rest, longer.named.flatMap (bounded (text ++ more) longer.size) =
      program.named.flatMap (bounded text program.size) ++ rest := by
  have named : longer.named = program.named ++ further.filter Concrete.isNamed := by
    unfold Concrete.named
    rw [continued,List.filter_append]
  rw [named,List.flatMap_append]
  refine ⟨_,congrArg (· ++ _) (List.flatMap_congr fun d mem => ?_)⟩
  have here := childSmaller (List.mem_filter.mp mem).1
  have there : d.size < longer.size := by
    apply childSmaller
    rw [continued]
    exact List.mem_append_left _ (List.mem_filter.mp mem).1
  exact boundedContinued more (Nat.le_of_lt there) (Nat.le_of_lt here) (liesPart lies (partNamed mem))

end Continued

end ConventionLint.Tree.Lowering
