import ConventionLint.Proofs.Grammar.RegularStatements
import ConventionLint.Proofs.Tree.Lowering
import ConventionLint.Proofs.Tree.Standing

/-! Which calls of a program are lowered: those that are read, and they stay in the order of the text. There
is one lemma for each construct that is taken apart. -/
namespace ConventionLint.Tree
open ConventionLint.Grammar (Concrete Kind Role Span)

namespace Lowering
open Outline

section Roles
variable {k : Kind} {r : Option Role} {s : Span} {cs ds : List Concrete} {d : Concrete} {role : Role}

theorem childAmong (cs : List Concrete) (before : ∀ e ∈ cs, e.role? ≠ some role) (here : d.role? = some role) :
    (Concrete.node k r s (cs ++ d :: ds)).child? role = some d := by
  rw [Concrete.child?,Concrete.children,List.find?_append,Concrete.nobodyIn before,Option.none_or]
  exact List.find?_cons_of_pos (by simpa using here)

theorem childFirst (here : d.role? = some role) : (Concrete.node k r s (d :: ds)).child? role = some d :=
  childAmong [] nofun here

theorem childSecond {e : Concrete} (first : e.role? ≠ some role) (here : d.role? = some role) :
    (Concrete.node k r s (e :: d :: ds)).child? role = some d :=
  childAmong [e] (List.forall_mem_singleton.mpr first) here

theorem childNone (others : ∀ e ∈ cs, e.role? ≠ some role) : (Concrete.node k r s cs).child? role = none :=
  Concrete.nobodyIn others

theorem roleOfOperand (operand : d.isOperand) : (d.withRole role).role? = some role := by
  cases d with
  | token => cases operand
  | node => rfl

theorem roleOfFresh (fresh : d.Fresh k) : (d.withRole role).role? = some role := by
  cases d with
  | token => cases fresh.1
  | node => rfl

theorem kindOf {c : Concrete} {k : Kind} : c.hasKind k = (c.kind? == some k) := rfl

theorem kindOfFresh (fresh : d.Fresh k) : d.hasKind k = true := by
  simp [Concrete.hasKind,fresh.1]

theorem kindInRole (fresh : d.Fresh k) (role : Role) : (d.withRole role).hasKind k = true := by
  rw [kindOf,Grammar.kindWithRole,fresh.1]
  exact beq_self_eq_true _

theorem kindOther {k' : Kind} (fresh : d.Fresh k) (other : k ≠ k') (role : Role) :
    (d.withRole role).hasKind k' = false := by
  simpa [kindOf,Grammar.kindWithRole,fresh.1] using other

theorem operandNamed (operand : d.isOperand) : d.isNamed = true := by
  cases d with
  | token => cases operand
  | node => rfl

theorem namedAlone (operand : d.isOperand) : (Concrete.node k r s [d]).named = [d] :=
  List.filter_cons_of_pos (operandNamed operand)

theorem definitionFound (decorators : ∀ e ∈ ds, e.Fresh .decorator)
    (kind : d.Fresh .classDefinition ∨ d.Fresh .functionDefinition) :
    (Concrete.node k r s (ds ++ [d.withRole .definition])).child? .definition =
      some (d.withRole .definition) := by
  refine childAmong _ (fun e mem => ?_) (kind.elim roleOfFresh roleOfFresh)
  rw [(decorators e mem).2]
  exact Option.some_ne_none _ |>.symm

end Roles

theorem partRegular {c d : Concrete} (regular : c.Regular) (part : Part d c) : d.Regular := by
  induction part with
  | child mem => exact regular.children _ mem
  | deeper mem _ ih => exact ih (regular.children _ mem)

/-- What a reader gives for the parts of a regular construct has the calls that are read in them, and is
one outline for each part of an expression. -/
structure Faithful (text : List Char) (r : Reader) (c : Concrete) : Prop where
  regular : c.Regular
  calls : ∀ d, Part d c → callsOf (r d) = readCalls text .read d
  one : ∀ d, Part d c → d.isOperand → ∃ o, r d = [o]

namespace Faithful
variable {text : List Char} {r : Reader} {c d : Concrete} {ro : Option Role} {s : Span}
  {cs : List Concrete} {os : List Outline}

theorem inside (h : Faithful text r c) (part : Part d c) : Faithful text r d :=
  ⟨partRegular h.regular part,fun e inner => h.calls e (inner.trans part),
    fun e inner => h.one e (inner.trans part)⟩

theorem single (h : Faithful text r c) (part : Part d c) (operand : d.isOperand) :
    (single r d).calls = readCalls text .read d := by
  obtain ⟨o,alone⟩ := h.one d part operand
  rw [← h.calls d part,Lowering.single,alone,callsOfSingle]
  rfl

theorem singles (h : Faithful text r c) (parts : ∀ d ∈ cs, Part d c ∧ d.isOperand) :
    callsOf (cs.map (Lowering.single r)) = cs.flatMap (readCalls text .read) := by
  rw [callsOfMap]
  exact List.flatMap_congr fun d mem => h.single (parts d mem).1 (parts d mem).2

theorem reads (h : Faithful text r c) (parts : ∀ d ∈ cs, Part d c) :
    callsOf (cs.flatMap r) = cs.flatMap (readCalls text .read) := by
  rw [callsOfFlatMap]
  exact List.flatMap_congr fun d mem => h.calls d (parts d mem)

theorem named (h : Faithful text r c) :
    callsOf (c.named.flatMap r) = c.children.flatMap (readCalls text .read) := by
  rw [h.reads fun d mem => partNamed mem,Concrete.named,readCallsNamed]

theorem operands (h : Faithful text r c) (operands : ∀ d ∈ c.children, d.isNamed → d.isOperand) :
    callsOf (c.named.map (Lowering.single r)) = c.children.flatMap (readCalls text .read) := by
  rw [h.singles,Concrete.named,readCallsNamed]
  intro d mem
  have ⟨child,isNode⟩ := List.mem_filter.mp mem
  exact ⟨.child child,operands d child isNode⟩

theorem keyword (h : Faithful text r (.node .keywordArgument ro s cs)) :
    (keyword text r (.node .keywordArgument ro s cs)).calls =
      readCalls text .read (.node .keywordArgument ro s cs) := by
  obtain ⟨n,v,rfl,silent,operand⟩ := h.regular.fits rfl
  have value : (Concrete.node .keywordArgument ro s [n.withRole .name,v.withRole .value]).child? .value =
      some (v.withRole .value) := childSecond (Concrete.roleOther nofun) (roleOfOperand operand)
  have own := h.single (partChild value) (Concrete.operandWithRole operand _)
  rw [readCallsOther (k := .keywordArgument) nofun fun _ _ => rfl]
  simp [Lowering.keyword,value,Outline.calls,callsOf,own,readCallsSilent (silent.withRole .name)]

theorem spread (h : Faithful text r (.node .dictionarySplat ro s cs)) :
    (spread r (.node .dictionarySplat ro s cs)).calls =
      readCalls text .read (.node .dictionarySplat ro s cs) := by
  obtain ⟨e,rfl,operand⟩ := h.regular.fits rfl
  have own := h.single (.child List.mem_cons_self) operand
  rw [readCallsOther (k := .dictionarySplat) nofun fun _ _ => rfl]
  simp [Lowering.spread,namedAlone operand,Outline.calls,callsOf,own]

theorem argument (h : Faithful text r c) (part : Part d c) (operand : d.isOperand) :
    (argument text r d).calls = readCalls text .read d := by
  have here := h.inside part
  unfold Lowering.argument
  split
  · rename_i kind
    cases d with
    | token => cases kind
    | node k ro s cs =>
      cases kind
      exact here.keyword
  · rename_i kind
    cases d with
    | token => cases kind
    | node k ro s cs =>
      cases kind
      exact here.spread
  · exact h.single part operand

theorem arguments (h : Faithful text r c) (operands : ∀ d ∈ c.children, d.isOperand) :
    callsOf (c.named.map (Lowering.argument text r)) = c.children.flatMap (readCalls text .read) := by
  have each : ∀ d ∈ c.named, (Lowering.argument text r d).calls = readCalls text .read d :=
    fun d mem => h.argument (partNamed mem) (operands d (List.mem_filter.mp mem).1)
  rw [callsOfMap,List.flatMap_congr each,Concrete.named,readCallsNamed]

theorem call (h : Faithful text r (.node .call ro s cs)) :
    (call text r (.node .call ro s cs)).calls = readCalls text .read (.node .call ro s cs) := by
  obtain ⟨f,as,rfl,operand,taken⟩ := h.regular.fits rfl
  have function : (Concrete.node .call ro s [f.withRole .function,as.withRole .arguments]).child? .function =
      some (f.withRole .function) := childFirst (roleOfOperand operand)
  have given : (Concrete.node .call ro s [f.withRole .function,as.withRole .arguments]).child? .arguments =
      some (as.withRole .arguments) := childSecond (Concrete.roleOther nofun) (roleOfOperand taken)
  have own := h.single (partChild function) (Concrete.operandWithRole operand _)
  have all : callsOf ((argumentsOf (.node .call ro s [f.withRole .function,as.withRole .arguments])).map
      (Lowering.argument text r)) = readCalls text .read (as.withRole .arguments) := by
    have part := partChild given
    have here := h.inside part
    have whole := h.argument part (Concrete.operandWithRole taken _)
    simp only [argumentsOf,given]
    generalize as.withRole .arguments = d at here whole ⊢
    split
    · rename_i listed
      cases d with
      | token => cases listed
      | node k ro s cs =>
        cases eq_of_beq listed
        rw [here.arguments (here.regular.fits rfl),readCallsOther (k := .argumentList) nofun fun _ _ => rfl]
        rfl
    · rwa [List.map_singleton,callsOfSingle]
  rw [readCallsCall]
  simp [Lowering.call,function,Outline.calls,callsOf,own,all,Concrete.span]

theorem access (h : Faithful text r (.node .attribute ro s cs)) :
    (access text r (.node .attribute ro s cs)).calls = readCalls text .read (.node .attribute ro s cs) := by
  obtain ⟨o,a,rfl,operand,silent⟩ := h.regular.fits rfl
  have object : (Concrete.node .attribute ro s [o.withRole .object,a.withRole .attribute]).child? .object =
      some (o.withRole .object) := childFirst (roleOfOperand operand)
  have own := h.single (partChild object) (Concrete.operandWithRole operand _)
  rw [readCallsOther (k := .attribute) nofun fun _ _ => rfl]
  simp [Lowering.access,object,Outline.calls,callsOf,own,readCallsSilent (silent.withRole .attribute)]

theorem flatMapFound {α : Type} {f : Concrete → Option Concrete} {g g' : Concrete → List α}
    (each : ∀ d ∈ cs, (f d).toList.flatMap g = g' d) : (cs.filterMap f).flatMap g = cs.flatMap g' := by
  induction cs with
  | nil => rfl
  | cons d ds ih =>
    obtain ⟨own,rest⟩ := List.forall_mem_cons.mp each
    rw [List.flatMap_cons,← own,← ih rest]
    cases found : f d with
    | none => simp [found]
    | some e => simp [found]

theorem holeValue (text : List Char) (regular : d.Regular) (kind : d.kind? = some .interpolation) :
    ∃ v, d.child? .expression = some v ∧ v.isOperand ∧ readCalls text .read v = readCalls text .hole d := by
  cases d with
  | token => cases kind
  | node k ro s cs =>
    cases kind
    obtain ⟨v,rest,rfl,operand,formats⟩ := regular.fits rfl
    have own (ds : List Concrete) (e : Concrete) : below text .hole (.node .interpolation ro s ds) e =
        if e.hasKind .formatSpecifier then .lost else .read := rfl
    have plain : (v.withRole .expression).hasKind .formatSpecifier = false := by
      cases v with
      | token => cases operand
      | node k ro s cs =>
        cases k
        case formatSpecifier => cases operand
        all_goals rfl
    have others : (rest.flatMap fun d => readCalls text (below text .hole
        (.node .interpolation ro s (v.withRole .expression :: rest)) d) d) = [] :=
      readCallsNone fun d mem => (formats d mem).imp_right fun fresh => .inr (if_pos (kindOfFresh fresh))
    refine ⟨v.withRole .expression,childFirst (roleOfOperand operand),Concrete.operandWithRole operand _,?_⟩
    rw [readCallsParts (by nofun),List.flatMap_cons,others,List.append_nil,own,plain]
    rfl

theorem interpolatedCalls (text : List Char) (regular : (Concrete.node .string ro s cs).Regular) :
    (∀ v ∈ interpolated (.node .string ro s cs), v.isOperand) ∧
      (interpolated (.node .string ro s cs)).flatMap (readCalls text .read) =
        cs.flatMap (readCalls text .hole) := by
  have holes : ∀ d ∈ cs, d.Fresh .interpolation := regular.fits rfl
  have only : (Concrete.node .string ro s cs).named.filter (fun d => d.hasKind .interpolation) = cs := by
    rw [Concrete.named,Concrete.children,List.filter_filter,List.filter_eq_self]
    intro d mem
    simp [kindOfFresh (holes d mem),Grammar.freshNamed (holes d mem)]
  have values (d : Concrete) (mem : d ∈ cs) :=
    holeValue text (regular.children d mem) (holes d mem).1
  rw [interpolated,only]
  refine ⟨fun v mem => ?_,flatMapFound fun d mem => ?_⟩
  · obtain ⟨d,here,found⟩ := List.mem_filterMap.mp mem
    obtain ⟨w,value,operand,_⟩ := values d here
    cases value.symm.trans found
    exact operand
  · obtain ⟨v,value,_,same⟩ := values d mem
    simp [value,same]

theorem pieceCalls (text : List Char) (regular : d.Regular) (fresh : d.Fresh .string) :
    (∀ v ∈ interpolated d, v.isOperand) ∧
      (interpolated d).flatMap (readCalls text .read) = readCalls text .piece d := by
  cases d with
  | token => cases fresh.1
  | node k ro s cs =>
    cases fresh.1
    obtain ⟨operands,same⟩ := interpolatedCalls text regular
    refine ⟨operands,same.trans ?_⟩
    rw [readCallsParts (by nofun)]
    rfl

theorem formattedIff (c : Concrete) :
    (((if c.hasKind .concatenatedString then c.named else [c]).map fun d => (written text d).toList).any
      fun t => (StringToken.split? t).any StringToken.isFormat) = isFormatted text c := by
  rw [List.any_map]
  rfl

theorem string (h : Faithful text r (.node .string ro s cs)) :
    (string text r (.node .string ro s cs)).calls = readCalls text .read (.node .string ro s cs) := by
  obtain ⟨operands,same⟩ := interpolatedCalls text h.regular
  have values := h.singles fun v mem => ⟨partInterpolated mem,operands v mem⟩
  have pieces : (if (Concrete.node .string ro s cs).hasKind .concatenatedString then
      (Concrete.node .string ro s cs).named else [.node .string ro s cs]) = [.node .string ro s cs] := rfl
  rw [readCallsParts (by nofun)]
  simp only [Lowering.string,formattedIff]
  by_cases formatted : isFormatted text (.node .string ro s cs) = true
  · simp [formatted,pieces,Outline.calls,values,same,below,belowRead,Concrete.kind?]
  · simp [formatted,Outline.calls,callsOf,below,belowRead,Concrete.kind?,readCallsUnread]

theorem strings (h : Faithful text r (.node .concatenatedString ro s cs)) :
    (Lowering.string text r (.node .concatenatedString ro s cs)).calls =
      readCalls text .read (.node .concatenatedString ro s cs) := by
  have fresh : ∀ d ∈ cs, d.Fresh .string := h.regular.fits rfl
  have pieces : (if (Concrete.node .concatenatedString ro s cs).hasKind .concatenatedString then
      (Concrete.node .concatenatedString ro s cs).named else [.node .concatenatedString ro s cs]) = cs :=
    List.filter_eq_self.mpr fun d mem => Grammar.freshNamed (fresh d mem)
  have each (d : Concrete) (mem : d ∈ cs) :=
    pieceCalls text (h.regular.children d mem) (fresh d mem)
  have values : callsOf ((cs.flatMap interpolated).map (Lowering.single r)) =
      cs.flatMap (readCalls text .piece) := by
    rw [h.singles,List.flatMap_assoc]
    · exact List.flatMap_congr fun d mem => (each d mem).2
    · intro v mem
      obtain ⟨d,inside,found⟩ := List.mem_flatMap.mp mem
      exact ⟨(partInterpolated found).trans (.child inside),(each d inside).1 v found⟩
  rw [readCallsParts (by nofun)]
  simp only [Lowering.string,formattedIff]
  by_cases formatted : isFormatted text (.node .concatenatedString ro s cs) = true
  · simp [formatted,pieces,Outline.calls,values,below,belowRead,Concrete.kind?]
  · simp [formatted,Outline.calls,callsOf,below,belowRead,Concrete.kind?,readCallsUnread]

theorem pair (h : Faithful text r (.node .pair ro s cs)) :
    callsOf (DictPart.read r (.node .pair ro s cs)).outlines = readCalls text .read (.node .pair ro s cs) := by
  obtain ⟨k,v,rfl,key,value⟩ := h.regular.fits rfl
  have first : (Concrete.node .pair ro s [k.withRole .key,v.withRole .value]).child? .key =
      some (k.withRole .key) := childFirst (roleOfOperand key)
  have second : (Concrete.node .pair ro s [k.withRole .key,v.withRole .value]).child? .value =
      some (v.withRole .value) := childSecond (Concrete.roleOther nofun) (roleOfOperand value)
  have ownKey := h.single (partChild first) (Concrete.operandWithRole key _)
  have ownValue := h.single (partChild second) (Concrete.operandWithRole value _)
  rw [readCallsOther (k := .pair) nofun fun _ _ => rfl]
  simp [DictPart.read,Concrete.hasKind,Concrete.kind?,first,second,DictPart.outlines,callsOf,ownKey,ownValue]

theorem entry (h : Faithful text r c) (part : Part d c) :
    callsOf (DictPart.read r d).outlines = readCalls text .read d := by
  cases d with
  | token => exact h.calls _ part
  | node k ro s cs =>
    by_cases kind : k = .pair
    · subst kind
      exact (h.inside part).pair
    · have other : (Concrete.node k ro s cs).hasKind .pair = false := by
        simpa [Concrete.hasKind,Concrete.kind?] using kind
      rw [DictPart.read,other]
      exact h.calls _ part

theorem dict (h : Faithful text r (.node .dictionary ro s cs)) :
    (dict r (.node .dictionary ro s cs)).calls = readCalls text .read (.node .dictionary ro s cs) := by
  rw [readCallsOther (k := .dictionary) nofun fun _ _ => rfl]
  rw [Lowering.dict,callsNode (by nofun),List.flatMap_map,callsOfFlatMap,
    List.flatMap_congr fun d mem => h.entry (partNamed mem)]
  exact readCallsNamed

theorem sequence {k : Kind} {kind : NodeKind} (h : Faithful text r (.node k ro s cs)) (other : kind ≠ .call)
    (operands : ∀ d ∈ cs, d.isOperand)
    (own : readCalls text .read (.node k ro s cs) = cs.flatMap (readCalls text .read)) :
    (sequence kind r (.node k ro s cs)).calls = readCalls text .read (.node k ro s cs) := by
  rw [own,Lowering.sequence,callsNode other,h.operands fun d mem _ => operands d mem]
  rfl

theorem compare (h : Faithful text r (.node .comparisonOperator ro s cs)) :
    (compare r (.node .comparisonOperator ro s cs)).calls =
      readCalls text .read (.node .comparisonOperator ro s cs) := by
  rw [readCallsOther (k := .comparisonOperator) nofun fun _ _ => rfl,Lowering.compare,callsNode (by nofun),
    h.operands (h.regular.fits rfl)]
  rfl

theorem typesUnread (types : ∀ d ∈ cs, d.Fresh .type) (ds : List Concrete) :
    (cs.flatMap fun d => readCalls text (below text .read (.node .assignment ro s ds) d) d) = [] :=
  readCallsNone fun d mem => .inr (.inl (if_pos (kindOfFresh (types d mem))))

theorem operandNoType (operand : d.isOperand) : d.hasKind .type = false := by
  cases d with
  | token => cases operand
  | node k ro s cs =>
    cases k
    case type => cases operand
    all_goals rfl

theorem operandAssigned (operand : d.isOperand) (ds : List Concrete) :
    readCalls text (below text .read (.node .assignment ro s ds) d) d = readCalls text .read d := by
  have own : below text .read (.node .assignment ro s ds) d = .read := if_neg (by simp [operandNoType operand])
  rw [own]

theorem chainCalls (n : Nat) (h : Faithful text r (.node .assignment ro s cs))
    (deep : (Concrete.node .assignment ro s cs).size ≤ n) :
    callsOf (((chain n (.node .assignment ro s cs)).1 ++ (chain n (.node .assignment ro s cs)).2.toList).map
      (Lowering.single r)) = readCalls text .read (.node .assignment ro s cs) := by
  induction n generalizing ro s cs with
  | zero => exact absurd deep (Nat.not_le.mpr (sizePositive _))
  | succ n ih =>
    obtain ⟨t,rest,rfl,operand,assigned⟩ := h.regular.fits rfl
    have left : (Concrete.node .assignment ro s (t.withRole .left :: rest)).child? .left =
        some (t.withRole .left) := childFirst (roleOfOperand operand)
    have target := h.single (partChild left) (Concrete.operandWithRole operand _)
    rw [readCallsParts (by nofun),List.flatMap_cons,operandAssigned (Concrete.operandWithRole operand _)]
    cases assigned with
    | @declared type typed =>
      have right : (Concrete.node .assignment ro s [t.withRole .left,type]).child? .right = none := by
        refine childNone (List.forall_mem_cons.mpr ⟨Concrete.roleOther nofun,List.forall_mem_singleton.mpr ?_⟩)
        rw [typed.2]
        exact nofun
      rw [typesUnread (List.forall_mem_singleton.mpr typed)]
      simp [chain,left,right,callsOf,target]
    | @valued types v typed assignedOperand =>
      have right : (Concrete.node .assignment ro s
          (t.withRole .left :: (types ++ [v.withRole .right]))).child? .right = some (v.withRole .right) := by
        refine childAmong (t.withRole .left :: types) ?_ (roleOfOperand assignedOperand)
        refine List.forall_mem_cons.mpr ⟨Concrete.roleOther nofun,fun d mem => ?_⟩
        rw [(typed d mem).2]
        exact nofun
      have part := partChild right
      have value := h.single part (Concrete.operandWithRole assignedOperand _)
      have smaller := partSmaller part
      have here := h.inside part
      rw [List.flatMap_append,typesUnread typed,List.nil_append,List.flatMap_singleton,
        operandAssigned (Concrete.operandWithRole assignedOperand _)]
      simp only [chain,left,right,Option.toList_some]
      generalize v.withRole .right = w at *
      split
      · rename_i further
        cases w with
        | token => cases further
        | node k ro' s' ds =>
          cases eq_of_beq further
          rw [List.append_assoc,List.map_append,callsOfAppend,ih here (by omega),List.map_singleton,
            callsOfSingle,target]
      · simp [callsOf,target,value]

theorem assign (h : Faithful text r (.node .assignment ro s cs)) :
    (assign r (.node .assignment ro s cs)).calls = readCalls text .read (.node .assignment ro s cs) := by
  rw [← chainCalls _ h (Nat.le_refl _),Lowering.assign,callsNode (by nofun)]

theorem parameterUnread (other : (hasDefault c && d.role? == some .value) = false) :
    readCalls text (below text .parameter c d) d = [] := by
  refine readCallsUnread ?_
  change belowParameter c d = .typed ∨ belowParameter c d = .lost
  rw [belowParameter,other]
  by_cases type : d.hasKind .type = true
  · exact .inl (if_pos type)
  · exact .inr (if_neg type)

theorem parameterCalls (text : List Char) (regular : d.Regular) : (∀ v, defaultValue? d = some v → v.isOperand) ∧
    (defaultValue? d).toList.flatMap (readCalls text .read) = readCalls text .parameter d := by
  cases d with
  | token => exact ⟨nofun,rfl⟩
  | node k ro s cs =>
    have value : defaultValue? (.node k ro s cs) = if hasDefault (.node k ro s cs) then
        (Concrete.node k ro s cs).child? .value else none := by
      cases k
      all_goals rfl
    rw [readCallsParts (by nofun),value]
    by_cases default : hasDefault (.node k ro s cs) = true
    · rw [if_pos default]
      have parts : ∃ (front : List Concrete) (v : Concrete), cs = front ++ [v.withRole .value] ∧
          (∀ c ∈ front, c.role? ≠ some .value) ∧ v.isOperand := by
        simp only [hasDefault,Concrete.hasKind,Concrete.kind?,Bool.or_eq_true,beq_iff_eq,
          Option.some.injEq] at default
        rcases default with rfl | rfl
        · exact regular.fits rfl
        · exact regular.fits rfl
      obtain ⟨front,v,rfl,others,operand⟩ := parts
      have own : below text .parameter (.node k ro s (front ++ [v.withRole .value])) (v.withRole .value) = .read :=
        if_pos (by simp [default,roleOfOperand operand])
      have unread : (front.flatMap fun d => readCalls text (below text .parameter
          (.node k ro s (front ++ [v.withRole .value])) d) d) = [] :=
        List.flatMap_eq_nil_iff.mpr fun d mem => parameterUnread (by simp [others d mem])
      rw [childAmong _ others (roleOfOperand operand),List.flatMap_append,unread]
      refine ⟨fun w same => ?_,by simp [own]⟩
      cases same
      exact Concrete.operandWithRole operand _
    · rw [if_neg default]
      refine ⟨fun v found => ?_,(List.flatMap_eq_nil_iff.mpr fun d _ => parameterUnread ?_).symm⟩
      · cases found
      · simp [default]

theorem parametersCalls (h : Faithful text r d) (kind : d.hasKind .parameters = true) :
    callsOf ((d.named.filterMap defaultValue?).map (Lowering.single r)) = readCalls text .parameters d := by
  cases d with
  | token => cases kind
  | node k ro s cs =>
    have each (p : Concrete) (mem : p ∈ (Concrete.node k ro s cs).named) :=
      parameterCalls text (partRegular h.regular (partNamed mem))
    rw [h.singles,flatMapFound fun p mem => (each p mem).2,Concrete.named,readCallsNamed,
      readCallsParts (by nofun)]
    · rfl
    · intro v mem
      obtain ⟨p,inside,found⟩ := List.mem_filterMap.mp mem
      exact ⟨(partDefault found).trans (partNamed inside),(each p inside).1 v found⟩

theorem bodyCalls (h : Faithful text r d) (kind : d.hasKind .block = true) :
    callsOf (d.named.flatMap r) = readCalls text .read d := by
  cases d with
  | token => cases kind
  | node k ro s cs =>
    cases eq_of_beq kind
    rw [h.named,readCallsOther (k := .block) nofun fun _ _ => rfl]
    rfl

theorem headingRole {role : Role} (heading : d.Heading) (other : role ≠ .name) : d.role? ≠ some role := by
  rcases heading.1 with absent | ⟨name,_⟩
  · simp [absent]
  · rw [name]
    exact fun same => other (Option.some.inj same).symm

theorem namedInFound {role : Role} (found : c.child? role = some d) : namedIn c role = d.named := by
  rw [namedIn,found]

section Definitions
variable {front result : List Concrete} {ps b : Concrete}

theorem functionReads (ds : List Concrete) (heads : ∀ c ∈ front, c.Heading)
    (taken : ps.hasKind .parameters = true) (returned : ∀ c ∈ result, c.Fresh .type)
    (block : b.hasKind .block = true) :
    ((front ++ ps :: result ++ [b]).flatMap fun d =>
      readCalls text (below text .read (.node .functionDefinition ro s ds) d) d) =
        readCalls text .parameters ps ++ readCalls text .read b := by
  have own (d : Concrete) : below text .read (.node .functionDefinition ro s ds) d =
      if d.hasKind .parameters then .parameters
      else if d.hasKind .type || d.hasKind .typeParameter then .typed else .read := rfl
  have inFront : (front.flatMap fun d =>
      readCalls text (below text .read (.node .functionDefinition ro s ds) d) d) = [] := by
    refine readCallsNone fun d mem => (heads d mem).2.imp_right fun fresh => .inl ?_
    simp [own,kindOf,fresh.1]
  have inResult : (result.flatMap fun d =>
      readCalls text (below text .read (.node .functionDefinition ro s ds) d) d) = [] := by
    refine readCallsNone fun d mem => .inr (.inl ?_)
    simp [own,kindOf,(returned d mem).1]
  have inBody : below text .read (.node .functionDefinition ro s ds) b = .read := by
    simp [own,kindOf,eq_of_beq block]
  rw [List.flatMap_append,List.flatMap_append,inFront,List.nil_append,List.flatMap_cons,inResult,
    List.append_nil,List.flatMap_singleton,inBody,own ps,if_pos taken]

theorem functionDef (h : Faithful text r (.node .functionDefinition ro s cs)) :
    (functionDef text r (.node .functionDefinition ro s cs) os).calls =
      callsOf os ++ readCalls text .read (.node .functionDefinition ro s cs) := by
  obtain ⟨front,result,ps,b,rfl,heads,taken,returned,block⟩ := h.regular.fits rfl
  have parameters : (Concrete.node .functionDefinition ro s (front ++ ps.withRole .parameters :: result ++
      [b.withRole .body])).child? .parameters = some (ps.withRole .parameters) := by
    rw [List.append_assoc,List.cons_append]
    exact childAmong _ (fun d mem => headingRole (heads d mem) nofun) (roleOfFresh taken)
  have statements : (Concrete.node .functionDefinition ro s (front ++ ps.withRole .parameters :: result ++
      [b.withRole .body])).child? .body = some (b.withRole .body) := by
    refine childAmong _ (List.forall_mem_append.mpr ⟨?_,List.forall_mem_cons.mpr ⟨?_,?_⟩⟩) (roleOfFresh block)
    · exact fun d mem => headingRole (heads d mem) nofun
    · exact Concrete.roleOther nofun
    · exact fun d mem => by simp [(returned d mem).2]
  have isParameters := kindInRole taken .parameters
  have isBlock := kindInRole block .body
  have defaults := (h.inside (partChild parameters)).parametersCalls isParameters
  have inBody := (h.inside (partChild statements)).bodyCalls isBlock
  rw [readCallsParts (by nofun),functionReads _ heads isParameters returned isBlock,← defaults,← inBody,
    Lowering.functionDef,callsNode (by nofun),callsOfAppend,callsOfAppend,namedInFound parameters,
    namedInFound statements,List.append_assoc]

end Definitions

theorem bases (h : Faithful text r d) (listed : d.hasKind .argumentList = true ∨
    d.hasKind .generatorExpression = true) :
    callsOf (d.named.map fun e => if !e.hasKind .keywordArgument then Lowering.single r e
      else Lowering.keyword text r e) = readCalls text .read d := by
  cases d with
  | token => rcases listed with kind | kind <;> cases kind
  | node k ro s cs =>
    have parts : (∀ e ∈ cs, e.isOperand) ∧
        readCalls text .read (.node k ro s cs) = cs.flatMap (readCalls text .read) := by
      rcases listed with kind | kind
      · cases eq_of_beq kind
        exact ⟨h.regular.fits rfl,readCallsOther (k := .argumentList) nofun fun _ _ => rfl⟩
      · cases eq_of_beq kind
        exact ⟨h.regular.fits rfl,readCallsOther (k := .generatorExpression) nofun fun _ _ => rfl⟩
    have each : ∀ e ∈ (Concrete.node k ro s cs).named, (if !e.hasKind .keywordArgument then
        Lowering.single r e else Lowering.keyword text r e).calls = readCalls text .read e := by
      intro e mem
      have part := partNamed mem
      split
      · exact h.single part (parts.1 e (List.mem_filter.mp mem).1)
      · rename_i plain
        cases e with
        | token => exact absurd rfl plain
        | node k' ro' s' ds =>
          obtain rfl : k' = .keywordArgument := by simpa [kindOf,Concrete.kind?] using plain
          exact (h.inside part).keyword
    rw [callsOfMap,List.flatMap_congr each,parts.2]
    exact readCallsNamed

section Definitions
variable {front header : List Concrete} {b : Concrete}

theorem classReads (ds : List Concrete) (heads : ∀ c ∈ front, c.Heading) (listed : Concrete.Bases header)
    (block : b.hasKind .block = true) :
    ((front ++ header ++ [b]).flatMap fun d =>
      readCalls text (below text .read (.node .classDefinition ro s ds) d) d) =
        header.flatMap (readCalls text .read) ++ readCalls text .read b := by
  have own (d : Concrete) : below text .read (.node .classDefinition ro s ds) d =
      if d.hasKind .typeParameter then .typed else .read := rfl
  have inFront : (front.flatMap fun d =>
      readCalls text (below text .read (.node .classDefinition ro s ds) d) d) = [] :=
    readCallsNone fun d mem => (heads d mem).2.imp_right fun fresh => .inl (if_pos (kindOfFresh fresh))
  have inHeader : ∀ d ∈ header, below text .read (.node .classDefinition ro s ds) d = .read := by
    cases listed with
    | none => exact List.forall_mem_nil _
    | listed kind =>
      refine List.forall_mem_singleton.mpr ?_
      rcases kind with fresh | fresh
      · simp [own,kindOther fresh]
      · simp [own,kindOther fresh]
  have inBody : below text .read (.node .classDefinition ro s ds) b = .read := by
    simp [own,kindOf,eq_of_beq block]
  rw [List.flatMap_append,List.flatMap_append,inFront,List.nil_append,List.flatMap_singleton,inBody,
    List.flatMap_congr fun d mem => by rw [inHeader d mem]]

theorem headerCalls (h : Faithful text r (.node .classDefinition ro s (front ++ header ++ [b.withRole .body])))
    (heads : ∀ c ∈ front, c.Heading) (listed : Concrete.Bases header) :
    callsOf ((namedIn (.node .classDefinition ro s (front ++ header ++ [b.withRole .body])) .superclasses).map
      fun e => if !e.hasKind .keywordArgument then Lowering.single r e else Lowering.keyword text r e) =
        header.flatMap (readCalls text .read) := by
  have others : ∀ d ∈ front, d.role? ≠ some .superclasses := fun d mem => headingRole (heads d mem) nofun
  cases listed with
  | none =>
    have missing : (Concrete.node .classDefinition ro s (front ++ [] ++ [b.withRole .body])).child?
        .superclasses = none := by
      rw [List.append_nil]
      exact childNone (List.forall_mem_append.mpr ⟨others,List.forall_mem_singleton.mpr (Concrete.roleOther nofun)⟩)
    rw [namedIn,missing]
    rfl
  | @listed c kind =>
    have found : (Concrete.node .classDefinition ro s (front ++ [c.withRole .superclasses] ++
        [b.withRole .body])).child? .superclasses = some (c.withRole .superclasses) := by
      rw [List.append_assoc]
      exact childAmong _ others (kind.elim roleOfFresh roleOfFresh)
    rw [namedInFound found,(h.inside (partChild found)).bases,List.flatMap_singleton]
    exact kind.imp (fun fresh => kindInRole fresh _) fun fresh => kindInRole fresh _

theorem classDef (h : Faithful text r (.node .classDefinition ro s cs)) :
    (classDef text r (.node .classDefinition ro s cs) os).calls =
      callsOf os ++ readCalls text .read (.node .classDefinition ro s cs) := by
  obtain ⟨front,header,b,rfl,heads,listed,block⟩ := h.regular.fits rfl
  have statements : (Concrete.node .classDefinition ro s (front ++ header ++ [b.withRole .body])).child? .body =
      some (b.withRole .body) := by
    refine childAmong _ (List.forall_mem_append.mpr ⟨fun d mem => headingRole (heads d mem) nofun,?_⟩)
      (roleOfFresh block)
    cases listed with
    | none => exact nofun
    | listed => exact List.forall_mem_singleton.mpr (Concrete.roleOther nofun)
  have isBlock := kindInRole block .body
  have inBody := (h.inside (partChild statements)).bodyCalls isBlock
  rw [readCallsParts (by nofun),classReads _ heads listed isBlock,← h.headerCalls heads listed,← inBody,
    Lowering.classDef,callsNode (by nofun),callsOfAppend,callsOfAppend,namedInFound statements,List.append_assoc]

end Definitions

theorem definition (h : Faithful text r d) (kind : d.hasKind .classDefinition = true ∨
    d.hasKind .functionDefinition = true) (ds : List Concrete) :
    (definition text r ds d).calls =
      callsOf (ds.flatMap fun e => e.named.flatMap r) ++ readCalls text .read d := by
  cases d with
  | token => rcases kind with kind | kind <;> cases kind
  | node k ro s cs =>
    rcases kind with kind | kind
    · cases eq_of_beq kind
      exact h.classDef
    · cases eq_of_beq kind
      exact h.functionDef

theorem decorated (h : Faithful text r (.node .decoratedDefinition ro s cs)) :
    callsOf (step text r (.node .decoratedDefinition ro s cs)) =
      readCalls text .read (.node .decoratedDefinition ro s cs) := by
  obtain ⟨ds,d,rfl,decorators,kind⟩ := h.regular.fits rfl
  have defined := definitionFound (k := .decoratedDefinition) (r := ro) (s := s) decorators kind
  have kinds := kind.imp (fun fresh => kindInRole fresh .definition) fun fresh => kindInRole fresh .definition
  have only : (Concrete.node .decoratedDefinition ro s (ds ++ [d.withRole .definition])).named.filter
      (fun e => e.hasKind .decorator) = ds := by
    rw [Concrete.named,Concrete.children,List.filter_filter,List.filter_append,List.filter_eq_self.mpr,
      List.filter_eq_nil_iff.mpr,List.append_nil]
    · refine List.forall_mem_singleton.mpr ?_
      rcases kind with fresh | fresh
      · simp [kindOther fresh]
      · simp [kindOther fresh]
    · exact fun e mem => by simp [kindOfFresh (decorators e mem),Grammar.freshNamed (decorators e mem)]
  have above : callsOf (ds.flatMap fun e => e.named.flatMap r) = ds.flatMap (readCalls text .read) := by
    rw [callsOfFlatMap]
    refine List.flatMap_congr fun e mem => ?_
    have here := h.inside (.child (List.mem_append_left _ mem))
    have fresh := decorators e mem
    cases e with
    | token => cases fresh.1
    | node k ro s cs =>
      cases fresh.1
      rw [here.named,readCallsOther (k := .decorator) (by decide) fun _ _ => rfl]
      rfl
  have own := (h.inside (partChild defined)).definition kinds ds
  rw [readCallsOther (k := .decoratedDefinition) (by decide) fun _ _ => rfl,List.flatMap_append,← above,
    List.flatMap_singleton,← own]
  simp only [step,Concrete.kind?,only,defined,Option.map_some,Option.toList_some,callsOfSingle]

theorem dissolved {k : Kind} (h : Faithful text r (.node k ro s cs))
    (own : readCalls text .read (.node k ro s cs) = cs.flatMap (readCalls text .read)) :
    callsOf ((Concrete.node k ro s cs).named.flatMap r) = readCalls text .read (.node k ro s cs) :=
  h.named.trans own.symm

theorem enclosed (h : Faithful text r (.node .parenthesizedExpression ro s cs)) :
    callsOf (step text r (.node .parenthesizedExpression ro s cs)) =
      readCalls text .read (.node .parenthesizedExpression ro s cs) := by
  obtain ⟨e,rfl,operand⟩ := h.regular.fits rfl
  rw [readCallsOther (k := .parenthesizedExpression) nofun fun _ _ => rfl]
  simp [step,Concrete.kind?,namedAlone operand,callsOf,h.single (.child List.mem_cons_self) operand]

theorem alone {k : Kind} {o : Outline} (childless : cs = []) (other : k ≠ .call) (own : o.calls = []) :
    callsOf [o] = readCalls text .read (.node k ro s cs) := by
  rw [callsOfSingle,own,readCallsNode,if_neg fun h => other h.1,childless]
  rfl

theorem imported {k : Kind} {o : Outline} (silent : ∀ d ∈ cs, d.Silent) (other : k ≠ .call)
    (own : o.calls = []) : callsOf [o] = readCalls text .read (.node k ro s cs) := by
  rw [callsOfSingle,own,readCallsSilent (.node other silent)]

theorem numberCalls : (number text c).calls = [] := by
  unfold number
  split
  · rfl
  · rfl

theorem rest {k : Kind} (h : Faithful text r (.node k ro s cs))
    (own : readCalls text .read (.node k ro s cs) = cs.flatMap (readCalls text .read)) :
    callsOf [unmodelled (.node k ro s cs) ((Concrete.node k ro s cs).named.flatMap r)] =
      readCalls text .read (.node k ro s cs) := by
  rw [callsOfSingle,← h.dissolved own]
  rfl

theorem step (h : Faithful text r c) : callsOf (step text r c) = readCalls text .read c := by
  cases c with
  | token => rfl
  | node k ro s cs =>
    have fits := h.regular.fits rfl
    cases k
    case block => exact h.dissolved (readCallsOther nofun fun _ _ => rfl)
    case expressionStatement => exact h.dissolved (readCallsOther nofun fun _ _ => rfl)
    case parenthesizedExpression => exact h.enclosed
    case decoratedDefinition => exact h.decorated
    case classDefinition => exact callsOfSingle.trans (h.definition (.inl rfl) [])
    case functionDefinition => exact callsOfSingle.trans (h.definition (.inr rfl) [])
    case call => exact callsOfSingle.trans h.call
    case keywordArgument => exact callsOfSingle.trans h.keyword
    case string => exact callsOfSingle.trans h.string
    case concatenatedString => exact callsOfSingle.trans h.strings
    case identifier => exact alone fits nofun rfl
    case integer => exact alone fits nofun numberCalls
    case float => exact alone fits nofun numberCalls
    case true => exact alone fits nofun rfl
    case false => exact alone fits nofun rfl
    case none => exact alone fits nofun rfl
    case ellipsis => exact alone fits nofun rfl
    case dictionary => exact callsOfSingle.trans h.dict
    case list => exact callsOfSingle.trans (h.sequence nofun fits (readCallsOther nofun fun _ _ => rfl))
    case listPattern => exact callsOfSingle.trans (h.sequence nofun fits (readCallsOther nofun fun _ _ => rfl))
    case tuple => exact callsOfSingle.trans (h.sequence nofun fits (readCallsOther nofun fun _ _ => rfl))
    case expressionList => exact callsOfSingle.trans (h.sequence nofun fits (readCallsOther nofun fun _ _ => rfl))
    case patternList => exact callsOfSingle.trans (h.sequence nofun fits (readCallsOther nofun fun _ _ => rfl))
    case tuplePattern => exact callsOfSingle.trans (h.sequence nofun fits (readCallsOther nofun fun _ _ => rfl))
    case set => exact callsOfSingle.trans (h.sequence nofun fits (readCallsOther nofun fun _ _ => rfl))
    case comparisonOperator => exact callsOfSingle.trans h.compare
    case assignment => exact callsOfSingle.trans h.assign
    case importStatement => exact imported fits nofun rfl
    case importFromStatement => exact imported fits nofun rfl
    case futureImportStatement => exact imported fits nofun rfl
    all_goals first
      | exact callsOfSingle.trans h.access
      | exact h.rest (readCallsOther nofun fun _ _ => rfl)

end Faithful

theorem stepOne {text : List Char} {r : Reader} {c : Concrete} (regular : c.Regular) (operand : c.isOperand) :
    ∃ o, step text r c = [o] := by
  cases c with
  | token => cases operand
  | node k ro s cs =>
    have fits := regular.fits rfl
    cases k
    case block => cases operand
    case expressionStatement => cases operand
    case parenthesizedExpression =>
      obtain ⟨e,rfl,inner⟩ := fits
      simp only [step,Concrete.kind?,namedAlone inner,List.head?_cons,Option.map_some,Option.toList_some]
      exact ⟨_,rfl⟩
    case decoratedDefinition =>
      obtain ⟨ds,d,rfl,decorators,kind⟩ := fits
      simp only [step,Concrete.kind?,definitionFound decorators kind,Option.map_some,Option.toList_some]
      exact ⟨_,rfl⟩
    all_goals exact ⟨_,rfl⟩

theorem boundedCalls (text : List Char) (n : Nat) {c : Concrete} (regular : c.Regular) (deep : c.size ≤ n) :
    callsOf (bounded text n c) = readCalls text .read c ∧ (c.isOperand → ∃ o, bounded text n c = [o]) := by
  induction n generalizing c with
  | zero => exact absurd deep (Nat.not_le.mpr (sizePositive c))
  | succ n ih =>
    have below (d : Concrete) (part : Part d c) :=
      ih (partRegular regular part) (Nat.le_of_lt_succ (Nat.lt_of_lt_of_le (partSmaller part) deep))
    have faithful : Faithful text (bounded text n) c :=
      ⟨regular,fun d part => (below d part).1,fun d part => (below d part).2⟩
    exact ⟨faithful.step,stepOne regular⟩

end Lowering

open Outline Lowering

theorem outlineCalls {text : List Char} {program : Concrete} (ok : Grammar.parse text = .ok program) :
    (outline text program).calls = readCalls text .read program := by
  obtain ⟨s,cs,rfl,regular⟩ := Grammar.parsedRegular ok
  have each : ∀ d ∈ (Concrete.node .module none s cs).named,
      callsOf (bounded text (Concrete.node .module none s cs).size d) = readCalls text .read d := by
    intro d mem
    have part := partNamed mem
    exact (boundedCalls text _ (regular d (List.mem_filter.mp mem).1) (Nat.le_of_lt (partSmaller part))).1
  rw [readCallsOther (k := .module) nofun fun _ _ => rfl,outline,callsNode (by nofun),
    callsOfFlatMap,List.flatMap_congr each]
  exact readCallsNamed

end ConventionLint.Tree
