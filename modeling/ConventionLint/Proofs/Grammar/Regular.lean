import ConventionLint.Proofs.Grammar.Order
import ConventionLint.Proofs.Grammar.Shape

/-! What a node of each kind consists of. The kinds that are taken apart later have a fixed form: what a
parser gives has exactly the parts that are asked for, each in its role. -/
namespace ConventionLint.Grammar

namespace Concrete

def isOperandKind : Kind → Bool
  | .block | .expressionStatement | .type | .formatSpecifier => false
  | _ => true

def isLoose : Kind → Bool
  | .parenthesizedExpression | .dictionarySplat | .keywordArgument | .attribute | .call | .pair
  | .defaultParameter | .typedDefaultParameter | .assignment | .string | .concatenatedString
  | .interpolation | .functionDefinition | .classDefinition | .decoratedDefinition | .decorator
  | .integer | .float | .identifier | .true | .false | .none | .ellipsis | .importStatement
  | .importFromStatement | .futureImportStatement | .parameters => false
  | k => isOperandKind k

def isOperand (c : Concrete) : Bool := c.kind?.any isOperandKind

inductive Silent : Concrete → Prop where
  | token {t : String} {s : Span} : Silent (.token t s)
  | node {k : Kind} {r : Option Role} {s : Span} {cs : List Concrete} (other : k ≠ .call)
      (below : ∀ c ∈ cs, Silent c) : Silent (.node k r s cs)

def isBindingKind : Kind → Bool
  | .functionDefinition | .classDefinition | .decoratedDefinition | .assignment | .importStatement
  | .importFromStatement | .futureImportStatement => true
  | _ => false

inductive Idle : Concrete → Prop where
  | token {t : String} {s : Span} : Idle (.token t s)
  | node {k : Kind} {r : Option Role} {s : Span} {cs : List Concrete} (other : isBindingKind k = false)
      (below : ∀ c ∈ cs, Idle c) : Idle (.node k r s cs)

inductive Assigned : List Concrete → Prop where
  | declared {t : Concrete} (typed : t.Fresh .type) : Assigned [t]
  | valued (types : List Concrete) {v : Concrete} (typed : ∀ t ∈ types, t.Fresh .type)
      (operand : v.isOperand) : Assigned (types ++ [v.withRole .right])

def Heading (c : Concrete) : Prop :=
  (c.role? = none ∨ c.role? = some .name ∧ c.kind? = some .identifier) ∧
    (c.Silent ∨ c.Fresh .typeParameter)

inductive Bases : List Concrete → Prop where
  | none : Bases []
  | listed {c : Concrete} (kind : c.Fresh .argumentList ∨ c.Fresh .generatorExpression) :
      Bases [c.withRole .superclasses]

inductive Marked : Concrete → Concrete → Prop where
  | bare {n : Concrete} (name : n.hasKind .identifier) : Marked n n
  | starred {c n : Concrete} (kind : c.hasKind .listSplatPattern ∨ c.hasKind .dictionarySplatPattern)
      (only : c.children = [n]) (name : n.hasKind .identifier) : Marked c n

inductive Introduces : Concrete → Concrete → Prop where
  | marked {c n : Concrete} (marked : Marked c n) : Introduces c n
  | typed {c d n t : Concrete} (kind : c.hasKind .typedParameter) (parts : c.children = [d,t])
      (marked : Marked d n) (type : t.hasKind .type) : Introduces c n
  | default {c n : Concrete} (kind : c.hasKind .defaultParameter ∨ c.hasKind .typedDefaultParameter)
      (child : c.child? .name = some n) (name : n.hasKind .identifier) : Introduces c n

inductive Unpacks : Concrete → Prop where
  | pattern {c : Concrete} (kind : c.hasKind .tuplePattern) : Unpacks c
  | default {c p : Concrete} (kind : c.hasKind .defaultParameter) (child : c.child? .name = some p)
      (pattern : p.hasKind .tuplePattern) : Unpacks c

inductive IsParameter : Concrete → Prop where
  | named {c n : Concrete} (introduces : Introduces c n) : IsParameter c
  | unpacked {c : Concrete} (unpacks : Unpacks c) : IsParameter c
  | separator {c : Concrete} (kind : c.hasKind .positionalSeparator ∨ c.hasKind .keywordSeparator) :
      IsParameter c

def Fits (cs : List Concrete) : Kind → Prop
  | .parenthesizedExpression | .dictionarySplat => ∃ e : Concrete, cs = [e] ∧ e.isOperand
  | .keywordArgument => ∃ n v : Concrete, cs = [n.withRole .name,v.withRole .value] ∧ n.Silent ∧ v.isOperand
  | .attribute =>
    ∃ o a : Concrete, cs = [o.withRole .object,a.withRole .attribute] ∧ o.isOperand ∧ a.Silent
  | .call =>
    ∃ f as : Concrete, cs = [f.withRole .function,as.withRole .arguments] ∧ f.isOperand ∧ as.isOperand
  | .pair => ∃ k v : Concrete, cs = [k.withRole .key,v.withRole .value] ∧ k.isOperand ∧ v.isOperand
  | .defaultParameter | .typedDefaultParameter => ∃ (front : List Concrete) (v : Concrete),
      cs = front ++ [v.withRole .value] ∧ (∀ c ∈ front, c.role? ≠ some .value) ∧ v.isOperand
  | .assignment => ∃ (t : Concrete) (rest : List Concrete), cs = t.withRole .left :: rest ∧ t.isOperand ∧
      Assigned rest
  | .string => ∀ c ∈ cs, c.Fresh .interpolation
  | .concatenatedString => ∀ c ∈ cs, c.Fresh .string
  | .interpolation => ∃ (v : Concrete) (rest : List Concrete), cs = v.withRole .expression :: rest ∧
      v.isOperand ∧ ∀ c ∈ rest, c.Silent ∨ c.Fresh .formatSpecifier
  | .functionDefinition => ∃ (front result : List Concrete) (ps b : Concrete),
      cs = front ++ ps.withRole .parameters :: result ++ [b.withRole .body] ∧ (∀ c ∈ front, c.Heading) ∧
      ps.Fresh .parameters ∧ (∀ c ∈ result, c.Fresh .type) ∧ b.Fresh .block
  | .classDefinition => ∃ (front bases : List Concrete) (b : Concrete),
      cs = front ++ bases ++ [b.withRole .body] ∧ (∀ c ∈ front, c.Heading) ∧ Bases bases ∧ b.Fresh .block
  | .decoratedDefinition => ∃ (ds : List Concrete) (d : Concrete), cs = ds ++ [d.withRole .definition] ∧
      (∀ c ∈ ds, c.Fresh .decorator) ∧ (d.Fresh .classDefinition ∨ d.Fresh .functionDefinition)
  | .decorator => ∀ c ∈ cs, c.Idle
  | .parameters => ∀ c ∈ cs, c.IsParameter
  | .argumentList | .generatorExpression | .list | .set | .tuple | .expressionList | .patternList
  | .listPattern | .tuplePattern | .expressionStatement => ∀ c ∈ cs, c.isOperand
  | .comparisonOperator => ∀ c ∈ cs, c.isNamed → c.isOperand
  | .integer | .float | .identifier | .true | .false | .none | .ellipsis => cs = []
  | .importStatement | .importFromStatement | .futureImportStatement => ∀ c ∈ cs, c.Silent
  | _ => True

inductive Regular : Concrete → Prop where
  | token {t : String} {s : Span} : Regular (.token t s)
  | node {k : Kind} {r : Option Role} {s : Span} {cs : List Concrete} (fits : Fits cs k)
      (below : ∀ c ∈ cs, Regular c) : Regular (.node k r s cs)

structure Settled (c : Concrete) : Prop where
  regular : c.Regular
  idle : c.Idle

structure Part (c : Concrete) : Prop extends Settled c where
  operand : c.isOperand

structure Made (k : Kind) (c : Concrete) : Prop where
  fresh : c.Fresh k
  regular : c.Regular

structure Inert (k : Kind) (c : Concrete) : Prop extends Settled c where
  fresh : c.Fresh k

structure Bare (k : Kind) (c : Concrete) : Prop extends Inert k c where
  silent : c.Silent

section Roles
variable {c : Concrete} {k : Kind}

theorem Regular.withRole (h : c.Regular) (r : Role) : (c.withRole r).Regular := by
  cases h with
  | token => exact .token
  | node fits below => exact .node fits below

theorem Silent.withRole (h : c.Silent) (r : Role) : (c.withRole r).Silent := by
  cases h with
  | token => exact .token
  | node other below => exact .node other below

theorem Idle.withRole (h : c.Idle) (r : Role) : (c.withRole r).Idle := by
  cases h with
  | token => exact .token
  | node other below => exact .node other below

theorem Settled.withRole (h : c.Settled) (r : Role) : (c.withRole r).Settled :=
  ⟨h.regular.withRole r,h.idle.withRole r⟩

theorem Settled.node {r : Option Role} {s : Span} {cs : List Concrete} (other : isBindingKind k = false)
    (fits : Fits cs k) (below : ∀ c ∈ cs, c.Settled) : (Concrete.node k r s cs).Settled :=
  ⟨.node fits fun c mem => (below c mem).regular,.node other fun c mem => (below c mem).idle⟩

theorem Idle.children (h : c.Idle) : ∀ d ∈ c.children, d.Idle := by
  cases h with
  | token => exact nofun
  | node _ below => exact below

theorem operandWithRole (h : c.isOperand) (r : Role) : (c.withRole r).isOperand := by
  simpa only [isOperand,kindWithRole] using h

theorem Part.withRole (h : c.Part) (r : Role) : (c.withRole r).Part :=
  ⟨h.toSettled.withRole r,operandWithRole h.operand r⟩

theorem Regular.fits (h : c.Regular) (kind : c.kind? = some k) : Fits c.children k := by
  cases h with
  | token => cases kind
  | node fits _ =>
    cases kind
    exact fits

theorem Regular.children (h : c.Regular) : ∀ d ∈ c.children, d.Regular := by
  cases h with
  | token => exact nofun
  | node _ below => exact below

theorem Settled.children (h : c.Settled) : ∀ d ∈ c.children, d.Settled :=
  fun d mem => ⟨h.regular.children d mem,h.idle.children d mem⟩

theorem operandOfKind (kind : c.kind? = some k) (operand : isOperandKind k = true) : c.isOperand := by
  simpa [isOperand,kind] using operand

theorem Inert.part (h : c.Inert k) (operand : isOperandKind k = true) : c.Part :=
  ⟨h.toSettled,operandOfKind h.fresh.1 operand⟩

theorem looseFits (loose : isLoose k = true) {cs : List Concrete} (parts : ∀ c ∈ cs, c.isOperand) :
    Fits cs k := by
  cases k
  case comparisonOperator => exact fun c mem _ => parts c mem
  all_goals first
    | exact trivial
    | exact parts
    | cases loose

theorem looseIdle (loose : isLoose k = true) : isBindingKind k = false := by
  cases k
  all_goals first
    | rfl
    | cases loose

theorem Part.node (loose : isLoose k = true) {r : Option Role} {s : Span} {cs : List Concrete}
    (parts : ∀ c ∈ cs, c.Part) : (Concrete.node k r s cs).Part := by
  have fits := looseFits loose fun c mem => (parts c mem).operand
  refine ⟨.node (looseIdle loose) fits fun c mem => (parts c mem).toSettled,?_⟩
  cases k
  case block => cases loose
  case expressionStatement => cases loose
  case type => cases loose
  case formatSpecifier => cases loose
  all_goals rfl

end Roles
end Concrete

open Concrete

def GivesPart (p : Parser Concrete) : Prop := Always p Part

def GrowsPart (p : Parser (Option Concrete)) : Prop := Always p fun o => ∀ c, o = some c → c.Part

def GivesParts (p : Parser (List Concrete)) : Prop := Always p fun cs => ∀ c ∈ cs, c.Part

structure ReadsRegular (r : Reader) : Prop where
  expression : ∀ strength, GivesPart (r (.expression strength))
  operand : ∀ strength, GivesPart (r (.operand strength))
  clause : GivesPart (r .clause)
  typeForm : ∀ bounded, Always (r (.typeForm bounded)) (Inert .type)
  casePattern : GivesPart (r .casePattern)
  suite : Always (r .suite) (Made .block)

namespace Each
variable {α : Type} {Q : α → Prop} {a : α} {as bs : List α}

theorem one (h : Q a) : ∀ b ∈ [a], Q b := List.forall_mem_singleton.mpr h

theorem cons (first : Q a) (rest : ∀ b ∈ as, Q b) : ∀ b ∈ a :: as, Q b :=
  List.forall_mem_cons.mpr ⟨first,rest⟩

theorem append (first : ∀ a ∈ as, Q a) (rest : ∀ b ∈ bs, Q b) : ∀ c ∈ as ++ bs, Q c :=
  List.forall_mem_append.mpr ⟨first,rest⟩

end Each

namespace Always
open ConventionLint.Grammar.Parser
open Each (one cons)
variable {α β : Type} {p q : Parser α} {P Q : α → Prop} {R : β → Prop}

theorem throw {e : Failure} : Always (throw e : Parser α) Q := by
  intro s a t ok
  cases ok

theorem both (hp : Always p P) (hq : Always p Q) : Always p fun a => P a ∧ Q a :=
  fun s a t ok => ⟨hp s a t ok,hq s a t ok⟩

theorem either (hp : Always p Q) (hq : Always q Q) : Always (either p q) Q := by
  intro s a t ok
  unfold Parser.either at ok
  cases first : p s with
  | ok x =>
    simp only [first] at ok
    cases ok
    exact hp s a t first
  | error e =>
    cases second : q s with
    | ok x =>
      simp only [first,second] at ok
      cases ok
      exact hq s a t second
    | error e' => simp [first,second] at ok

theorem single (hp : Always p Q) : Always (do return [← p]) fun as => ∀ a ∈ as, Q a :=
  hp.bind fun _ h => .pure (one h)

theorem present (hp : Always p Q) : Always (do return some (← p)) fun o => ∀ a, o = some a → Q a :=
  hp.bind fun _ h => .pure fun _ same => Option.some.inj same ▸ h

theorem nothing : Always (Pure.pure none : Parser (Option α)) fun o => ∀ a, o = some a → Q a := .pure nofun

theorem empty : Always (Pure.pure [] : Parser (List α)) fun as => ∀ a ∈ as, Q a := .pure nofun

theorem whenNext {l : Lexeme} (hp : Always p Q) :
    Always (do if ← isNext l then return some (← p) else return none) fun o => ∀ a, o = some a → Q a :=
  after fun _ => .ite (present hp) nothing

theorem further (hp : Always p Q) : Always (some <$> p) fun o => ∀ a, o = some a → Q a :=
  hp.map fun _ h _ same => Option.some.inj same ▸ h

theorem presentAll {as : List (Option α)} (all : ∀ o ∈ as, ∀ a, o = some a → Q a) :
    ∀ a ∈ as.filterMap id, Q a := by
  intro a mem
  obtain ⟨o,ho,same⟩ := List.mem_filterMap.mp mem
  exact all o ho a same

theorem commaSeparated (hp : Always p Q) : Always (commaSeparated p) fun as => ∀ a ∈ as, Q a := by
  refine hp.bind fun a ha => .bind (.many ?_) fun as has => .pure (cons ha has)
  exact after fun _ => .ite (present hp) nothing

theorem ended : Always (Pure.pure (some none) : Parser (Option (Option α))) fun o =>
    ∀ b, o = some b → ∀ a, b = some a → Q a :=
  .pure fun _ same => Option.some.inj same ▸ nofun

theorem another (hp : Always p Q) : Always (do return some (some (← p))) fun o =>
    ∀ b, o = some b → ∀ a, b = some a → Q a :=
  hp.bind fun _ h => .pure fun _ same _ same' => Option.some.inj ((Option.some.inj same).trans same') ▸ h

theorem commaList {stops : Option Lexeme → Bool} (hp : Always p Q) :
    Always (commaList p stops) fun x => ∀ a ∈ x.1, Q a := by
  refine hp.bind fun a ha => .bind (.many (Q := fun o => ∀ a, o = some a → Q a) ?_) fun os all => ?_
  · exact after fun _ => .ite (after fun _ => after fun _ => .ite ended (another hp)) nothing
  · exact .pure (cons ha (presentAll all))

theorem separated {w : String} {ends : Parser Bool} (hp : Always p Q) :
    Always (Parser.many do
      if ← accept (.symbol w) then
        if ← ends then return some none else return some (some (← p))
      else return none) fun os => ∀ o ∈ os, ∀ a, o = some a → Q a :=
  .many (after fun _ => .ite (after fun _ => .ite ended (another hp)) nothing)

theorem orEmpty {c : Prop} [Decidable c] {g : α → α} {f : List α → Parser β} (hp : Always p P)
    (hg : ∀ a, P a → Q (g a)) (hf : ∀ as, (∀ a ∈ as, Q a) → Always (f as) R) :
    Always (if c then p >>= fun a => Pure.pure [g a] >>= f else Pure.pure [] >>= f) R :=
  .ite (hp.bind fun a h => .bind (.pure (one (hg a h))) hf)
    (.bind (.pure nofun) hf)

theorem made {k : Kind} {p : Parser (List Concrete)} (hp : Always p fun cs => Fits cs k ∧ ∀ c ∈ cs, c.Regular) :
    Always (node k p) (Made k) :=
  after fun _ => hp.bind fun _ h => after fun _ => .pure ⟨⟨rfl,rfl⟩,.node h.1 h.2⟩

theorem inert {k : Kind} {p : Parser (List Concrete)} (other : isBindingKind k = false)
    (hp : Always p fun cs => Fits cs k ∧ ∀ c ∈ cs, c.Settled) : Always (node k p) (Inert k) :=
  after fun _ => hp.bind fun _ h => after fun _ => .pure ⟨.node other h.1 h.2,⟨rfl,rfl⟩⟩

theorem inertFurther {k : Kind} {c : Concrete} {p : Parser (List Concrete)}
    (other : isBindingKind k = false) (first : c.Settled)
    (hp : Always p fun cs => Fits (c :: cs) k ∧ ∀ d ∈ cs, d.Settled) : Always (extend k c p) (Inert k) :=
  hp.bind fun _ h => after fun _ => .pure ⟨.node other h.1 (cons first h.2),⟨rfl,rfl⟩⟩

theorem leaf {k : Kind} (fits : Fits [] k) (other : k ≠ .call) (idle : isBindingKind k = false) :
    Always (leaf k) (Bare k) :=
  after fun _ => .bind (P := fun cs => cs = []) (after fun _ => .pure rfl) fun _ none => after fun _ =>
    .pure (none ▸ ⟨⟨.node idle fits nofun,⟨rfl,rfl⟩⟩,.node other nofun⟩)

end Always

namespace GivesPart
open ConventionLint.Grammar.Parser
open Always (after)
variable {k : Kind} {c : Concrete} {p : Parser (List Concrete)}

theorem node (loose : isLoose k = true) (hp : GivesParts p) : GivesPart (node k p) :=
  after fun _ => Always.bind hp fun _ parts => after fun _ => .pure (.node loose parts)

theorem extend (loose : isLoose k = true) (first : c.Part) (hp : GivesParts p) :
    GivesPart (extend k c p) :=
  Always.bind hp fun _ parts => after fun _ => .pure (.node loose (Each.cons first parts))

theorem closed {w : String} {start : Position} {cs : List Concrete} (loose : isLoose k = true)
    (parts : ∀ c ∈ cs, c.Part) : GivesPart (do
      let _ ← symbol w
      return Concrete.node k none ⟨start,(← get).last⟩ cs) :=
  after fun _ => after fun _ => .pure (.node loose parts)

theorem laid {start : Position} {cs : List Concrete} (loose : isLoose k = true)
    (parts : ∀ c ∈ cs, c.Part) : GivesPart (do
      return Concrete.node k none ⟨start,(← get).last⟩ cs) :=
  after fun _ => .pure (.node loose parts)

end GivesPart
end ConventionLint.Grammar
