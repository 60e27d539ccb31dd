import ConventionLint.Grammar.Compound

/-! What shape the trees have that a parser gives, wherever it runs. What is read as an operand is a node
and no bare token, and the parts of a definition have the kinds and roles that they are looked for by. -/
namespace ConventionLint.Grammar

theorem bindOk {α β : Type} {p : Parser α} {f : α → Parser β} {s u : Stream} {b : β}
    (ok : (p >>= f) s = .ok (b,u)) : ∃ a t, p s = .ok (a,t) ∧ f a t = .ok (b,u) := by
  change (Except.bind (p s) fun x => f x.1 x.2) = _ at ok
  cases first : p s with
  | error e => simp [first,Except.bind] at ok
  | ok x =>
    simp only [first,Except.bind] at ok
    exact ⟨x.1,x.2,rfl,ok⟩

def Always {α : Type} (p : Parser α) (Q : α → Prop) : Prop := ∀ s a t, p s = .ok (a,t) → Q a

def GivesNode (p : Parser Concrete) : Prop := Always p fun c => c.isNamed = true

namespace Always
open ConventionLint.Grammar.Parser
variable {α β : Type} {p q : Parser α} {P Q : α → Prop} {R : β → Prop} {f : α → Parser β}

theorem pure {a : α} (h : Q a) : Always (pure a) Q := by
  intro s b t ok
  cases ok
  exact h

theorem bind (hp : Always p P) (hf : ∀ a, P a → Always (f a) R) : Always (p >>= f) R := by
  intro s b u ok
  obtain ⟨a,t,first,second⟩ := bindOk ok
  exact hf a (hp s a t first) t b u second

theorem imp (hp : Always p P) (h : ∀ a, P a → Q a) : Always p Q := fun s a t ok => h a (hp s a t ok)

theorem after (hf : ∀ a, Always (f a) R) : Always (p >>= f) R :=
  bind (P := fun _ => True) (fun _ _ _ _ => trivial) fun a _ => hf a

theorem ite {c : Prop} [Decidable c] (hp : Always p Q) (hq : Always q Q) :
    Always (if c then p else q) Q := by
  split
  · exact hp
  · exact hq

theorem fail : Always (fail : Parser α) Q := by
  intro s a t ok
  cases ok

theorem map {g : α → β} (hp : Always p P) (hg : ∀ a, P a → R (g a)) : Always (g <$> p) R := by
  rw [map_eq_pure_bind]
  exact hp.bind fun a ha => .pure (hg a ha)

theorem many {p : Parser (Option α)} (hp : Always p fun o => ∀ a, o = some a → Q a) :
    Always (many p) fun as => ∀ a ∈ as, Q a := by
  refine after fun s => ?_
  induction s.tokens.length with
  | zero => exact pure nofun
  | succ n ih =>
    refine bind hp fun o ho => ?_
    cases o with
    | none => exact pure nofun
    | some a => exact bind ih fun as has => pure (List.forall_mem_cons.mpr ⟨ho a rfl,has⟩)

theorem grow {p : α → Parser (Option α)} (hp : ∀ a, Q a → Always (p a) fun o => ∀ b, o = some b → Q b)
    {a : α} (h : Q a) : Always (grow p a) Q := by
  refine after fun s => ?_
  induction s.tokens.length generalizing a with
  | zero => exact pure h
  | succ n ih =>
    refine bind (hp a h) fun o ho => ?_
    cases o with
    | none => exact pure h
    | some b => exact ih (ho b rfl)

end Always

def GrowsNode (p : Parser (Option Concrete)) : Prop :=
  Always p fun o => ∀ c, o = some c → c.isNamed = true

namespace GivesNode
open ConventionLint.Grammar.Parser
open Always (after)
variable {r : Reader}

theorem first {β : Type} {R : β → Prop} {p : Parser Concrete} {f : Concrete → Parser β}
    (hp : GivesNode p) (hf : ∀ c, c.isNamed = true → Always (f c) R) : Always (p >>= f) R :=
  Always.bind hp hf

theorem grown {p : Concrete → Parser (Option Concrete)} (hp : ∀ c, GrowsNode (p c)) (c : Concrete)
    (named : c.isNamed = true) : GivesNode (grow p c) := Always.grow (fun c _ => hp c) named

theorem node {k : Kind} {p : Parser (List Concrete)} : GivesNode (node k p) :=
  after fun _ => after fun _ => after fun _ => .pure rfl

theorem extend {k : Kind} {c : Concrete} {p : Parser (List Concrete)} : GivesNode (extend k c p) :=
  after fun _ => after fun _ => .pure rfl

theorem closed {w : String} {k : Kind} {start : Position} {cs : List Concrete} : GivesNode (do
    let _ ← symbol w
    return Concrete.node k none ⟨start,(← get).last⟩ cs) :=
  after fun _ => after fun _ => .pure rfl

theorem name : GivesNode name := by
  refine after fun _ => ?_
  split
  · exact .ite .fail node
  · exact .fail

theorem stringLiteral : GivesNode (stringLiteral r) := node

theorem strings : GivesNode (strings r) :=
  first stringLiteral fun _ named => after fun _ => .ite extend (.pure named)

theorem parenthesized : GivesNode (parenthesized r) := by
  refine after fun _ => after fun _ => after fun _ => .ite closed (after fun _ => after fun _ => .ite ?_ ?_)
  · exact after fun _ => closed
  · exact after fun _ => .ite closed closed

theorem bracketed : GivesNode (bracketed r) := by
  refine after fun _ => after fun _ => after fun _ => .ite closed (after fun _ => after fun _ => .ite ?_ ?_)
  · exact after fun _ => closed
  · exact after fun _ => closed

theorem braced : GivesNode (braced r) := by
  refine after fun _ => after fun _ => after fun _ => .ite closed (after fun _ => .ite ?_ ?_)
  · exact after fun _ => after fun _ => closed
  · refine after fun _ => after fun _ => .ite (after fun _ => after fun _ => ?_) (after fun _ => ?_)
    · exact .ite (after fun _ => closed) (after fun _ => closed)
    · exact .ite (after fun _ => closed) (after fun _ => closed)

theorem plainAtom : GivesNode (plainAtom r) := by
  refine after fun _ => ?_
  split
  case h_4 => exact name
  case h_7 => exact strings
  case h_9 => exact parenthesized
  case h_10 => exact bracketed
  case h_11 => exact braced
  case h_12 => exact .fail
  all_goals exact node

theorem further {k : Kind} {c : Concrete} {p : Parser (List Concrete)} :
    GrowsNode (some <$> Parser.extend k c p) :=
  Always.map extend fun _ named _ same => Option.some.inj same ▸ named

theorem trailer {e : Concrete} : GrowsNode (trailer r e) := by
  refine after fun _ => ?_
  split
  · exact further
  · exact further
  · exact further
  · exact .pure nofun

theorem splat : GivesNode (splat r) := node

theorem atom : GivesNode (atom r) :=
  after fun _ => .ite (first splat (grown fun _ => trailer)) (first plainAtom (grown fun _ => trailer))

theorem signed : GivesNode (signed r) := by
  refine after fun _ => ?_
  split
  · exact node
  · exact node
  · exact node
  · exact after fun _ => .ite node atom
  · exact atom

theorem operand {strength : Nat} : GivesNode (operand r strength) := by
  refine first signed (grown fun _ => after fun _ => ?_)
  split
  · split
    · exact .ite (.pure nofun) further
    · exact .pure nofun
  · exact .pure nofun

end GivesNode

section Definitions
open ConventionLint.Grammar.Parser
open Always (after)
variable {r : Reader}

theorem roleOfNode {c : Concrete} (named : c.isNamed = true) (role : Role) :
    (c.withRole role).role? = some role := by
  cases c with
  | token t s => cases named
  | node k r s cs => rfl

theorem patternNamed {c d : Concrete} (found : c.toPattern? = some d) : d.isNamed = true := by
  cases c with
  | token t s => simp [Concrete.toPattern?] at found
  | node k r s cs =>
    unfold Concrete.toPattern? at found
    split at found
    all_goals try exact Option.some.inj found ▸ rfl
    all_goals try
      obtain ⟨ds,_,rfl⟩ := Option.map_eq_some_iff.mp found
      rfl
    · split at found
      all_goals cases found
      all_goals rfl
    · cases found

theorem patternsNamed {cs ds : List Concrete} (found : Concrete.toPatterns? cs = some ds) :
    ∀ d ∈ ds, d.isNamed = true := by
  induction cs generalizing ds with
  | nil =>
    cases found
    exact nofun
  | cons c cs ih =>
    obtain ⟨p,ps,hp,hps,rfl⟩ := Concrete.toPatternsCons found
    exact List.forall_mem_cons.mpr ⟨patternNamed hp,ih hps⟩

def Concrete.Fresh (k : Kind) (c : Concrete) : Prop := c.kind? = some k ∧ c.role? = none

theorem freshNamed {k : Kind} {c : Concrete} (fresh : c.Fresh k) : c.isNamed = true := by
  cases c with
  | token t s => cases fresh.1
  | node k' r' s cs => rfl

theorem kindWithRole {c : Concrete} {role : Role} : (c.withRole role).kind? = c.kind? := by
  cases c <;> rfl

theorem hasKindWithRole {c : Concrete} {k : Kind} {role : Role} :
    (c.withRole role).hasKind k = c.hasKind k := by
  cases c <;> rfl

theorem kindOnly {c : Concrete} {k k' : Kind} (kind : c.hasKind k) : c.hasKind k' = (k == k') := by
  unfold Concrete.hasKind at kind ⊢
  rw [beq_iff_eq.mp kind]
  rfl

theorem kindUnique {c : Concrete} {k k' : Kind} (kind : c.hasKind k) (other : c.hasKind k') : k = k' :=
  beq_iff_eq.mp ((kindOnly kind).symm.trans other)

theorem namedOfKind {c : Concrete} {k : Kind} (kind : c.hasKind k) : c.isNamed = true := by
  cases c with
  | token t s => cases kind
  | node k' r' s cs => rfl

theorem nodeFresh {k : Kind} {p : Parser (List Concrete)} : Always (node k p) (Concrete.Fresh k) :=
  after fun _ => after fun _ => after fun _ => .pure ⟨rfl,rfl⟩

theorem asyncMarkRoles : Always asyncMark fun cs => ∀ c ∈ cs, c.role? = none :=
  after fun _ => after fun _ => .ite (after fun _ => .pure (by simp [Concrete.role?])) (.pure nofun)

theorem typeParametersRoles : Always (typeParametersIfAny r) fun cs => ∀ c ∈ cs, c.role? = none :=
  after fun _ => .ite (.bind nodeFresh fun _ fresh => .pure (by simp [fresh.2])) (.pure nofun)

theorem functionParametersFresh : Always (functionParameters r) (Concrete.Fresh .parameters) := nodeFresh

theorem definitionFresh : Always (definition r) fun c =>
    c.Fresh .classDefinition ∨ c.Fresh .functionDefinition := by
  refine after fun _ => .ite ?_ ?_
  · exact .imp nodeFresh fun _ => .inl
  · exact .imp nodeFresh fun _ => .inr

end Definitions

end ConventionLint.Grammar
