import ConventionLint.Proofs.Report.Template
import ConventionLint.Proofs.Rule.Notes
import ConventionLint.Proofs.Tree.Names

/-! How line breaks get into messages. Names, annotations and what rules say in their own words are in one
line. A break in a message stands in a piece of the program that is quoted there, or in the name of a class
that a configuration requires. -/
namespace ConventionLint

namespace Report
open Text (Unbroken)

structure Message.Plain (m : Message) : Prop where
  code : Unbroken m.code
  symbol : Unbroken m.symbol
  template : Unbroken m.template

theorem plainOf {code symbol template : List Char} {description : String}
    (unbroken : '\n' ∉ code ++ symbol ++ template) :
    (Message.mk (.ofList code) (.ofList symbol) (.ofList template) description).Plain := by
  simp only [List.mem_append,not_or] at unbroken
  exact ⟨Text.unbrokenList.mpr unbroken.1.1,Text.unbrokenList.mpr unbroken.1.2,Text.unbrokenList.mpr unbroken.2⟩

theorem Message.Plain.broken {m : Message} (plain : m.Plain) {args : List String}
    (broken : ¬Unbroken (m.render args)) : ∃ a ∈ m.placed args, ¬Unbroken a := by
  by_contra allPlain
  push Not at allPlain
  refine broken (Text.breaksZero.mp ?_)
  rw [breaksRender,Text.breaksZero.mpr plain.template,Nat.zero_add]
  exact List.sum_eq_zero_iff_forall_eq_nat.mpr
    (List.forall_mem_map.mpr fun a mem => Text.breaksZero.mpr (allPlain a mem))

end Report

namespace Rule
open Annotation (Group)
open Check (File Finding Note)
open Report (Message)
open Text (Unbroken)
open ConventionLint.Tree (NodeId)

inductive Quotes (settings : Config) (f : File) : Finding → String → Prop where
  | excerpt {m : Message} {i : NodeId} {args : List String} {s : String} (shown : Excerpt f.tree m i s) :
      Quotes settings f ⟨m,.node i,args⟩ s
  | required {i : NodeId} {args : List String} {text : String} {r : RequiredBase.Requirement}
      (configured : text ∈ RequiredBase.texts settings)
      (read : RequiredBase.Requirement.ofText? text = some r) :
      Quotes settings f ⟨RequiredBase.missingBase,.node i,args⟩ r.parent

structure Traced (settings : Config) (f : File) (x : Finding) : Prop where
  plain : x.message.Plain
  quoted : ∀ a ∈ x.args, ¬Unbroken a → ∃ s, Quotes settings f x s ∧ ¬Unbroken s ∧ s.toList <:+: a.toList

section Traced
variable {settings : Config} {f : File} {m : Message} {p : Check.Place} {args : List String} {x : Finding}

theorem tracedPlain (plain : m.Plain) (all : ∀ a ∈ args, Unbroken a) : Traced settings f ⟨m,p,args⟩ :=
  ⟨plain,fun a mem broken => absurd (all a mem) broken⟩

-- A literal is a list of characters as it stands; `toList` of one would be computed by way of its bytes.
theorem functionsUnbroken : ∀ name ∈ LocalizedText.functions, Unbroken name := by
  rw [LocalizedText.functions]
  repeat refine List.forall_mem_cons.mpr ⟨Text.unbrokenList.mpr (by decide),?_⟩
  exact List.forall_mem_nil _

theorem replacementsUnbroken : ∀ e ∈ PlainAssert.replacements, Unbroken e.1 ∧ Unbroken e.2 := by
  rw [PlainAssert.replacements]
  repeat
    refine List.forall_mem_cons.mpr ⟨⟨Text.unbrokenList.mpr (by decide),Text.unbrokenList.mpr (by decide)⟩,?_⟩
  exact List.forall_mem_nil _

theorem groupMessagesPlain : ∀ m ∈ groupMessages, m.Plain := by
  rw [groupMessages]
  repeat refine List.forall_mem_cons.mpr ⟨Report.plainOf (by decide),?_⟩
  exact List.forall_mem_nil _

theorem fixedUnbroken (fixed : Fixed m args) : m.Plain ∧ ∀ a ∈ args, Unbroken a := by
  cases fixed with
  | localized listed =>
    exact ⟨Report.plainOf (by decide),List.forall_mem_singleton.mpr (functionsUnbroken _ listed)⟩
  | range listed better =>
    have own : ∀ name ∈ RangeCall.functions, Unbroken name := by decide
    refine ⟨Report.plainOf (by decide),List.forall_mem_cons.mpr ⟨own _ listed,List.forall_mem_singleton.mpr ?_⟩⟩
    cases better <;> exact Text.unbrokenList.mpr (by decide)
  | attributeName listed =>
    have own : ∀ name ∈ ["getattr","setattr","delattr"], Unbroken name := by decide
    exact ⟨Report.plainOf (by decide),List.forall_mem_singleton.mpr (own _ listed)⟩
  | load known =>
    refine ⟨Report.plainOf (by decide),?_⟩
    unfold YamlLoad.suffix? at known
    split at known <;> cases known <;> decide
  | assertion listed =>
    obtain ⟨_,_,parts,-⟩ := List.lookup_eq_some_iff.mp listed
    have own := replacementsUnbroken _ (by
      rw [parts]
      exact List.mem_append_right _ List.mem_cons_self)
    exact ⟨Report.plainOf (by decide),List.forall_mem_cons.mpr ⟨own.1,List.forall_mem_singleton.mpr own.2⟩⟩
  | toggle => exact ⟨Report.plainOf (by decide),List.forall_mem_singleton.mpr (by decide)⟩
  | usage => exact ⟨Report.plainOf (by decide),List.forall_mem_singleton.mpr (by decide)⟩
  | bare listed =>
    simp only [missingMessages,List.mem_cons,List.not_mem_nil,or_false] at listed
    rcases listed with rfl | rfl | rfl <;> exact ⟨Report.plainOf (by decide),List.forall_mem_nil _⟩

theorem shortNameUnbroken (k : Inference.WellKnown) : Unbroken k.shortName := by cases k <;> decide +kernel

section Parsed
variable {text : List Char}

theorem nameUnbrokenOr (parsed : Tree.parse text = .ok f.tree) (i : NodeId) :
    Unbroken ((f.tree.name? i).getD "") := by
  cases named : f.tree.name? i with
  | none => decide
  | some name => exact Tree.nameUnbroken parsed named

theorem classNameUnbroken (parsed : Tree.parse text = .ok f.tree) (c : Inference.ClassId) :
    Unbroken (f.model.className c) := by
  cases c with
  | declared i => exact nameUnbrokenOr parsed i
  | wellKnown k => exact shortNameUnbroken k

theorem excerptPlain {t : Tree} {i : NodeId} {s : String} (shown : Excerpt t m i s) : m.Plain := by
  cases shown <;> exact Report.plainOf (by decide)

theorem excerptTraced {i : NodeId} {before behind s : String} (shown : Excerpt f.tree m i s)
    (front : Unbroken before) (back : Unbroken behind) : Traced settings f ⟨m,.node i,[before ++ s ++ behind]⟩ := by
  refine ⟨excerptPlain shown,List.forall_mem_singleton.mpr fun broken => ⟨s,.excerpt shown,?_,?_⟩⟩
  · simpa [front,back] using broken
  · exact ⟨before.toList,behind.toList,by simp⟩

theorem betterUnbroken {withNone : Bool} {operator better : String}
    (known : PreciseAssert.better? withNone operator = some better) : Unbroken better := by
  unfold PreciseAssert.better? at known
  split at known <;> cases known <;> cases withNone <;> decide

theorem basedTraced {i : NodeId} {name : String} {required : List String} (named : Unbroken name)
    (set : ∀ s ∈ required, ∃ text ∈ RequiredBase.texts settings, ∃ r,
      RequiredBase.Requirement.ofText? text = some r ∧ r.parent = s) :
    Traced settings f ⟨RequiredBase.missingBase,.node i,[name,", ".intercalate required]⟩ := by
  refine ⟨Report.plainOf (by decide),List.forall_mem_cons.mpr
    ⟨fun broken => absurd named broken,List.forall_mem_singleton.mpr fun broken => ?_⟩⟩
  rw [Text.unbrokenIntercalate (by decide)] at broken
  push Not at broken
  obtain ⟨s,mem,broken⟩ := broken
  obtain ⟨text,configured,r,read,rfl⟩ := set s mem
  exact ⟨r.parent,.required configured read,broken,Text.partShown mem⟩

end Parsed

theorem Noted.traced {n : Note} {text : List Char} (noted : Noted settings f n)
    (parsed : Tree.parse text = .ok f.tree) (groups : f.groups = Annotation.groupsOf text)
    (found : n = .finding x) : Traced settings f x := by
  have told {a : String} (known : ∃ g ∈ f.groups, g.Tells a) : Unbroken a := by
    obtain ⟨g,there,tells⟩ := known
    exact Annotation.toldUnbroken (groups ▸ there) tells
  have named := classNameUnbroken parsed
  cases noted with
  | fixed given =>
    cases found
    have ⟨plain,all⟩ := fixedUnbroken given
    exact tracedPlain plain all
  | method listed name =>
    cases found
    refine tracedPlain ?_ (by simpa using ⟨Tree.nameUnbroken parsed name,named _⟩)
    rcases List.mem_pair.mp listed with rfl | rfl <;> exact Report.plainOf (by decide)
  | inherited =>
    cases found
    exact tracedPlain (Report.plainOf (by decide)) (by simp [named])
  | documented listed =>
    cases found
    refine tracedPlain ?_ (by simp [named])
    simp only [List.mem_cons,List.not_mem_nil,or_false] at listed
    rcases listed with rfl | rfl | rfl <;> exact Report.plainOf (by decide)
  | based set =>
    cases found
    exact basedTraced (named _) set
  | toggleClass =>
    cases found
    exact tracedPlain (Report.plainOf (by decide)) (by simpa using nameUnbrokenOr parsed _)
  | excerpt shown =>
    cases found
    have own : Traced settings f ⟨_,.node _,["" ++ _ ++ ""]⟩ := excerptTraced shown (by decide) (by decide)
    simpa using own
  | compared shown listed known =>
    cases found
    have front : ∀ assertion ∈ ["assertTrue","assertFalse"], Unbroken (assertion ++ "(") := by decide
    have back : Unbroken ") should be " := by decide
    rw [String.append_assoc]
    exact excerptTraced shown (front _ listed) (Text.unbrokenAppend.mpr ⟨back,betterUnbroken known⟩)
  | grouped listed there _ tells =>
    cases found
    exact tracedPlain (groupMessagesPlain _ listed) fun a mem => told ⟨_,there,tells a mem⟩
  | mismatched listed given other =>
    cases found
    refine tracedPlain ?_ (by simp [told given,told other])
    rcases List.mem_pair.mp listed with rfl | rfl <;> exact Report.plainOf (by decide)
  | visited => cases found

theorem Traced.broken (traced : Traced settings f x) : ¬Unbroken (x.message.render x.args) ↔
    ∃ s, Quotes settings f x s ∧ ¬Unbroken s ∧ s.toList <:+: (x.message.render x.args).toList := by
  constructor
  · intro broken
    obtain ⟨a,placed,inside⟩ := traced.plain.broken broken
    obtain ⟨s,quotes,own,shown⟩ := traced.quoted a (List.mem_of_mem_take placed) inside
    exact ⟨s,quotes,own,shown.trans (Report.placedShown placed)⟩
  · rintro ⟨s,-,broken,shown⟩ unbroken
    exact broken fun mem => unbroken (shown.subset mem)

end Traced

end Rule

end ConventionLint
