import Mathlib.Data.List.Induction
import ConventionLint.Check.Registry
import ConventionLint.Proofs.List

/-! When checkers go together. What is wrong with them is told by the first one at which something is
wrong: a type of nodes that does not exist, then a name or a key of a message that is taken. -/
namespace ConventionLint

namespace Tree.NodeKind

def Spells (s : String) (k : NodeKind) : Prop := (lowered s,k) ∈ table

instance (s : String) (k : NodeKind) : Decidable (Spells s k) := inferInstanceAs (Decidable (_ ∈ table))

theorem spellsIff {s : String} {k : NodeKind} : Spells s k ↔ ofName? s = some k := by
  have own : ∀ e ∈ table, table.find? (fun d => d.1 == e.1) = some e := by decide
  constructor
  · intro listed
    exact congrArg (Option.map Prod.snd) (own _ listed)
  · intro found
    obtain ⟨e,first,rfl⟩ := Option.map_eq_some_iff.mp found
    have same : e.1 = lowered s := by simpa using List.find?_some first
    rw [Spells,← same]
    exact List.mem_of_find?_eq_some first

end Tree.NodeKind

namespace Check
open ConventionLint.Tree (NodeKind)
open RegistrationError

def Handler.Known {σ : Type} (h : Handler σ) : Prop := ∃ k, NodeKind.Spells h.nodeType k

def Checker.Uses (c : Checker) (key : String) : Prop := ∃ m ∈ c.messages, key = m.code ∨ key = m.symbol

structure Checker.GoesWith (c d : Checker) : Prop where
  names : c.name ≠ d.name
  keys : ∀ key, c.Uses key → ¬ d.Uses key

def Known (checkers : List Checker) : Prop := ∀ c ∈ checkers, ∀ h ∈ c.handlers, h.Known

def Together (checkers : List Checker) : Prop := checkers.Pairwise Checker.GoesWith

theorem togetherIff {checkers : List Checker} : Together checkers ↔ (checkers.map Checker.name).Nodup ∧
    checkers.Pairwise fun c d => ∀ key, c.Uses key → ¬ d.Uses key := by
  rw [List.Nodup,List.pairwise_map,← List.pairwise_and_iff]
  exact ⟨.imp fun goes => ⟨goes.names,goes.keys⟩,.imp fun goes => ⟨goes.1,goes.2⟩⟩

inductive Fault : List Checker → RegistrationError → Prop where
  | unknown {front rest : List Checker} {c : Checker} {before after : List (Handler c.State)}
      {h : Handler c.State} (known : Known front) (order : c.handlers = before ++ h :: after)
      (own : ∀ g ∈ before, g.Known) (unknown : ¬ h.Known) :
      Fault (front ++ c :: rest) (unknownNodeType c.name h.phase h.nodeType)
  | name {front rest : List Checker} {c : Checker} (known : Known (front ++ c :: rest))
      (together : Together front) (taken : c.name ∈ front.map Checker.name) :
      Fault (front ++ c :: rest) (duplicateChecker c.name)
  | key {front rest : List Checker} {c d : Checker} {key : String} {before after : List String}
      (known : Known (front ++ c :: rest)) (together : Together front)
      (fresh : c.name ∉ front.map Checker.name)
      (order : c.messages.flatMap Registry.keys = before ++ key :: after)
      (free : ∀ k ∈ before, ∀ e ∈ front, ¬ e.Uses k) (earlier : d ∈ front) (uses : d.Uses key) :
      Fault (front ++ c :: rest) (duplicateMessage key d.name c.name)

namespace Registry

section Types
variable {σ : Type} {h : Handler σ} {c : Checker} {cs : List Checker}

theorem knownIff : h.Known ↔ h.kind?.isSome := by
  simp only [Handler.Known,NodeKind.spellsIff,Handler.kind?,Option.isSome_iff_exists]

theorem unknownTypeNone : unknownType? c = none ↔ ∀ h ∈ c.handlers, h.Known := by
  simp [unknownType?,knownIff,Option.isNone_iff_eq_none,Option.isSome_iff_ne_none]

theorem unknownTypesNone : cs.findSome? unknownType? = none ↔ Known cs := by
  simp only [List.findSome?_eq_none_iff,unknownTypeNone,Known]

theorem unknownTypeFirst {before after : List (Handler c.State)} {h : Handler c.State}
    (order : c.handlers = before ++ h :: after) (own : ∀ g ∈ before, g.Known) (unknown : ¬ h.Known) :
    unknownType? c = some (unknownNodeType c.name h.phase h.nodeType) := by
  have first : c.handlers.find? (fun g => g.kind?.isNone) = some h := by
    refine List.find?_eq_some_iff_append.mpr ⟨?_,before,after,order,fun g mem => ?_⟩
    · simpa [knownIff] using unknown
    · simpa [knownIff,Option.isSome_iff_ne_none] using own g mem
  rw [unknownType?,first,Option.map_some]

theorem unknownTypesFirst {front rest : List Checker} {e : RegistrationError} (known : Known front)
    (first : unknownType? c = some e) : (front ++ c :: rest).findSome? unknownType? = some e := by
  rw [List.findSome?_append,unknownTypesNone.mpr known,Option.none_or,List.findSome?_cons_of_isSome]
  · exact first
  · rw [first,Option.isSome_some]

end Types

theorem usesIff {c : Checker} {key : String} : c.Uses key ↔ key ∈ c.messages.flatMap keys := by
  simp [Checker.Uses,keys]

structure Noted (front : List Checker) (names : List String) (owners : List (String × String)) : Prop where
  names : ∀ n, n ∈ names ↔ n ∈ front.map Checker.name
  owners : ∀ k n, owners.lookup k = some n ↔ ∃ d ∈ front, d.name = n ∧ d.Uses k

section Keys
variable {checker key first : String} {ks before after : List String} {owners : List (String × String)}

def Free (checker : String) (owners : List (String × String)) (k : String) : Prop :=
  ∀ n, owners.lookup k = some n → n = checker

theorem freeCons {k : String} : Free checker ((key,checker) :: owners) k ↔ k = key ∨ Free checker owners k := by
  by_cases same : k = key
  · simp [Free,same]
  · have other : (k == key) = false := by simpa using same
    simp [Free,List.lookup_cons,other,same]

theorem takeFree (free : ∀ k ∈ ks, Free checker owners k) : ∃ more, take checker ks owners = .ok more ∧
    ∀ k n, more.lookup k = some n ↔ owners.lookup k = some n ∨ (k ∈ ks ∧ n = checker) := by
  induction ks generalizing owners with
  | nil => exact ⟨owners,rfl,by simp⟩
  | cons key ks ih =>
    obtain ⟨own,rest⟩ := List.forall_mem_cons.mp free
    cases found : owners.lookup key with
    | none =>
      obtain ⟨more,taken,same⟩ := ih fun k mem => freeCons.mpr (.inr (rest k mem))
      refine ⟨more,by rw [take,found]; exact taken,fun k n => ?_⟩
      rw [same,List.lookup_cons,List.mem_cons]
      by_cases here : k = key
      · subst here
        simp [found,eq_comm]
      · have other : (k == key) = false := by simpa using here
        simp [other,here]
    | some n =>
      obtain rfl := own n found
      obtain ⟨more,taken,same⟩ := ih rest
      refine ⟨more,by rw [take,found]; exact (if_pos rfl).trans taken,fun k m => ?_⟩
      rw [same,List.mem_cons]
      by_cases here : k = key
      · subst here
        simp [found,eq_comm]
      · simp [here]

theorem takeTaken (after : List String) (free : ∀ k ∈ before, Free checker owners k)
    (found : owners.lookup key = some first) (other : first ≠ checker) :
    take checker (before ++ key :: after) owners = .error (duplicateMessage key first checker) := by
  induction before generalizing owners with
  | nil => simp [take,found,other]
  | cons k before ih =>
    obtain ⟨own,rest⟩ := List.forall_mem_cons.mp free
    rw [List.cons_append,take]
    cases taken : owners.lookup k with
    | none =>
      have apart : (key == k) = false := by
        by_contra same
        have same : key = k := by simpa using same
        rw [same,taken] at found
        cases found
      exact ih (fun k mem => freeCons.mpr (.inr (rest k mem))) (by rw [List.lookup_cons,apart,found])
    | some n =>
      obtain rfl := own n taken
      exact (if_pos rfl).trans (ih rest found)

end Keys

section Unique
variable {front mid rest : List Checker} {c d : Checker} {names : List String}
  {owners : List (String × String)} {key : String} {before after : List String}

theorem freeBefore (noted : Noted front names owners) (unused : ∀ e ∈ front, ¬ e.Uses key) :
    Free c.name owners key := by
  intro n found
  obtain ⟨d,mem,_,uses⟩ := (noted.owners key n).mp found
  exact absurd uses (unused d mem)

theorem uniqueStep (rest : List Checker) (noted : Noted front names owners) (goes : ∀ d ∈ front, d.GoesWith c) :
    ∃ more, checkUnique names owners (c :: rest) = checkUnique (c.name :: names) more rest ∧
      Noted (front ++ [c]) (c.name :: names) more := by
  have fresh : names.contains c.name = false := by
    by_contra taken
    have mem : c.name ∈ front.map Checker.name := (noted.names _).mp (by simpa using taken)
    obtain ⟨d,hd,same⟩ := List.mem_map.mp mem
    exact (goes d hd).names same
  obtain ⟨more,taken,same⟩ := takeFree fun k (mem : k ∈ c.messages.flatMap keys) =>
    freeBefore (c := c) noted fun d hd uses => (goes d hd).keys k uses (usesIff.mpr mem)
  refine ⟨more,?_,fun n => ?_,fun k n => ?_⟩
  · simp only [checkUnique,fresh,taken,Bool.false_eq_true,if_false]
  · rw [List.mem_cons,noted.names,List.map_append,List.mem_append,List.map_singleton,
      List.mem_singleton,or_comm]
  · simp only [same,noted.owners,← usesIff,List.mem_append,List.mem_singleton,or_and_right,exists_or,
      exists_eq_left,and_comm,eq_comm (a := n)]

theorem uniqueRun (rest : List Checker) (noted : Noted front names owners) (together : Together (front ++ mid)) :
    ∃ names' owners', checkUnique names owners (mid ++ rest) = checkUnique names' owners' rest ∧
      Noted (front ++ mid) names' owners' := by
  induction mid generalizing front names owners with
  | nil => exact ⟨names,owners,rfl,by rwa [List.append_nil]⟩
  | cons c mid ih =>
    have goes : ∀ d ∈ front, d.GoesWith c := fun d hd =>
      (List.pairwise_append.mp together).2.2 d hd c List.mem_cons_self
    obtain ⟨more,step,noted⟩ := uniqueStep (mid ++ rest) noted goes
    rw [List.append_cons] at together ⊢
    obtain ⟨names',owners',run,noted⟩ := ih noted together
    exact ⟨names',owners',step.trans run,noted⟩

theorem notedStart : Noted [] [] [] := ⟨by simp,by simp⟩

theorem uniqueTogether (together : Together rest) : checkUnique [] [] rest = .ok () := by
  obtain ⟨_,_,run,_⟩ := uniqueRun [] notedStart together
  rw [List.append_nil] at run
  exact run

theorem uniqueName (together : Together front) (taken : c.name ∈ front.map Checker.name) :
    checkUnique [] [] (front ++ c :: rest) = .error (duplicateChecker c.name) := by
  obtain ⟨names,owners,run,noted⟩ := uniqueRun (c :: rest) notedStart together
  have listed : names.contains c.name = true := by simpa using (noted.names _).mpr taken
  rw [run,checkUnique,if_pos listed]

theorem uniqueKey (together : Together front) (fresh : c.name ∉ front.map Checker.name)
    (order : c.messages.flatMap keys = before ++ key :: after)
    (free : ∀ k ∈ before, ∀ e ∈ front, ¬ e.Uses k) (earlier : d ∈ front) (uses : d.Uses key) :
    checkUnique [] [] (front ++ c :: rest) = .error (duplicateMessage key d.name c.name) := by
  obtain ⟨names,owners,run,noted⟩ := uniqueRun (c :: rest) notedStart together
  have unlisted : names.contains c.name = false := by simpa [noted.names] using fresh
  have other : d.name ≠ c.name := fun same => fresh (same ▸ List.mem_map_of_mem earlier)
  have taken := takeTaken after (fun k mem => freeBefore (c := c) noted (free k mem))
    ((noted.owners key d.name).mpr ⟨d,earlier,rfl,uses⟩) other
  simp only [run,checkUnique,unlisted,order,taken,Bool.false_eq_true,if_false]

end Unique

section Validate
variable {cs : List Checker} {e : RegistrationError}

theorem validateFine (known : Known cs) (together : Together cs) : validate cs = .ok () := by
  rw [validate,unknownTypesNone.mpr known]
  exact uniqueTogether together

theorem validateFault (fault : Fault cs e) : validate cs = .error e := by
  cases fault with
  | unknown known order own unknown =>
    rw [validate,unknownTypesFirst known (unknownTypeFirst order own unknown)]
  | name known together taken =>
    rw [validate,unknownTypesNone.mpr known]
    exact uniqueName together taken
  | key known together fresh order free earlier uses =>
    rw [validate,unknownTypesNone.mpr known]
    exact uniqueKey together fresh order free earlier uses

theorem firstClash (clash : ¬ Together cs) : ∃ front c rest, cs = front ++ c :: rest ∧ Together front ∧
    ¬ ∀ d ∈ front, d.GoesWith c := by
  induction cs using List.reverseRecOn with
  | nil => exact absurd .nil clash
  | append_singleton cs c ih =>
    by_cases own : Together cs
    · refine ⟨cs,c,[],rfl,own,fun all => clash (List.pairwise_append.mpr ⟨own,?_,?_⟩)⟩
      · exact List.pairwise_singleton _ c
      · intro d hd _ same
        exact List.mem_singleton.mp same ▸ all d hd
    · obtain ⟨front,d,rest,rfl,together,bad⟩ := ih own
      exact ⟨front,d,rest ++ [c],by simp,together,bad⟩

theorem faultOfUnknown (unknown : ¬ Known cs) : ∃ e, Fault cs e := by
  obtain ⟨front,c,rest,rfl,known,wrong⟩ := firstWrong unknown
  obtain ⟨before,h,after,order,own,bad⟩ := firstWrong wrong
  exact ⟨_,.unknown known order own bad⟩

theorem faultOfClash (known : Known cs) (clash : ¬ Together cs) : ∃ e, Fault cs e := by
  obtain ⟨front,c,rest,rfl,together,bad⟩ := firstClash clash
  by_cases taken : c.name ∈ front.map Checker.name
  · exact ⟨_,.name known together taken⟩
  · have shared : ¬ ∀ k ∈ c.messages.flatMap keys, ∀ d ∈ front, ¬ d.Uses k := by
      refine fun unshared => bad fun d hd => ⟨?_,fun key uses own => unshared key (usesIff.mp own) d hd uses⟩
      exact fun same => taken (same ▸ List.mem_map_of_mem hd)
    obtain ⟨before,key,after,order,free,wrong⟩ := firstWrong shared
    push Not at wrong
    obtain ⟨d,earlier,uses⟩ := wrong
    exact ⟨_,.key known together taken order free earlier uses⟩

theorem validateOkIff : validate cs = .ok () ↔ Known cs ∧ Together cs := by
  refine ⟨fun ok => ?_,fun fine => validateFine fine.1 fine.2⟩
  have sound {e : RegistrationError} (fault : Fault cs e) : False := by
    rw [validateFault fault] at ok
    cases ok
  have known : Known cs := by
    by_contra unknown
    exact (faultOfUnknown unknown).elim fun _ => sound
  refine ⟨known,?_⟩
  by_contra clash
  exact (faultOfClash known clash).elim fun _ => sound

theorem validateErrorIff : validate cs = .error e ↔ Fault cs e := by
  refine ⟨fun failed => ?_,validateFault⟩
  have own {e' : RegistrationError} (fault : Fault cs e') : Fault cs e := by
    have same := (validateFault fault).symm.trans failed
    cases same
    exact fault
  by_cases known : Known cs
  · by_cases together : Together cs
    · rw [validateFine known together] at failed
      cases failed
    · exact (faultOfClash known together).elim fun _ => own
  · exact (faultOfUnknown known).elim fun _ => own

end Validate

end Registry

end Check

end ConventionLint
