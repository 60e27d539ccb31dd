import Mathlib.Data.List.Nodup
import ConventionLint.Check.Run
import ConventionLint.Rule.Preset

/-! What is switched off is left out afterwards. All that checkers say about a file is one list; a choice
of checkers, a configuration and the pragmas of the file only take diagnostics out of that list and set
severities. It makes no difference that checkers may be silenced before they say something. -/
namespace ConventionLint

namespace Config

def unrestricted (c : Config) : Config :=
  { c with
    disabled := []
    checkers := c.checkers.map fun e => (e.1,{ e.2 with enabled := none, severity := none }) }

variable (c : Config) (name symbol code : String)

theorem unrestrictedChecker : c.unrestricted.checker? name =
    (c.checker? name).map fun s => { s with enabled := none, severity := none } := by
  simp only [checker?,unrestricted,List.find?_map,Option.map_map]
  rfl

@[simp] theorem unrestrictedEnabled : c.unrestricted.isCheckerEnabled name = true := by
  simp only [isCheckerEnabled,unrestrictedChecker]
  cases c.checker? name <;> rfl

@[simp] theorem unrestrictedSeverity : c.unrestricted.severityOf? name = none := by
  simp only [severityOf?,unrestrictedChecker]
  cases c.checker? name <;> rfl

@[simp] theorem unrestrictedMessage : c.unrestricted.isMessageEnabled symbol code = true := rfl

end Config

namespace Rule

theorem allUnrestricted (c : Config) : all c.unrestricted = all c := by
  have parents : ParentCall.ofSettings (c.unrestricted.checker? "unit-test-super-checker") =
      ParentCall.ofSettings (c.checker? "unit-test-super-checker") := by
    rw [Config.unrestrictedChecker]
    cases c.checker? "unit-test-super-checker" <;> rfl
  have bases : RequiredBase.ofSettings (c.unrestricted.checker? "required-base-class-checker") =
      RequiredBase.ofSettings (c.checker? "required-base-class-checker") := by
    rw [Config.unrestrictedChecker]
    cases c.checker? "required-base-class-checker" <;> rfl
  have records : VisitRecord.ofSettings (c.unrestricted.checker? "module-tracing-checker") =
      VisitRecord.ofSettings (c.checker? "module-tracing-checker") := by
    rw [Config.unrestrictedChecker]
    cases c.checker? "module-tracing-checker" <;> rfl
  simp only [all,recommended,parents,bases,records]

theorem allNames (c : Config) : ((all c).map Check.Checker.name).Nodup := by
  have names : (all c).map Check.Checker.name = (all .default).map Check.Checker.name := rfl
  rw [names]
  decide

end Rule

namespace Check
open Report (Diagnostic Message)

section Silenced
variable {σ : Type} {keep : Note → Bool}

def Handler.silenced (keep : Note → Bool) (h : Handler σ) : Handler σ :=
  { h with run := fun f i s => ((h.run f i s).1,(h.run f i s).2.filter keep) }

def Checker.silenced (keep : Note → Bool) (c : Checker) : Checker :=
  { c with handlers := c.handlers.map (Handler.silenced keep) }

theorem reactSilenced (f : File) (i : Tree.NodeId) (hs : List (Handler σ)) (s : σ) :
    Checker.react f i (hs.map (Handler.silenced keep)) s =
      ((Checker.react f i hs s).1,(Checker.react f i hs s).2.filter keep) := by
  induction hs generalizing s with
  | nil => rfl
  | cons h hs ih => simp [Checker.react,Handler.silenced,ih]

theorem notesOfSilenced (handlers : List (Tree.NodeKind × Handler σ)) (f : File) (vs : List Visit)
    (s : σ) : Checker.notesOf (handlers.map fun e => (e.1,e.2.silenced keep)) f vs s =
      (Checker.notesOf handlers f vs s).filter keep := by
  induction vs generalizing s with
  | nil => rfl
  | cons v vs ih =>
    have chosen : ((handlers.map fun e => (e.1,e.2.silenced keep)).filter fun e =>
        e.2.phase == v.phase && e.1 == f.tree.kind v.node).map Prod.snd =
        ((handlers.filter fun e => e.2.phase == v.phase && e.1 == f.tree.kind v.node).map
          Prod.snd).map (Handler.silenced keep) := by
      rw [List.filter_map,List.map_map,List.map_map]
      rfl
    simp only [Checker.notesOf,chosen,reactSilenced,ih,List.filter_append]

theorem Checker.notesSilenced (c : Checker) (f : File) :
    (c.silenced keep).notes f = (c.notes f).filter keep := by
  have resolved : (c.silenced keep).resolved = c.resolved.map fun e => (e.1,e.2.silenced keep) := by
    simp only [Checker.resolved,Checker.silenced,List.filterMap_map,List.map_filterMap]
    refine List.filterMap_congr fun h _ => ?_
    simp only [Function.comp_apply,Handler.kind?,Handler.silenced,Option.map_map]
    rfl
  rw [Checker.notes,resolved]
  exact notesOfSilenced c.resolved f (walk f.tree) c.initial

end Silenced

/-- A run with suppressions that need not be those of the file. -/
def runWithin (config : Config) (suppressions : List Comment.Suppression) (checkers : List Checker)
    (f : File) : Result :=
  let noted := (enabled config checkers).map fun c => (c.name,c.notes f)
  let diagnostics := noted.flatMap fun (name,notes) =>
    ((rawDiagnostics f name notes).filter (isWanted config suppressions)).map (withSeverity config)
  ⟨diagnostics,noted.flatMap fun (_,notes) => notes.filterMap Note.record?⟩

theorem runIsWithin (config : Config) (checkers : List Checker) (f : File) :
    run config checkers f = runWithin config (Comment.Suppression.ofText f.text) checkers f := rfl

def everything (checkers : List Checker) (f : File) : List Diagnostic :=
  checkers.flatMap fun c => rawDiagnostics f c.name (c.notes f)

section Filters
variable {config : Config} {suppressions : List Comment.Suppression} {checkers chosen : List Checker}
  {f : File} {d : Diagnostic}

theorem rawChecker {name : String} {notes : List Note} (mem : d ∈ rawDiagnostics f name notes) :
    d.checker = name := by
  obtain ⟨n,_,found⟩ := List.mem_filterMap.mp mem
  obtain ⟨x,_,rfl⟩ := Option.map_eq_some_iff.mp found
  rfl

def isFrom (checkers : List Checker) (d : Diagnostic) : Bool :=
  (checkers.map Checker.name).contains d.checker

theorem everythingChecker (mem : d ∈ everything checkers f) : d.checker ∈ checkers.map Checker.name := by
  obtain ⟨c,listed,raised⟩ := List.mem_flatMap.mp mem
  exact List.mem_map.mpr ⟨c,listed,(rawChecker raised).symm⟩

theorem everythingFile (mem : d ∈ everything checkers f) : d.location.file = f.relative.toString := by
  obtain ⟨c,_,raised⟩ := List.mem_flatMap.mp mem
  obtain ⟨n,_,found⟩ := List.mem_filterMap.mp raised
  obtain ⟨x,_,rfl⟩ := Option.map_eq_some_iff.mp found
  obtain ⟨m,place,args⟩ := x
  cases place <;> rfl

theorem everythingOfSome (sub : chosen.Sublist checkers) (names : (checkers.map Checker.name).Nodup) :
    everything chosen f = (everything checkers f).filter (isFrom chosen) := by
  induction sub with
  | slnil => rfl
  | @cons chosen checkers c sub ih =>
    obtain ⟨fresh,names⟩ := List.nodup_cons.mp names
    have nothing : (rawDiagnostics f c.name (c.notes f)).filter (isFrom chosen) = [] := by
      refine List.filter_eq_nil_iff.mpr fun d mem => ?_
      have other : d.checker ∉ chosen.map Checker.name :=
        fun listed => fresh (rawChecker mem ▸ (sub.map Checker.name).subset listed)
      simpa [isFrom] using other
    rw [ih names,everything,everything,List.flatMap_cons,List.filter_append,nothing,List.nil_append]
  | @cons_cons chosen checkers c sub ih =>
    obtain ⟨fresh,names⟩ := List.nodup_cons.mp names
    have own : (rawDiagnostics f c.name (c.notes f)).filter (isFrom (c :: chosen)) =
        rawDiagnostics f c.name (c.notes f) :=
      List.filter_eq_self.mpr fun d mem => by simp [isFrom,rawChecker mem]
    have others : (everything checkers f).filter (isFrom (c :: chosen)) =
        (everything checkers f).filter (isFrom chosen) := by
      refine List.filter_congr fun d mem => ?_
      have apart : d.checker ≠ c.name := fun same => fresh (same ▸ everythingChecker mem)
      simp [isFrom,apart]
    have split (cs : List Checker) :
        everything (c :: cs) f = rawDiagnostics f c.name (c.notes f) ++ everything cs f := rfl
    rw [split,split,List.filter_append,own,others,ih names]

theorem diagnosticsWithin : (runWithin config suppressions checkers f).diagnostics =
    ((everything checkers f).filter fun d =>
      config.isCheckerEnabled d.checker && isWanted config suppressions d).map (withSeverity config) := by
  simp only [runWithin,enabled,everything,List.flatMap_map]
  induction checkers with
  | nil => rfl
  | cons c checkers ih =>
    have own : (rawDiagnostics f c.name (c.notes f)).filter (fun d =>
        config.isCheckerEnabled d.checker && isWanted config suppressions d) =
        (rawDiagnostics f c.name (c.notes f)).filter fun d =>
          config.isCheckerEnabled c.name && isWanted config suppressions d :=
      List.filter_congr fun d mem => by rw [rawChecker mem]
    rw [List.flatMap_cons,List.filter_append,List.map_append,← ih,own]
    cases on : config.isCheckerEnabled c.name <;> simp [on]

theorem recordsWithin : (runWithin config suppressions checkers f).records =
    (enabled config checkers).flatMap fun c => (c.notes f).filterMap Note.record? := by
  simp only [runWithin,List.flatMap_map]

theorem diagnosticsUnrestricted :
    (runWithin config.unrestricted suppressions checkers f).diagnostics = (everything checkers f).filter
      fun d => !Comment.isSuppressed suppressions d.location.line d.symbol d.code := by
  have kept : withSeverity config.unrestricted = id := by
    funext d
    simp [withSeverity]
  simp [diagnosticsWithin,isWanted,kept]

theorem filtersUnrestricted (sub : chosen.Sublist checkers) (names : (checkers.map Checker.name).Nodup) :
    (runWithin config suppressions chosen f).diagnostics =
      ((runWithin config.unrestricted [] checkers f).diagnostics.filter fun d =>
        isFrom chosen d && config.isCheckerEnabled d.checker && isWanted config suppressions d).map
          (withSeverity config) := by
  rw [diagnosticsWithin,everythingOfSome sub names,diagnosticsUnrestricted,List.filter_filter,
    List.filter_filter]
  congr 1
  refine List.filter_congr fun d _ => ?_
  rw [Bool.and_comm,← Bool.and_assoc]
  simp [Comment.isSuppressed]

theorem filtersUnsuppressed (sub : chosen.Sublist checkers) (names : (checkers.map Checker.name).Nodup) :
    (runWithin config suppressions chosen f).diagnostics =
      ((runWithin config.unrestricted suppressions checkers f).diagnostics.filter fun d =>
        isFrom chosen d && config.isCheckerEnabled d.checker &&
          config.isMessageEnabled d.symbol d.code).map (withSeverity config) := by
  rw [diagnosticsWithin,everythingOfSome sub names,diagnosticsUnrestricted,List.filter_filter,
    List.filter_filter]
  congr 1
  refine List.filter_congr fun d _ => ?_
  rw [isWanted,Bool.and_comm]
  simp only [Bool.and_assoc]

theorem filtersChoice (sub : chosen.Sublist checkers) (names : (checkers.map Checker.name).Nodup) :
    (runWithin config suppressions chosen f).diagnostics =
      (runWithin config suppressions checkers f).diagnostics.filter (isFrom chosen) := by
  have kept : isFrom chosen ∘ withSeverity config = isFrom chosen := by
    funext d
    simp only [Function.comp_apply,withSeverity]
    split <;> rfl
  rw [diagnosticsWithin,diagnosticsWithin,everythingOfSome sub names,List.filter_map,kept,
    List.filter_filter,List.filter_filter]
  congr 1
  exact List.filter_congr fun d _ => Bool.and_comm _ _

end Filters

def isLet (config : Config) (n : Note) : Bool :=
  n.finding?.all fun x => config.isMessageEnabled x.message.symbol x.message.code

section Silence
variable (config : Config) (suppressions : List Comment.Suppression) (f : File)

theorem rawSilenced (name : String) (notes : List Note) :
    (rawDiagnostics f name (notes.filter (isLet config))).filter (isWanted config suppressions) =
      (rawDiagnostics f name notes).filter (isWanted config suppressions) := by
  rw [rawDiagnostics,rawDiagnostics,List.filterMap_filter,List.filter_filterMap,List.filter_filterMap]
  refine List.filterMap_congr fun n _ => ?_
  cases n with
  | visited r => rfl
  | finding x =>
    cases on : config.isMessageEnabled x.message.symbol x.message.code with
    | true => simp [isLet,Note.finding?,on]
    | false =>
      have unwanted : isWanted config suppressions (x.diagnostic name f) = false := by
        simp [isWanted,Finding.diagnostic,Diagnostic.ofMessage,on]
      simp [isLet,Note.finding?,on,Option.filter,unwanted]

theorem recordsSilenced (notes : List Note) :
    (notes.filter (isLet config)).filterMap Note.record? = notes.filterMap Note.record? := by
  rw [List.filterMap_filter]
  refine List.filterMap_congr fun n _ => ?_
  cases n with
  | visited r => rfl
  | finding x => simp [Note.record?]

theorem runSilenced (checkers : List Checker) :
    run config (checkers.map (Checker.silenced (isLet config))) f = run config checkers f := by
  have chosen : enabled config (checkers.map (Checker.silenced (isLet config))) =
      (enabled config checkers).map (Checker.silenced (isLet config)) := by
    rw [enabled,List.filter_map]
    rfl
  have notes (c : Checker) : (c.silenced (isLet config)).notes f = (c.notes f).filter (isLet config) :=
    c.notesSilenced f
  have name (c : Checker) : (c.silenced (isLet config)).name = c.name := rfl
  simp only [run,chosen,List.flatMap_map,notes,name,rawSilenced,recordsSilenced]

end Silence

end Check

end ConventionLint
