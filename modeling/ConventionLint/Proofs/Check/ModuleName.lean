import ConventionLint.Check.File
import ConventionLint.Proofs.Storage.Grounded
import ConventionLint.Proofs.Storage.Path

/-! Which files have the same module name. The name of a module is made of the names on the way to its file, and no dot
is within them, so the name can be taken apart again. Two files share a name only if one is a module and the other one
the package of that name beside it. -/
namespace ConventionLint.Check.File
open Storage (Part Path)
open Storage.Path (counts partOf trimEnd)

def Undotted (name : String) : Prop := name ≠ "" ∧ '.' ∉ name.toList

instance (name : String) : Decidable (Undotted name) := inferInstanceAs (Decidable (_ ∧ _))

structure IsSource (p : Path) (dirs : List String) (stem : String) : Prop where
  parts : p.parts = dirs.map .name ++ [.name (stem ++ ".py")]
  dirs : ∀ d ∈ dirs, Undotted d
  stem : Undotted stem

def Beside (p q : Path) : Prop := ∃ dirs name, name ≠ "__init__" ∧
  p.parts = dirs.map .name ++ [.name (name ++ ".py")] ∧
  q.parts = (dirs ++ [name]).map .name ++ [.name ("__init__" ++ ".py")]

variable {p q : Path} {ds es : List String} {s u : String}

theorem splitSource (undotted : Undotted s) : Path.splitName (s ++ ".py") = (s,some "py") := by
  have cut : (s ++ ".py").toList.splitOn '.' = [s.toList,['p','y']] := by
    rw [String.toList_append,show ".py".toList = '.' :: ['p','y'] from rfl,
      List.splitOn_append_cons_self_of_not_mem undotted.2]
    rfl
  have nonempty : s.toList ≠ [] := by simpa using undotted.1
  rw [Path.splitName,Storage.splitByOn,cut]
  simp [Text.joinWith,nonempty]

def namesAmong (pieces : List String) : List String := (pieces.filter counts).filterMap fun s => nameOf? (partOf s)

theorem namesOfParts (p : Path) : p.parts.filterMap nameOf? = namesAmong p.pieces := by
  have start : p.start.filterMap nameOf? = [] := by
    unfold Path.start
    split
    · rfl
    · split <;> rfl
  rw [Path.parts,List.filterMap_append,start,List.nil_append,List.filterMap_map]
  rfl

theorem countsUndotted (undotted : Undotted s) : counts s = true ∧ partOf s = .name s := by
  have one : s ≠ "." := fun same => undotted.2 (by simp [same])
  have two : s ≠ ".." := fun same => undotted.2 (by simp [same])
  exact ⟨by simp [counts,undotted.1,one],Path.partOfName two⟩

theorem namesConcat {before : List String} {name : String} (busy : counts name = true) :
    namesAmong (before ++ [name]) = namesAmong before ++ (nameOf? (partOf name)).toList := by
  rw [namesAmong,List.filter_append,List.filter_singleton,busy,cond_true,List.filterMap_append]
  cases found : nameOf? (partOf name) <;> simp [namesAmong,found]

theorem namesOfSource (source : IsSource p ds s) : p.withoutExtension.parts.filterMap nameOf? = ds ++ [s] := by
  have names : namesAmong (trimEnd p.pieces) = ds ++ [s ++ ".py"] := by
    rw [namesAmong,Path.trimEndFilter,← namesAmong,← namesOfParts,source.parts,List.filterMap_append,List.filterMap_map]
    simp [nameOf?,Function.comp_def]
  have last : p.fileName? = some (s ++ ".py") := by simp [Path.fileName?,source.parts]
  have whole : p.withoutExtension = ⟨p.isAbsolute,(trimEnd p.pieces).dropLast ++ [s]⟩ := by
    rw [Path.withoutExtension,last]
    simp only [splitSource source.stem]
  obtain ⟨stands,own⟩ := countsUndotted source.stem
  rw [whole,namesOfParts]
  rcases Path.trimEndCases p.pieces with empty | ⟨before,name,ends,busy⟩
  · rw [empty] at names
    cases ds <;> cases names
  · have file : partOf name = .name (s ++ ".py") :=
      Option.some.inj ((Path.lastPart ends busy).symm.trans (by rw [source.parts,List.getLast?_concat]))
    rw [ends,namesConcat busy,file] at names
    rw [ends,List.dropLast_concat,namesConcat stands,own,List.append_cancel_right names]
    rfl

def moduleNames (dirs : List String) (stem : String) : List String :=
  if stem = "__init__" then dirs else dirs ++ [stem]

theorem moduleNameOfSource (source : IsSource p ds s) : moduleName p = ".".intercalate (moduleNames ds s) := by
  rw [moduleName,namesOfSource source,moduleNames]
  simp only [List.getLast?_concat,beq_iff_eq,Option.some.injEq,List.dropLast_concat]

theorem undottedNames (source : IsSource p ds s) : ∀ d ∈ moduleNames ds s, Undotted d := by
  intro d mem
  unfold moduleNames at mem
  split at mem
  · exact source.dirs d mem
  · rcases List.mem_append.mp mem with above | last
    · exact source.dirs d above
    · exact List.mem_singleton.mp last ▸ source.stem

theorem dottedApart (undotted : ∀ d ∈ ds, Undotted d) :
    (".".intercalate ds).toList.splitOn '.' = if ds = [] then [[]] else ds.map String.toList := by
  split
  · next empty => rw [empty]; rfl
  · next nonempty =>
    rw [String.toList_intercalate,show ".".toList = ['.'] from rfl]
    refine List.splitOn_intercalate '.' ?_ (by simpa using nonempty)
    simpa using fun d mem => (undotted d mem).2

theorem dottedOnce (undotted : ∀ d ∈ ds, Undotted d) (other : ∀ e ∈ es, Undotted e) :
    ".".intercalate ds = ".".intercalate es ↔ ds = es := by
  refine ⟨fun same => ?_,congrArg _⟩
  have apart := congrArg (fun s : String => s.toList.splitOn '.') same
  simp only [dottedApart undotted,dottedApart other] at apart
  -- only the name of a part could be empty, and no part has an empty name
  have filled {fs : List String} (undotted : ∀ f ∈ fs, Undotted f) : [[]] ≠ fs.map String.toList := by
    intro same
    obtain ⟨f,rfl,empty⟩ := List.map_eq_singleton_iff.mp same.symm
    exact (undotted f List.mem_cons_self).1 (by simpa using empty)
  split at apart
  · next empty =>
    split at apart
    · next empty' => rw [empty,empty']
    · exact absurd apart (filled other)
  · split at apart
    · exact absurd apart.symm (filled undotted)
    · exact List.map_injective_iff.mpr (fun _ _ => String.toList_inj.mp) apart

theorem partsOnce : ds.map Part.name ++ [.name (s ++ ".py")] = es.map Part.name ++ [.name (u ++ ".py")] ↔
    ds = es ∧ s = u := by
  have ending : s ++ ".py" = u ++ ".py" ↔ s = u := by simp
  have injective : Function.Injective Part.name := fun _ _ same => Part.name.inj same
  rw [List.append_singleton_inj,(List.map_injective_iff.mpr injective).eq_iff,Part.name.injEq,ending]

theorem samePathIff (source : IsSource p ds s) (other : IsSource q es u) : p.parts = q.parts ↔ ds = es ∧ s = u := by
  rw [source.parts,other.parts,partsOnce]

theorem besideIff (source : IsSource p ds s) (other : IsSource q es u) :
    Beside p q ↔ s ≠ "__init__" ∧ es = ds ++ [s] ∧ u = "__init__" := by
  unfold Beside
  rw [source.parts,other.parts]
  simp only [partsOnce]
  constructor
  · rintro ⟨_,_,named,⟨rfl,rfl⟩,rfl,rfl⟩
    exact ⟨named,rfl,rfl⟩
  · rintro ⟨named,rfl,rfl⟩
    exact ⟨ds,s,named,⟨rfl,rfl⟩,rfl,rfl⟩

/-- Two source files have the same module name if they are the same file or one is a module beside the package that
the other one is, and only then. -/
theorem sameModuleIff (source : IsSource p ds s) (other : IsSource q es u) :
    moduleName p = moduleName q ↔ p.parts = q.parts ∨ Beside p q ∨ Beside q p := by
  rw [moduleNameOfSource source,moduleNameOfSource other,dottedOnce (undottedNames source) (undottedNames other),
    samePathIff source other,besideIff source other,besideIff other source,moduleNames,moduleNames]
  by_cases package : s = "__init__"
  · by_cases package' : u = "__init__"
    · simp [package,package']
    · simp [package,package',Ne.symm package']
  · by_cases package' : u = "__init__"
    · simp [package,package',eq_comm]
    · simp [package,package',List.append_singleton_inj]

theorem sameModuleNested :
    moduleName (.ofString "lms/__init__.py") = moduleName (.ofString "lms.py") ∧
    moduleName (.ofString "lms/__init__//__init__.py") ≠ moduleName (.ofString "lms/__init__.py") := by
  have source : IsSource (.ofString "lms.py") [] "lms" := ⟨by decide +kernel,by decide,by decide⟩
  have package : IsSource (.ofString "lms/__init__.py") ["lms"] "__init__" :=
    ⟨by decide +kernel,by decide,by decide⟩
  have inner : IsSource (.ofString "lms/__init__//__init__.py") ["lms","__init__"] "__init__" :=
    ⟨by decide +kernel,by decide,by decide⟩
  refine ⟨(sameModuleIff package source).mpr (.inr (.inr ?_)),fun same => ?_⟩
  · exact (besideIff source package).mpr ⟨by decide,rfl,rfl⟩
  · rcases (sameModuleIff inner package).mp same with equal | beside | beside
    · exact absurd ((samePathIff inner package).mp equal).1 (by decide)
    · exact absurd rfl ((besideIff inner package).mp beside).1
    · exact absurd rfl ((besideIff package inner).mp beside).1

end ConventionLint.Check.File
