import Mathlib.Data.List.Find
import ConventionLint.Config.Source
import ConventionLint.Proofs.Storage.Grounded

/-! Which configuration a run takes. The search on the way up asks each directory for a configuration and
then for a repository. That is the same as to cut the way behind the first repository and to take the
first configuration of what is left, so nothing above the repository counts and the nearest one wins. -/
namespace ConventionLint.Config.Source
open ConventionLint.Storage

variable {s : Store} {d j : Key}

def within {α : Type} (ends : α → Bool) (way : List α) : List α := way.take (way.findIdx ends + 1)

theorem withinCons {α : Type} (ends : α → Bool) (first : α) (above : List α) :
    within ends (first :: above) = first :: if ends first then [] else within ends above := by
  cases stops : ends first with
  | true => simp [within,List.findIdx_cons,stops]
  | false => simp [within,List.findIdx_cons,stops]

theorem onTheWayWithin (s : Store) (way : List Path) :
    onTheWay? s way = (within (endsProject s) way).findSome? (inDirectory? s) := by
  induction way with
  | nil => rfl
  | cons dir above ih =>
    rw [onTheWay?,withinCons,List.findSome?_cons,ih]
    cases inDirectory? s dir with
    | some found => rfl
    | none => cases endsProject s dir <;> rfl

def holdsRepository (s : Store) (d : Key) : Bool := (s.entry? (d ++ [".git"])).isSome

def configIn? (s : Store) (d : Key) : Option Key :=
  (projectNames.map fun name => d ++ [name]).find? fun k => (s.contentAt? k).isSome

def configAbove? (s : Store) (d : Key) : Option Key :=
  (within (holdsRepository s) (upward d)).findSome? (configIn? s)

theorem plainProject : ∀ name ∈ projectNames, Plain name := by
  simp only [projectNames,List.forall_mem_cons,List.not_mem_nil,false_implies,implies_true,and_true]
  exact ⟨⟨by decide,by decide,by decide,by decide⟩,⟨by decide,by decide,by decide,by decide⟩⟩

theorem plainRepository : Plain ".git" := ⟨by decide,by decide,by decide,by decide⟩

theorem inDirectoryOfKey (grounded : s.Grounded d) (isDirectory : s.isDirectoryAt d = true) :
    inDirectory? s (.ofKey d) = (configIn? s d).map .ofKey := by
  have candidates : projectNames.map (Path.ofKey d).child =
      (projectNames.map fun name => d ++ [name]).map .ofKey := by
    rw [List.map_map]
    exact List.map_congr_left fun name mem => Path.childOfKey grounded (plainProject name mem)
  rw [inDirectory?,candidates,List.find?_map,configIn?]
  congr 1
  refine List.find?_congr fun k mem => ?_
  obtain ⟨name,named,rfl⟩ := List.mem_map.mp mem
  have leads := (plainProject name named).locate grounded.locate isDirectory
  rw [Path.childOfKey grounded (plainProject name named)] at leads
  simp [Store.isFile,Store.read?,leads]

theorem endsProjectOfKey (grounded : s.Grounded d) (isDirectory : s.isDirectoryAt d = true) :
    endsProject s (.ofKey d) = holdsRepository s d := by
  have leads := plainRepository.locate grounded.locate isDirectory
  simp [endsProject,holdsRepository,Store.contains,Store.find?,leads]

theorem configAboveTop (s : Store) : configAbove? s [] = configIn? s [] := by
  simp [configAbove?,upwardTop,within,List.findSome?_cons]
  cases configIn? s [] <;> rfl

theorem configAboveConcat (s : Store) (d : Key) (name : String) :
    configAbove? s (d ++ [name]) = match configIn? s (d ++ [name]) with
      | some found => some found
      | none => if holdsRepository s (d ++ [name]) then none else configAbove? s d := by
  simp only [configAbove?,upwardConcat,withinCons,List.findSome?_cons]
  cases configIn? s (d ++ [name]) with
  | some found => rfl
  | none => cases holdsRepository s (d ++ [name]) <;> rfl

theorem onTheWayOfKey (grounded : s.Grounded d) (isDirectory : s.isDirectoryAt d = true) :
    onTheWay? s (Path.ofKey d).ancestors = (configAbove? s d).map .ofKey := by
  rw [Path.ancestorsOfKey grounded]
  -- from the root down, as the way up begins with the last name of the key
  induction d using List.reverseRecOn with
  | nil =>
    rw [configAboveTop,upwardTop,List.map_singleton,onTheWay?,inDirectoryOfKey grounded isDirectory]
    cases configIn? s [] with
    | some found => rfl
    | none => simp [onTheWay?]
  | append_singleton d name ih =>
    rw [upwardConcat,List.map_cons,onTheWay?,configAboveConcat,inDirectoryOfKey grounded isDirectory,
      endsProjectOfKey grounded isDirectory,
      ih (grounded.above (List.prefix_append _ _)) grounded.directory]
    cases configIn? s (d ++ [name]) with
    | some found => rfl
    | none => cases holdsRepository s (d ++ [name]) <;> rfl

theorem configInCases {found : Key} (configured : configIn? s d = some found) :
    (s.contentAt? found).isSome = true ∧
      (found = d ++ ["edx-lint.toml"] ∨
        (found = d ++ [".edx-lint.toml"] ∧ s.contentAt? (d ++ ["edx-lint.toml"]) = none)) := by
  refine ⟨by simpa using List.find?_some configured,?_⟩
  simp only [configIn?,projectNames,List.map_cons,List.map_nil,List.find?_cons,List.find?_nil] at configured
  split at configured
  · exact .inl (Option.some.inj configured).symm
  · next absent =>
    split at configured
    · exact .inr ⟨(Option.some.inj configured).symm,by simpa using absent⟩
    · cases configured

def Nearest (s : Store) (d found : Key) : Prop :=
  ∃ j, j <+: d ∧ configIn? s j = some found ∧ ∀ nearer, j <+: nearer → nearer <+: d → nearer ≠ j →
    configIn? s nearer = none ∧ holdsRepository s nearer = false

theorem nearestHere {found : Key} (configured : configIn? s d = some found) : Nearest s d found :=
  ⟨d,List.prefix_rfl,configured,fun _ below above other =>
    absurd (above.eq_of_length_le below.length_le) other⟩

theorem nearestConcat {name : String} {found : Key} (unconfigured : configIn? s (d ++ [name]) = none) :
    Nearest s (d ++ [name]) found ↔ holdsRepository s (d ++ [name]) = false ∧ Nearest s d found := by
  constructor
  · rintro ⟨j,above,configured,nearest⟩
    rcases List.prefix_concat_iff.mp above with rfl | higher
    · simp [unconfigured] at configured
    · have other : d ++ [name] ≠ j := by
        rintro rfl
        simp [unconfigured] at configured
      exact ⟨(nearest _ above List.prefix_rfl other).2,j,higher,configured,
        fun nearer below upTo => nearest nearer below (upTo.trans (List.prefix_append _ _))⟩
  · rintro ⟨free,j,above,configured,nearest⟩
    refine ⟨j,above.trans (List.prefix_append _ _),configured,fun nearer below upTo other => ?_⟩
    rcases List.prefix_concat_iff.mp upTo with rfl | higher
    · exact ⟨unconfigured,free⟩
    · exact nearest nearer below higher other

theorem nearestUnique {found other : Key} (configured : configIn? s d = some found)
    (nearest : Nearest s d other) : other = found := by
  obtain ⟨j,above,there,nearest⟩ := nearest
  by_cases same : d = j
  · subst same
    exact Option.some.inj (there.symm.trans configured)
  · simp [(nearest d above List.prefix_rfl same).1] at configured

theorem configAboveNearest (s : Store) (d found : Key) :
    configAbove? s d = some found ↔ Nearest s d found := by
  induction d using List.reverseRecOn with
  | nil =>
    rw [configAboveTop]
    refine ⟨nearestHere,?_⟩
    rintro ⟨j,above,configured,-⟩
    exact List.prefix_nil.mp above ▸ configured
  | append_singleton d name ih =>
    rw [configAboveConcat]
    cases configured : configIn? s (d ++ [name]) with
    | some own =>
      refine ⟨fun same => ?_,fun nearest => congrArg some (nearestUnique configured nearest).symm⟩
      exact Option.some.inj same ▸ nearestHere configured
    | none =>
      rw [nearestConcat configured,← ih]
      cases holdsRepository s (d ++ [name]) <;> simp

theorem nearestAbove {found other : Key} (nearest : Nearest s d found) (onTheWay : other <+: d)
    (counts : holdsRepository s other = true ∨ (configIn? s other).isSome = true) :
    other <+: found.dropLast := by
  obtain ⟨j,above,configured,nearest⟩ := nearest
  have place : found.dropLast = j := by
    obtain ⟨-,rfl | ⟨rfl,-⟩⟩ := configInCases configured
    · exact List.dropLast_concat
    · exact List.dropLast_concat
  rw [place]
  rcases List.prefix_or_prefix_of_prefix onTheWay above with higher | lower
  · exact higher
  · by_cases same : other = j
    · exact same ▸ List.prefix_rfl
    · obtain ⟨unconfigured,free⟩ := nearest other lower onTheWay same
      simp [unconfigured,free] at counts

/-- The directory where the search begins: what the linted path leads to, or the directory of a linted
file. An empty path stands for the current directory. -/
def lintDirectory? (s : Store) (target : Path) : Option Key :=
  if target.toString.isEmpty then if s.isDirectoryAt s.current then some s.current else none
  else (s.locate? target).bind fun k =>
    match s.entry? k with
    | some .directory => some k
    | some (.file _) => some k.dropLast
    | none => none

theorem contentOfEntry {k : Key} {content : Text.Bytes} (there : s.entry? k = some (.file content)) :
    (s.contentAt? k).isSome = true := by simp [Store.contentIff.mpr there]

theorem isFileLocated {target : Path} {k : Key} (place : s.locate? target = some k) :
    s.isFile target = (s.contentAt? k).isSome := by simp [Store.isFile,Store.read?,place]

theorem isFileNowhere {target : Path} (nowhere : s.locate? target = none) :
    s.isFile target = false := by simp [Store.isFile,Store.read?,nowhere]

theorem locateEmpty {target : Path} (empty : target.toString.isEmpty = true) :
    s.locate? target = none := by simp [Store.locate?,empty]

theorem startLeads (current : s.Grounded s.current) {target : Path}
    (begins : lintDirectory? s target = some d) :
    s.locate? (startOf s target) = some d ∧ s.isDirectoryAt d = true := by
  unfold lintDirectory? at begins
  split at begins
  · next empty =>
    split at begins
    · next isDirectory =>
      obtain rfl := Option.some.inj begins
      have notFile := isFileNowhere (s := s) (locateEmpty empty)
      refine ⟨?_,isDirectory⟩
      simpa [startOf,notFile,empty] using Path.locateHere isDirectory
    · cases begins
  · next nonempty =>
    obtain ⟨k,place,kind⟩ := Option.bind_eq_some_iff.mp begins
    have isFile := isFileLocated place
    split at kind
    · next isDirectory =>
      obtain rfl := Option.some.inj kind
      have notFile : s.isFile target = false := by simp [isFile,Store.contentAt?,isDirectory]
      refine ⟨?_,by simp [Store.isDirectoryAt,isDirectory]⟩
      simpa [startOf,notFile,nonempty] using place
    · next content there =>
      obtain rfl := Option.some.inj kind
      have file := contentOfEntry there
      obtain ⟨above,parent,leads⟩ := Path.parentLeads current place file
      obtain ⟨_,name,directory,_,_,_,rfl,isDirectory,_⟩ := Path.fileName current place file
      refine ⟨?_,by simpa using isDirectory⟩
      simpa [startOf,isFile,file,parent] using leads
    · cases kind

theorem directoriesOfKey (current : s.Grounded s.current) {target : Path}
    (begins : lintDirectory? s target = some d) : directories s target = (Path.ofKey d).ancestors := by
  obtain ⟨leads,isDirectory⟩ := startLeads current begins
  have there : s.entry? d = some .directory := by simpa [Store.isDirectoryAt] using isDirectory
  simp [directories,Store.canonical?,leads,there]

theorem directoriesAsWritten {target : Path} (nowhere : lintDirectory? s target = none) :
    directories s target =
      (if target.toString.isEmpty then .ofString "." else target : Path).ancestors := by
  unfold lintDirectory? at nowhere
  split at nowhere
  · next empty =>
    have notFile := isFileNowhere (s := s) (locateEmpty empty)
    have noDirectory : s.isDirectoryAt s.current = false := by simpa using nowhere
    have closed : s.locate? (.ofString ".") = none := by
      simp [Store.locate?,show Path.ofString "." = ⟨false,["."]⟩ by decide,Store.step,noDirectory]
    simp [directories,startOf,notFile,empty,Store.canonical?,closed]
  · next nonempty =>
    have unread : s.isFile target = false ∧ s.canonical? target = none := by
      cases place : s.locate? target with
      | none => exact ⟨isFileNowhere place,by simp [Store.canonical?,place]⟩
      | some k =>
        have absent : s.entry? k = none := by
          simp only [place,Option.bind_some] at nowhere
          split at nowhere
          · cases nowhere
          · cases nowhere
          · assumption
        exact ⟨by simp [isFileLocated place,Store.contentAt?,absent],
          by simp [Store.canonical?,place,absent]⟩
    simp [directories,startOf,unread.1,unread.2,nonempty]

def projectConfig? (s : Store) (target : Path) : Option Path :=
  match lintDirectory? s target with
  | some d => (configAbove? s d).map .ofKey
  | none =>
    let written : Path := if target.toString.isEmpty then .ofString "." else target
    (within (endsProject s) written.ancestors).findSome? (inDirectory? s)

def withoutProject (s : Store) (userDir : Option Path) : Source :=
  match userDir with
  | some dir => if s.isFile (dir.child "config.toml") then .global (dir.child "config.toml") else .builtIn
  | none => .builtIn

theorem onTheWayProject (current : s.Grounded s.current) (target : Path) :
    onTheWay? s (directories s target) = projectConfig? s target := by
  unfold projectConfig?
  split
  · next d begins =>
    obtain ⟨leads,isDirectory⟩ := startLeads current begins
    rw [directoriesOfKey current begins]
    exact onTheWayOfKey (Store.groundedLocate current leads) isDirectory
  · next nowhere => rw [directoriesAsWritten nowhere,onTheWayWithin]

theorem findUnnamed (s : Store) (userDir : Option Path) (target : Path) :
    find s userDir target none =
      (onTheWay? s (directories s target)).elim ((ofUser? s userDir).elim builtIn global) project := by
  unfold find
  generalize onTheWay? s (directories s target) = ofProject
  generalize ofUser? s userDir = ofUser
  cases ofProject with
  | some p => rfl
  | none =>
    cases ofUser with
    | some p => rfl
    | none => rfl

theorem ofUserWithoutProject (s : Store) (userDir : Option Path) :
    (ofUser? s userDir).elim builtIn global = withoutProject s userDir := by
  cases userDir with
  | none => rfl
  | some dir =>
    simp only [ofUser?,Option.map_some,Option.filter_some,withoutProject,globalName]
    split
    · rfl
    · rfl

theorem withoutProjectOther {userDir : Option Path} (p : Path) :
    withoutProject s userDir ≠ .project p := by
  unfold withoutProject
  split
  · split
    · exact nofun
    · exact nofun
  · exact nofun

theorem projectConfigNearest {target : Path} {found : Key} (begins : lintDirectory? s target = some d) :
    projectConfig? s target = some (.ofKey found) ↔ Nearest s d found := by
  rw [projectConfig?,begins,← configAboveNearest]
  refine ⟨fun configured => ?_,fun configured => by simp [configured]⟩
  obtain ⟨own,there,same⟩ := Option.map_eq_some_iff.mp configured
  rw [there,← (Storage.Path.mk.inj same).2]

/-- A configuration that is named is taken as it is. Otherwise the nearest one of the project counts,
then the one of the user and then the one that is built in. Nothing above the end of the project counts
and nothing above a nearer configuration. -/
theorem findResolves (current : s.Grounded s.current) (userDir : Option Path) (target : Path) :
    (∀ p, find s userDir target (some p) = .explicit p) ∧
    find s userDir target none =
      (projectConfig? s target).elim (withoutProject s userDir) project ∧
    ∀ d, lintDirectory? s target = some d → ∀ found,
      (projectConfig? s target = some (.ofKey found) ↔ Nearest s d found) ∧
      (find s userDir target none = .project (.ofKey found) →
        ∀ other, other <+: d → holdsRepository s other = true ∨ (configIn? s other).isSome = true →
          other <+: found.dropLast) := by
  have search : find s userDir target none =
      (projectConfig? s target).elim (withoutProject s userDir) project := by
    rw [findUnnamed,onTheWayProject current,ofUserWithoutProject]
  refine ⟨fun p => rfl,search,fun d begins found => ⟨projectConfigNearest begins,fun taken other => ?_⟩⟩
  refine nearestAbove ((projectConfigNearest begins).mp ?_)
  rw [search] at taken
  cases configured : projectConfig? s target with
  | some p =>
    rw [configured] at taken
    rw [Source.project.inj taken]
  | none =>
    rw [configured] at taken
    exact absurd taken (withoutProjectOther _)

def checkout : Store where
  entries := [(["edx-lint.toml"],.file []),(["repo"],.directory),(["repo",".git"],.directory),
    (["repo",".edx-lint.toml"],.file []),(["repo","lms"],.directory),(["repo","lms","views.py"],.file [])]
  current := ["repo","lms"]

theorem checkoutGrounded : checkout.Grounded checkout.current := by
  have repository : checkout.Grounded ([] ++ ["repo"]) :=
    (Store.rootGrounded checkout).below (by decide) (by decide) (by decide)
  have grounded : checkout.Grounded (["repo"] ++ ["lms"]) :=
    repository.below (by decide +kernel) (by decide) (by decide)
  exact grounded

theorem findResolvesCheckout : checkout.Grounded checkout.current ∧
    lintDirectory? checkout (.ofString "views.py") = some ["repo","lms"] ∧
    find checkout none (.ofString "views.py") none = .project (.ofKey ["repo",".edx-lint.toml"]) ∧
    Nearest checkout ["repo","lms"] ["repo",".edx-lint.toml"] := by
  have begins : lintDirectory? checkout (.ofString "views.py") = some ["repo","lms"] := by decide +kernel
  have configured : projectConfig? checkout (.ofString "views.py") =
      some (.ofKey ["repo",".edx-lint.toml"]) := by decide +kernel
  obtain ⟨-,search,upward⟩ := findResolves checkoutGrounded none (.ofString "views.py")
  refine ⟨checkoutGrounded,begins,?_,((upward _ begins _).1).mp configured⟩
  rw [search,configured]
  rfl

end ConventionLint.Config.Source
