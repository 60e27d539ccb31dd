import ConventionLint.Proofs.Inspection.SetUp
import ConventionLint.Proofs.Storage.Path

/-! Where a project lies has a say in what is excluded from it: patterns are compared with whole paths, and
so with the directories above the root as well. -/
namespace ConventionLint

namespace Storage.Path
variable {root p : Path} {pieces : List String} {d : String}

def spell (pieces : List String) : List Char := pieces.flatMap fun s => '/' :: s.toList

def lead (root : Path) : List String :=
  if (root.pieces.getLastD "").isEmpty then root.pieces.dropLast else root.pieces

structure LiesBelow (p : Path) : Prop where
  relative : p.isAbsolute = false
  named : p.pieces ≠ []

theorem spellJoined (nonempty : pieces ≠ []) : '/' :: ("/".intercalate pieces).toList = spell pieces := by
  rw [String.toList_intercalate]
  induction pieces with
  | nil => exact absurd rfl nonempty
  | cons s pieces ih =>
    cases pieces with
    | nil => simp [spell]
    | cons t pieces =>
      rw [spell,List.flatMap_cons,← spell,← ih (List.cons_ne_nil t pieces)]
      simp [List.intercalate_cons_cons]

theorem textAbsolute (absolute : p.isAbsolute = true) (nonempty : p.pieces ≠ []) :
    p.toString = String.ofList (spell p.pieces) := by
  rw [← String.toList_inj,String.toList_ofList,← spellJoined nonempty,toString,absolute,if_pos rfl,
    String.toList_append]
  exact List.singleton_append

theorem textRelative (below : LiesBelow p) : '/' :: p.toString.toList = spell p.pieces := by
  rw [← spellJoined below.named,toString,below.relative,if_neg Bool.false_ne_true,String.empty_append]

theorem joinBelow (root : Path) (below : LiesBelow p) :
    (root.join p).isAbsolute = root.isAbsolute ∧ (root.join p).pieces = root.lead ++ p.pieces := by
  rw [join,below.relative,if_neg Bool.false_ne_true,lead]
  split_ifs <;> exact ⟨rfl,rfl⟩

theorem textBelow (absolute : root.isAbsolute = true) (below : LiesBelow p) :
    (root.join p).toString = String.ofList (spell root.lead ++ '/' :: p.toString.toList) := by
  obtain ⟨same,pieces⟩ := joinBelow root below
  have nonempty : (root.join p).pieces ≠ [] := by simp [pieces,below.named]
  rw [textAbsolute (same.trans absolute) nonempty,pieces,textRelative below,spell,List.flatMap_append]
  rfl

theorem spellHead (pieces : List String) (seen : List Char) :
    (spell pieces ++ '/' :: seen).head? = some '/' := by
  cases pieces <;> rfl

theorem splitSpelled (whole : IsWhole pieces) :
    (spell pieces).splitOn '/' = [] :: pieces.map String.toList := by
  have free : ∀ l ∈ [] :: pieces.map String.toList, '/' ∉ l := by simpa [IsWhole] using whole
  have joined : spell pieces = ['/'].intercalate ([] :: pieces.map String.toList) := by
    cases pieces with
    | nil => rfl
    | cons s pieces =>
      rw [← spellJoined (List.cons_ne_nil s pieces),String.toList_intercalate,List.map_cons,
        List.intercalate_cons_cons]
      rfl
  rw [joined,List.splitOn_intercalate '/' free (List.cons_ne_nil _ _)]

theorem infixSpell (whole : IsWhole pieces) (single : '/' ∉ d.toList) :
    '/' :: (d.toList ++ ['/']) <:+: spell pieces ↔ d ∈ pieces.dropLast := by
  constructor
  · rintro ⟨before,after,same⟩
    have cut := splitSpelled whole
    have inner : ∀ c ∈ d.toList, (c == '/') = false := by
      intro c mem
      exact beq_eq_false_iff_ne.mpr fun found => single (found ▸ mem)
    have apart : spell pieces = before ++ '/' :: (d.toList ++ '/' :: after) := by
      rw [← same]
      simp
    rw [apart,List.splitOn_eq_splitOnP,
      List.splitOnP_append_cons (p := fun c => c == '/') _ _ (beq_self_eq_true '/'),
      List.splitOnP_append_cons_of_forall_mem inner _ (beq_self_eq_true '/')] at cut
    obtain ⟨x,xs,first⟩ := List.exists_cons_of_ne_nil (List.splitOnP_ne_nil (· == '/') before)
    rw [first,List.cons_append] at cut
    have listed : d.toList ∈ (pieces.map String.toList).dropLast := by
      rw [← (List.cons.inj cut).2,List.dropLast_append_of_ne_nil (List.cons_ne_nil _ _),
        List.dropLast_cons_of_ne_nil (List.splitOnP_ne_nil _ after)]
      simp
    rw [← List.map_dropLast] at listed
    obtain ⟨e,mem,spelled⟩ := List.mem_map.mp listed
    exact String.toList_inj.mp spelled ▸ mem
  · intro mem
    have nonempty : pieces ≠ [] := by
      rintro rfl
      cases mem
    obtain ⟨before,after,same⟩ := List.append_of_mem mem
    obtain ⟨t,ts,behind⟩ := List.exists_cons_of_ne_nil
      (List.append_ne_nil_of_right_ne_nil after (List.cons_ne_nil (pieces.getLast nonempty) []))
    refine ⟨spell before,t.toList ++ spell ts,?_⟩
    rw [← List.dropLast_append_getLast nonempty,same,List.append_assoc before,List.cons_append,behind]
    simp [spell]

theorem memLead (named : d ≠ "") : d ∈ root.lead ↔ d ∈ root.pieces := by
  unfold lead
  split_ifs with closed
  · rcases List.eq_nil_or_concat root.pieces with empty | ⟨front,last,same⟩
    · simp [empty]
    · obtain rfl : last = "" := by simpa [same] using closed
      simp [same,named]
  · rfl

end Storage.Path

namespace Inspection
open Glob (Pattern)
open Storage (Path)
open Storage.Path (IsWhole LiesBelow spell)

def rootedAt (x : Inspection) (root : Path) : Inspection := { x with root }

def ExcludesSeen (x : Inspection) (p : Path) : Prop := ∃ q ∈ x.exclude, q.Within p.toString.toList

def ExcludesAbove (x : Inspection) (root p : Path) : Prop :=
  ∃ q ∈ x.exclude, q.Reaches (spell root.lead) p.toString.toList

section Roots
variable {current root p : Path} {r : Request} {x : Inspection}

theorem setUpRooted (done : setUp current r = .ok x) (absolute : root.isAbsolute = true) :
    setUp current { r with root := some root } = .ok (x.rootedAt root) := by
  have own : current.join root = root := by rw [Path.join,if_pos absolute]
  have excludeTexts : { r with root := some root }.excludeTexts = r.excludeTexts := rfl
  have onlyTexts : { r with root := some root }.onlyTexts = r.onlyTexts := rfl
  revert done
  rw [setUp,setUp,excludeTexts,onlyTexts]
  cases Check.Registry.validate r.checkers <;> cases Pattern.parseAll r.excludeTexts <;>
    cases Pattern.parseAll r.onlyTexts <;> simp
  rintro rfl
  exact congrArg (Inspection.mk · _ _ _ _ _) own

theorem excludedIff (parsed : ∀ q ∈ x.exclude, Pattern.parse q.text = .ok q)
    (relative : ∀ q ∈ x.exclude, q.text.toList.head? ≠ some '/') (absolute : root.isAbsolute = true)
    (below : LiesBelow p) : (x.rootedAt root).isExcluded (root.join p) = true ↔
      x.ExcludesSeen p ∨ x.ExcludesAbove root p := by
  simp only [isExcluded,rootedAt,List.any_eq_true,Path.textBelow absolute below,ExcludesSeen,ExcludesAbove]
  rw [← exists_or]
  refine exists_congr fun q => ?_
  rw [← and_or_left]
  refine and_congr_right fun mem => ?_
  exact Pattern.excludesBelow (parsed q mem) (relative q mem) (Path.spellHead _ _)

theorem excludedInDirectories {dirs : List String} (plain : ∀ d ∈ dirs, Pattern.IsPlain d)
    (patterns : x.exclude = dirs.map Pattern.directory) (absolute : root.isAbsolute = true)
    (wholeRoot : IsWhole root.pieces) (below : LiesBelow p) (whole : IsWhole p.pieces) :
    (x.rootedAt root).isExcluded (root.join p) = true ↔
      ∃ d ∈ dirs, d ∈ root.pieces ∨ d ∈ p.pieces.dropLast := by
  have text : spell root.lead ++ '/' :: p.toString.toList = spell (root.lead ++ p.pieces) := by
    rw [Path.textRelative below,spell,spell,spell,List.flatMap_append]
  have wholePath : IsWhole (root.lead ++ p.pieces) := by
    intro piece mem
    by_cases empty : piece = ""
    · simp [empty]
    · exact (List.mem_append.mp mem).elim (fun above => wholeRoot piece ((Path.memLead empty).mp above))
        (whole piece)
  simp only [isExcluded,rootedAt,List.any_eq_true,patterns,List.mem_map,exists_exists_and_eq_and,
    Path.textBelow absolute below,text]
  refine exists_congr fun d => and_congr_right fun mem => ?_
  rw [Pattern.excludesDirectory (plain d mem) (text ▸ Path.spellHead _ _),
    Path.infixSpell wholePath (plain d mem).whole,List.dropLast_append_of_ne_nil below.named,List.mem_append,
    Path.memLead (plain d mem).named]

theorem excludingRoot {q : Pattern} {core : List Char} (mem : q ∈ x.exclude) (own : q.core? = some core) :
    ∃ root : Path, root.isAbsolute = true ∧ IsWhole root.pieces ∧
      ∀ p, LiesBelow p → (x.rootedAt root).isExcluded (root.join p) = true := by
  refine ⟨⟨true,Path.piecesOf core ++ ["x"]⟩,rfl,?_,fun p below => ?_⟩
  · intro piece inside
    rcases List.mem_append.mp inside with above | last
    · exact Path.piecesOfWhole core piece above
    · simp [List.mem_singleton.mp last]
  · have nonempty : Path.piecesOf core ≠ [] := by
      rw [Path.piecesOf,Storage.splitByOn]
      simp [List.splitOn_ne_nil]
    have lead : spell (⟨true,Path.piecesOf core ++ ["x"]⟩ : Path).lead = '/' :: (core ++ ['/','x']) := by
      rw [Path.lead,if_neg (by simp),spell,List.flatMap_append,← spell,← Path.spellJoined nonempty,
        Path.piecesOfWritten,String.toList_ofList]
      rfl
    refine List.any_eq_true.mpr ⟨q,mem,?_⟩
    rw [Path.textBelow rfl below,lead,Pattern.excludes,own,Option.any_some,Bool.or_eq_true,
      Text.containsIff,String.toList_ofList]
    exact .inr ⟨['/'],['/','x'] ++ '/' :: p.toString.toList,by simp⟩

end Roots

theorem parseDirectories {dirs : List String} (plain : ∀ d ∈ dirs, Pattern.IsPlain d) :
    Pattern.parseAll (dirs.map fun d => "**/" ++ d ++ "/**") = .ok (dirs.map Pattern.directory) := by
  induction dirs with
  | nil => rfl
  | cons d dirs ih =>
    obtain ⟨own,rest⟩ := List.forall_mem_cons.mp plain
    have read : Pattern.parse ("**/" ++ d ++ "/**") = .ok (.directory d) := Pattern.parseDirectory own
    rw [List.map_cons,Pattern.parseAll,read,ih rest]
    rfl

/-- Two projects with one configuration exclude the same path unless a pattern has to do with what is above
one root and not with what is above the other, and nothing that can be seen of the path excludes it. With
patterns for directories these are the names in a root, and any pattern that stands for a part of paths
excludes everything below some root. -/
theorem exclusionByRoot {current : Path} {r : Request} {x : Inspection} (done : setUp current r = .ok x)
    (relative : ∀ text ∈ r.excludeTexts, text.toList.head? ≠ some '/') :
    (∀ root : Path, root.isAbsolute = true →
      setUp current { r with root := some root } = .ok (x.rootedAt root)) ∧
    (∀ root p : Path, root.isAbsolute = true → LiesBelow p →
      ((x.rootedAt root).isExcluded (root.join p) = true ↔ x.ExcludesSeen p ∨ x.ExcludesAbove root p)) ∧
    (∀ root other p : Path, root.isAbsolute = true → other.isAbsolute = true → LiesBelow p →
      ((x.rootedAt root).isExcluded (root.join p) = (x.rootedAt other).isExcluded (other.join p) ↔
        x.ExcludesSeen p ∨ (x.ExcludesAbove root p ↔ x.ExcludesAbove other p))) ∧
    (∀ dirs : List String, (∀ d ∈ dirs, Pattern.IsPlain d) →
      r.excludeTexts = dirs.map (fun d => "**/" ++ d ++ "/**") →
      ∀ root p : Path, root.isAbsolute = true → IsWhole root.pieces → LiesBelow p → IsWhole p.pieces →
        ((x.rootedAt root).isExcluded (root.join p) = true ↔
          ∃ d ∈ dirs, d ∈ root.pieces ∨ d ∈ p.pieces.dropLast)) ∧
    ∀ q ∈ x.exclude, q.core?.isSome → ∃ root : Path, root.isAbsolute = true ∧ IsWhole root.pieces ∧
      ∀ p, LiesBelow p → (x.rootedAt root).isExcluded (root.join p) = true := by
  have read := (setUpParts done).2.2
  obtain ⟨texts,parsed⟩ := Pattern.parseAllEach read
  have own : ∀ q ∈ x.exclude, q.text.toList.head? ≠ some '/' := fun q mem =>
    relative q.text (texts ▸ List.mem_map_of_mem mem)
  refine ⟨fun root => setUpRooted done,fun root p => excludedIff parsed own,?_,?_,?_⟩
  · intro root other p absolute absolute' below
    rw [Bool.eq_iff_iff,excludedIff parsed own absolute below,excludedIff parsed own absolute' below]
    by_cases seen : x.ExcludesSeen p
    · simp [seen]
    · simp [seen]
  · intro dirs plain same root p
    rw [same,parseDirectories plain] at read
    exact excludedInDirectories plain (Except.ok.inj read).symm
  · intro q mem present
    obtain ⟨core,spelled⟩ := Option.isSome_iff_exists.mp present
    exact excludingRoot mem spelled

theorem excludedInDependencies :
    let r : Request := ⟨none,some .default,[],[],[],false⟩
    let root := Path.ofString "/home/app"
    let other := Path.ofString "/home/node_modules/app"
    let p := Path.ofString "pkg/m.py"
    ∃ x, setUp ⟨true,[]⟩ r = .ok x ∧
      setUp ⟨true,[]⟩ { r with root := some other } = .ok (x.rootedAt other) ∧
      (x.rootedAt root).isExcluded (root.join p) = false ∧
      (x.rootedAt other).isExcluded (other.join p) = true := by
  intro r root other p
  have plain : ∀ d ∈ [".tox","node_modules",".venv"], Pattern.IsPlain d := by
    intro d mem
    simp only [List.mem_cons,List.not_mem_nil,or_false] at mem
    rcases mem with rfl | rfl | rfl <;> exact ⟨by decide,List.all_eq_true.mp (by decide),by decide⟩
  have texts : r.excludeTexts = [".tox","node_modules",".venv"].map fun d => "**/" ++ d ++ "/**" := by decide
  have done : setUp ⟨true,[]⟩ r = .ok ⟨r.absoluteRoot ⟨true,[]⟩,[],
      [".tox","node_modules",".venv"].map .directory,[],.default,false⟩ := by
    rw [setUp,texts,parseDirectories plain]
    rfl
  obtain ⟨rooted,_,_,byName,_⟩ := exclusionByRoot done (by decide)
  have below : LiesBelow p := ⟨by decide,by decide⟩
  have named (root : Path) (absolute : root.isAbsolute = true) (whole : IsWhole root.pieces) :=
    byName _ plain texts root p absolute whole below (Path.ofStringWhole _)
  refine ⟨_,done,rooted other (by decide),Bool.eq_false_iff.mpr fun hit => ?_,?_⟩
  · have found := (named root (by decide) (Path.ofStringWhole _)).mp hit
    revert found
    decide
  · exact (named other (by decide) (Path.ofStringWhole _)).mpr (by decide)

end Inspection

end ConventionLint
