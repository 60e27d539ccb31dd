import Mathlib.Data.List.Infix
import ConventionLint.Proofs.Storage.Store

/-! The way up from what a path leads to. A key is grounded if all above it are directories and its names
stand for themselves. From a grounded directory paths lead to grounded keys only, and the path of such
a key has the paths of all keys above it as its ancestors. -/
namespace ConventionLint.Storage

structure Store.Grounded (s : Store) (k : Key) : Prop where
  names : ∀ name ∈ k, Path.counts name = true ∧ name ≠ ".."
  directories : ∀ j, j <+: k → j ≠ k → s.isDirectoryAt j = true

namespace Store
variable {s : Store} {j k : Key} {name : String}

theorem rootGrounded (s : Store) : s.Grounded [] :=
  ⟨by simp,fun _ above other => absurd (List.prefix_nil.mp above) other⟩

theorem Grounded.above (grounded : s.Grounded k) (above : j <+: k) : s.Grounded j := by
  refine ⟨fun name mem => grounded.names name (above.subset mem),fun i higher other => ?_⟩
  refine grounded.directories i (higher.trans above) ?_
  rintro rfl
  exact other (higher.eq_of_length_le above.length_le)

theorem Grounded.below (grounded : s.Grounded k) (isDirectory : s.isDirectoryAt k = true)
    (counts : Path.counts name = true) (notUp : name ≠ "..") : s.Grounded (k ++ [name]) := by
  refine ⟨fun own mem => ?_,fun j above other => ?_⟩
  · rcases List.mem_append.mp mem with before | last
    · exact grounded.names own before
    · obtain rfl := List.mem_singleton.mp last
      exact ⟨counts,notUp⟩
  · rcases List.prefix_concat_iff.mp above with same | above
    · exact absurd same other
    · by_cases same : j = k
      · exact same ▸ isDirectory
      · exact grounded.directories j above same

theorem Grounded.directory (grounded : s.Grounded (k ++ [name])) : s.isDirectoryAt k = true :=
  grounded.directories k (List.prefix_append _ _) (by simp)

theorem idleIff {piece : String} : Path.counts piece = false ↔ piece = "" ∨ piece = "." := by
  by_cases empty : piece = ""
  · simp [Path.counts,empty]
  · simp [Path.counts,empty]

theorem stepCases {piece : String} (taken : s.step k piece = some j) :
    s.isDirectoryAt k = true ∧
      ((Path.counts piece = false ∧ j = k) ∨ (piece = ".." ∧ j = k.dropLast) ∨
        (Path.counts piece = true ∧ piece ≠ ".." ∧ j = k ++ [piece])) := by
  unfold step at taken
  split at taken
  · cases taken
  · next isDirectory =>
    refine ⟨by simpa using isDirectory,?_⟩
    split at taken
    · next idle => exact .inl ⟨idleIff.mpr (by simpa using idle),(Option.some.inj taken).symm⟩
    · next busy =>
      split at taken
      · next up => exact .inr (.inl ⟨by simpa using up,(Option.some.inj taken).symm⟩)
      · next notUp =>
        exact .inr (.inr ⟨by simpa [Path.counts] using busy,by simpa using notUp,
          (Option.some.inj taken).symm⟩)

theorem stepOfIdle {piece : String} (isDirectory : s.isDirectoryAt k = true)
    (idle : Path.counts piece = false) : s.step k piece = some k := by
  simp [step,isDirectory,idleIff.mp idle]

theorem stepOfName (isDirectory : s.isDirectoryAt k = true) (counts : Path.counts name = true)
    (notUp : name ≠ "..") : s.step k name = some (k ++ [name]) := by
  have something : name ≠ "" ∧ name ≠ "." := by simpa [Path.counts] using counts
  simp [step,isDirectory,something.1,something.2,notUp]

theorem Grounded.step {piece : String} (grounded : s.Grounded k) (taken : s.step k piece = some j) :
    s.Grounded j := by
  obtain ⟨isDirectory,⟨-,rfl⟩ | ⟨-,rfl⟩ | ⟨counts,notUp,rfl⟩⟩ := stepCases taken
  · exact grounded
  · exact grounded.above (List.dropLast_prefix k)
  · exact grounded.below isDirectory counts notUp

theorem Grounded.walk {pieces : List String} (grounded : s.Grounded k)
    (walked : pieces.foldlM s.step k = some j) : s.Grounded j := by
  induction pieces generalizing k with
  | nil => exact Option.some.inj walked ▸ grounded
  | cons piece pieces ih =>
    obtain ⟨first,taken,rest⟩ := Option.bind_eq_some_iff.mp walked
    exact ih (grounded.step taken) rest

def origin (s : Store) (p : Path) : Key := if p.isAbsolute then [] else s.current

theorem locateCases {p : Path} (place : s.locate? p = some k) :
    p.toString.isEmpty = false ∧ p.pieces.foldlM s.step (s.origin p) = some k := by
  unfold locate? at place
  split at place
  · cases place
  · next nonempty => exact ⟨by simpa using nonempty,place⟩

theorem groundedOrigin (current : s.Grounded s.current) (p : Path) : s.Grounded (s.origin p) := by
  unfold origin
  split
  · exact rootGrounded s
  · exact current

theorem groundedLocate (current : s.Grounded s.current) {p : Path} (place : s.locate? p = some k) :
    s.Grounded k :=
  (groundedOrigin current p).walk (locateCases place).2

theorem Grounded.walks (grounded : s.Grounded k) : k.foldlM s.step [] = some k := by
  induction k using List.reverseRecOn with
  | nil => rfl
  | append_singleton k name ih =>
    obtain ⟨counts,notUp⟩ := grounded.names name (by simp)
    rw [List.foldlM_append,ih (grounded.above (List.prefix_append _ _))]
    simpa using stepOfName grounded.directory counts notUp

theorem Grounded.locate (grounded : s.Grounded k) : s.locate? (.ofKey k) = some k := by
  have nonempty : (Path.ofKey k).toString.isEmpty = false := by
    rw [Bool.eq_false_iff,ne_eq,String.isEmpty_iff]
    simp [Path.toString,Path.ofKey]
  rw [locate?,nonempty]
  exact grounded.walks

end Store

namespace Path
variable {s : Store} {pieces : List String} {name : String}

theorem trimEndIdle {piece : String} (idle : counts piece = false) :
    trimEnd (pieces ++ [piece]) = trimEnd pieces := by
  simp [trimEnd,idle]

theorem trimEndCounts (busy : counts name = true) : trimEnd (pieces ++ [name]) = pieces ++ [name] := by
  simp [trimEnd,busy]

theorem trimEndWalk {start j : Key} (walked : pieces.foldlM s.step start = some j) :
    (trimEnd pieces).foldlM s.step start = some j := by
  induction pieces using List.reverseRecOn generalizing j with
  | nil => exact walked
  | append_singleton pieces piece ih =>
    cases idle : counts piece with
    | true => rwa [trimEndCounts idle]
    | false =>
      rw [trimEndIdle idle]
      rw [List.foldlM_append] at walked
      obtain ⟨reached,before,last⟩ := Option.bind_eq_some_iff.mp walked
      have taken : s.step reached piece = some j := by simpa using last
      obtain ⟨-,⟨-,rfl⟩ | ⟨rfl,-⟩ | ⟨busy,-⟩⟩ := Store.stepCases taken
      · exact ih before
      · cases idle
      · exact absurd busy (by simp [idle])

theorem trimEndCases (pieces : List String) :
    trimEnd pieces = [] ∨ ∃ before name, trimEnd pieces = before ++ [name] ∧ counts name = true := by
  induction pieces using List.reverseRecOn with
  | nil => exact .inl rfl
  | append_singleton pieces piece ih =>
    cases idle : counts piece with
    | true => exact .inr ⟨pieces,piece,trimEndCounts idle,idle⟩
    | false => rwa [trimEndIdle idle]

theorem trimEndOfCounts (names : ∀ name ∈ pieces, counts name = true) : trimEnd pieces = pieces := by
  rcases List.eq_nil_or_concat pieces with rfl | ⟨before,last,rfl⟩
  · rfl
  · rw [List.concat_eq_append] at names ⊢
    exact trimEndCounts (names last (by simp))

theorem trimEndFilter (pieces : List String) : (trimEnd pieces).filter counts = pieces.filter counts := by
  induction pieces using List.reverseRecOn with
  | nil => rfl
  | append_singleton pieces piece ih =>
    cases idle : counts piece with
    | true => rw [trimEndCounts idle]
    | false => rw [trimEndIdle idle,ih,List.filter_append,List.filter_singleton,idle]; simp

theorem lastPart {p : Path} {before : List String} (ends : trimEnd p.pieces = before ++ [name])
    (busy : counts name = true) : p.parts.getLast? = some (partOf name) := by
  rw [parts,← trimEndFilter,ends,List.filter_append,List.filter_singleton,busy,cond_true,List.map_append,
    ← List.append_assoc,List.map_singleton,List.getLast?_concat]

theorem partsConcat (absolute : Bool) (busy : counts name = true) :
    (⟨absolute,pieces ++ [name]⟩ : Path).parts.getLast? = some (partOf name) :=
  lastPart (trimEndCounts busy) busy

theorem partOfName (notUp : name ≠ "..") : partOf name = .name name := by simp [partOf,notUp]

theorem parentConcat (absolute : Bool) (busy : counts name = true) (notUp : name ≠ "..") :
    (⟨absolute,pieces ++ [name]⟩ : Path).parent? = some ⟨absolute,
      if (trimEnd pieces).isEmpty && (⟨absolute,pieces ++ [name]⟩ : Path).start == [.here] then ["."]
      else trimEnd pieces⟩ := by
  simp only [parent?,partsConcat absolute busy,partOfName notUp,trimEndCounts busy,List.dropLast_concat]

theorem parentOfKey {k : Key} (grounded : s.Grounded (k ++ [name])) :
    (ofKey (k ++ [name])).parent? = some (ofKey k) := by
  obtain ⟨busy,notUp⟩ := grounded.names name (by simp)
  have whole : trimEnd k = k := trimEndOfCounts fun own mem => (grounded.names own (by simp [mem])).1
  simp [ofKey,parentConcat true busy notUp,whole,start]

theorem childOfKey {k : Key} (grounded : s.Grounded k) (plain : Plain name) :
    (ofKey k).child name = ofKey (k ++ [name]) := by
  have closed : k = [] ∨ (k.getLastD "").isEmpty = false := by
    rcases List.eq_nil_or_concat k with rfl | ⟨before,last,rfl⟩
    · exact .inl rfl
    · have busy := (grounded.names last (by simp)).1
      refine .inr ?_
      rw [Bool.eq_false_iff,ne_eq,String.isEmpty_iff]
      rintro ended
      simp [counts,show last = "" by simpa using ended] at busy
  rcases closed with rfl | closed
  · simp [child,plain.piece,join,ofKey]
  · simp only [child,plain.piece,join,ofKey,closed,Bool.false_eq_true,if_false]

end Path

def upward (k : Key) : List Key := k.inits.reverse

theorem upwardTop : upward [] = [[]] := rfl

theorem upwardConcat (k : Key) (name : String) :
    upward (k ++ [name]) = (k ++ [name]) :: upward k := by
  simp [upward,List.inits_append]

namespace Path
variable {s : Store}

theorem chainOfKey {k : Key} (grounded : s.Grounded k) {n : Nat} (enough : k.length < n) :
    chain n (ofKey k) = (upward k).map ofKey := by
  induction k using List.reverseRecOn generalizing n with
  | nil =>
    obtain ⟨n,rfl⟩ := Nat.exists_eq_succ_of_ne_zero (Nat.ne_of_gt enough)
    rfl
  | append_singleton k name ih =>
    obtain ⟨n,rfl⟩ := Nat.exists_eq_succ_of_ne_zero (Nat.ne_of_gt (Nat.zero_lt_of_lt enough))
    have rest : k.length < n := by simpa using enough
    rw [chain,parentOfKey grounded,upwardConcat,List.map_cons]
    exact congrArg _ (ih (grounded.above (List.prefix_append _ _)) rest)

theorem ancestorsOfKey {k : Key} (grounded : s.Grounded k) :
    (ofKey k).ancestors = (upward k).map ofKey := by
  have counted : k.filter counts = k := List.filter_eq_self.mpr fun name mem => (grounded.names name mem).1
  have size : (ofKey k).parts.length = k.length + 1 := by
    simp [parts,start,ofKey,counted]
  exact chainOfKey grounded (by omega)

theorem fileName {p : Path} {k : Key} (current : s.Grounded s.current) (place : s.locate? p = some k)
    (file : (s.contentAt? k).isSome = true) :
    ∃ before name directory, p.pieces = before ++ [name] ∧ counts name = true ∧ name ≠ ".." ∧
      k = directory ++ [name] ∧ s.isDirectoryAt directory = true ∧
      before.foldlM s.step (s.origin p) = some directory := by
  obtain ⟨nonempty,walked⟩ := Store.locateCases place
  have notDirectory : s.isDirectoryAt k = false := by
    obtain ⟨content,there⟩ := Option.isSome_iff_exists.mp file
    simp [Store.isDirectoryAt,Store.contentIff.mp there]
  rcases List.eq_nil_or_concat p.pieces with noPieces | ⟨before,piece,split⟩
  · obtain rfl : s.origin p = k := by simpa [noPieces] using walked
    cases absolute : p.isAbsolute with
    | true => simp [Store.origin,absolute,Store.isDirectoryAt,Store.entry?] at notDirectory
    | false => simp [toString,noPieces,absolute] at nonempty
  · rw [List.concat_eq_append] at split
    rw [split,List.foldlM_append] at walked
    obtain ⟨directory,reached,last⟩ := Option.bind_eq_some_iff.mp walked
    have taken : s.step directory piece = some k := by simpa using last
    obtain ⟨isDirectory,⟨-,rfl⟩ | ⟨-,rfl⟩ | ⟨busy,notUp,rfl⟩⟩ := Store.stepCases taken
    · simp [isDirectory] at notDirectory
    · have grounded := (Store.groundedOrigin current p).walk reached
      by_cases same : directory.dropLast = directory
      · simp [same,isDirectory] at notDirectory
      · simp [grounded.directories _ (List.dropLast_prefix _) same] at notDirectory
    · exact ⟨before,piece,directory,split,busy,notUp,rfl,isDirectory,reached⟩

theorem locateHere (isDirectory : s.isDirectoryAt s.current = true) :
    s.locate? (.ofString ".") = some s.current := by
  have taken : s.step s.current "." = some s.current := Store.stepOfIdle isDirectory (by decide)
  simpa [Store.locate?,show ofString "." = ⟨false,["."]⟩ by decide,toString] using taken

theorem parentLeads {p : Path} {k : Key} (current : s.Grounded s.current)
    (place : s.locate? p = some k) (file : (s.contentAt? k).isSome = true) :
    ∃ above, p.parent? = some above ∧
      s.locate? (if above.toString.isEmpty then .ofString "." else above) = some k.dropLast := by
  obtain ⟨before,name,directory,split,busy,notUp,rfl,isDirectory,reached⟩ := fileName current place file
  have trimmed := trimEndWalk reached
  obtain ⟨absolute,pieces⟩ := p
  obtain rfl : pieces = before ++ [name] := split
  refine ⟨_,parentConcat absolute busy notUp,?_⟩
  rw [List.dropLast_concat]
  rcases trimEndCases before with nothingLeft | ⟨front,last,ends,lastBusy⟩
  · obtain rfl : s.origin ⟨absolute,before ++ [name]⟩ = directory := by simpa [nothingLeft] using trimmed
    cases absolute with
    | true => simp [nothingLeft,start,toString,Store.locate?,Store.origin]
    | false =>
      have here : s.locate? (.ofString ".") = some s.current := locateHere isDirectory
      simp only [nothingLeft]
      split
      · exact here
      · split
        · exact here
        · next other => exact absurd rfl other
  · have named : last ≠ "" := by
      rintro rfl
      cases lastBusy
    have nonempty : (trimEnd before).isEmpty = false := by simp [ends]
    rw [nonempty,Bool.false_and,if_neg Bool.false_ne_true,ends,toStringNonempty named,
      if_neg Bool.false_ne_true,Store.locate?,toStringNonempty named,if_neg Bool.false_ne_true,← ends]
    exact trimmed

end Path

end ConventionLint.Storage
