import Mathlib.Data.List.Infix
import ConventionLint.Storage.Store

/-! What a change of the store does to each key, and what it leaves as it was. Where a path leads
depends on the directories alone, so no change of a file turns a path elsewhere. -/
namespace ConventionLint.Storage
open ConventionLint.Text (Bytes)

namespace Store

section Keys
variable {s t : Store} {k key source target : Key} {e : Entry}

theorem entryOfSome (nonempty : key ≠ []) : s.entry? key = s.entries.lookup key := by
  simp [ entry?,nonempty]

theorem lookupFirst (entry : Key × Entry) (entries : List (Key × Entry)) (key : Key) :
    (entry :: entries).lookup key = if key = entry.1 then some entry.2 else entries.lookup key := by
  obtain ⟨own,e⟩ := entry
  by_cases same : key = own
  · simp [same]
  · have other : (key == own) = false := beq_eq_false_iff_ne.mpr same
    simp [List.lookup_cons,other,same]

theorem lookupFilter (entries : List (Key × Entry)) (k key : Key) :
    (entries.filter fun e => e.1 != k).lookup key = if key = k then none else entries.lookup key := by
  induction entries with
  | nil => simp
  | cons entry entries ih =>
    rw [List.filter_cons]
    by_cases dropped : entry.1 = k
    · simp only [dropped,bne_self_eq_false,Bool.false_eq_true,if_false,ih,lookupFirst]
      by_cases same : key = k
      · simp [same]
      · simp [same]
    · simp only [bne_iff_ne,ne_eq,dropped,not_false_eq_true,if_true,lookupFirst,ih]
      by_cases same : key = entry.1
      · simp [same,dropped]
      · simp [same]

theorem entryErase (nonempty : k ≠ []) :
    Store.entry? (s.erase k) key = if key = k then none else s.entry? key := by
  by_cases top : key = []
  · simp [ entry?,top,nonempty.symm]
  · rw [entryOfSome top,entryOfSome top]
    exact lookupFilter s.entries k key

theorem entryInsert (nonempty : k ≠ []) :
    Store.entry? (s.insert k e) key = if key = k then some e else s.entry? key := by
  by_cases top : key = []
  · simp [ entry?,top,nonempty.symm]
  · rw [entryOfSome top,entryOfSome top]
    simp only [insert,erase,List.lookup_append,lookupFilter,lookupFirst,List.lookup_nil]
    by_cases same : key = k
    · simp [same]
    · simp [same]

def Leaf (s : Store) (k : Key) : Prop := ∀ key, k <+: key → key ≠ k → s.entry? key = none

def FilesAreLeaves (s : Store) : Prop := ∀ key content, s.entry? key = some (.file content) → s.Leaf key

theorem Leaf.entries (leaf : s.Leaf k) : ∀ e ∈ s.entries, k <+: e.1 → e.1 = k := by
  intro e mem below
  by_contra other
  have nothing := leaf e.1 below other
  have nonempty : e.1 ≠ [] := by
    intro top
    rw [top,List.prefix_nil] at below
    exact other (by rw [top,below])
  rw [entryOfSome nonempty,List.lookup_eq_none_iff] at nothing
  simpa using nothing e mem

theorem memOfEntry (nonempty : key ≠ []) (found : s.entry? key = some e) : (key,e) ∈ s.entries := by
  rw [entryOfSome nonempty] at found
  obtain ⟨before,after,split,_⟩ := List.lookup_eq_some_iff.mp found
  simp [split]

theorem leavesOfEntries (apart : ∀ a ∈ s.entries, ∀ b ∈ s.entries,
    a.2 ≠ .directory → a.1 <+: b.1 → b.1 = a.1) : s.FilesAreLeaves := by
  intro key content found other below deeper
  have nonempty : key ≠ [] := by
    rintro rfl
    cases found
  have otherSome : other ≠ [] := by
    rintro rfl
    exact nonempty (List.prefix_nil.mp below)
  cases there : s.entry? other with
  | none => rfl
  | some e =>
    have := apart _ (memOfEntry nonempty found) _ (memOfEntry otherSome there) nofun below
    exact absurd this deeper

theorem moveKeyOfLeaf (leaf : source <+: key → key = source) :
    moveKey source target key = if key = source then target else key := by
  by_cases same : key = source
  · simp [moveKey,same]
  · have apart : source.isPrefixOf key = false := by
      rw [Bool.eq_false_iff,ne_eq,List.isPrefixOf_iff_prefix]
      exact fun below => same (leaf below)
    simp [moveKey,same,apart]

theorem lookupMoved {entries : List (Key × Entry)} (apart : source ≠ target)
    (free : ∀ e ∈ entries, e.1 ≠ target) (leaf : ∀ e ∈ entries, source <+: e.1 → e.1 = source) :
    (entries.map fun e => (moveKey source target e.1,e.2)).lookup key =
      if key = target then entries.lookup source
      else if key = source then none else entries.lookup key := by
  induction entries with
  | nil => simp
  | cons entry entries ih =>
    have rest := ih (fun e mem => free e (List.mem_cons_of_mem _ mem))
      (fun e mem => leaf e (List.mem_cons_of_mem _ mem))
    have other : entry.1 ≠ target := free entry List.mem_cons_self
    rw [List.map_cons,moveKeyOfLeaf (leaf entry List.mem_cons_self)]
    simp only [lookupFirst,rest]
    by_cases moved : entry.1 = source
    · by_cases here : key = target
      · simp [moved,here]
      · by_cases there : key = source
        · simp [moved,there,apart]
        · simp [moved,here,there]
    · by_cases here : key = target
      · simp [moved,here,other.symm,Ne.symm moved]
      · by_cases there : key = source
        · simp [moved,there,Ne.symm moved]
        · simp [moved,here,there]

theorem entryMove (fromBelow : source ≠ []) (toBelow : target ≠ []) (apart : source ≠ target)
    (leaf : s.Leaf source) :
    Store.entry? (s.move source target) key =
      if key = target then s.entry? source else if key = source then none else s.entry? key := by
  have free : ∀ e ∈ (s.erase target).entries, e.1 ≠ target := by
    intro e mem
    simpa using (List.mem_filter.mp mem).2
  have kept : ∀ e ∈ (s.erase target).entries, source <+: e.1 → e.1 = source :=
    fun e mem => leaf.entries e (List.mem_filter.mp mem).1
  by_cases top : key = []
  · subst top
    simp [ entry?,fromBelow.symm,toBelow.symm]
  · rw [entryOfSome top,entryOfSome top,entryOfSome fromBelow]
    refine (lookupMoved apart free kept).trans ?_
    simp only [erase,lookupFilter,apart,if_false]
    by_cases here : key = target
    · simp [here]
    · simp [here]

theorem contentIff {content : Bytes} :
    s.contentAt? key = some content ↔ s.entry? key = some (.file content) := by
  unfold contentAt?
  split
  · next found => simp [found]
  · next other => simpa using fun same => other content same

theorem contentCongr (same : s.entry? key = t.entry? key) : s.contentAt? key = t.contentAt? key := by
  simp only [contentAt?,same]

end Keys

structure SameDirectories (s t : Store) : Prop where
  current : s.current = t.current
  directories : ∀ key, s.isDirectoryAt key = t.isDirectoryAt key

theorem SameDirectories.locate {s t : Store} (same : s.SameDirectories t) (p : Path) :
    s.locate? p = t.locate? p := by
  have step : s.step = t.step := by
    funext k piece
    simp only [Store.step,same.directories]
  simp only [locate?,step,same.current]

theorem SameDirectories.trans {s t u : Store} (first : s.SameDirectories t)
    (second : t.SameDirectories u) : s.SameDirectories u :=
  ⟨first.current.trans second.current,fun key => (first.directories key).trans (second.directories key)⟩

theorem SameDirectories.insert {s : Store} {k : Key} {content : Bytes} (nonempty : k ≠ [])
    (plain : s.isDirectoryAt k = false) : (s.insert k (.file content)).SameDirectories s := by
  refine ⟨rfl,fun key => ?_⟩
  by_cases same : key = k
  · subst same
    rw [plain]
    simp [isDirectoryAt,entryInsert nonempty]
  · simp [isDirectoryAt,entryInsert nonempty,same]

theorem SameDirectories.erase {s : Store} {k : Key} (nonempty : k ≠ [])
    (plain : s.isDirectoryAt k = false) : (s.erase k).SameDirectories s := by
  refine ⟨rfl,fun key => ?_⟩
  by_cases same : key = k
  · subst same
    rw [plain]
    simp [isDirectoryAt,entryErase nonempty]
  · simp [isDirectoryAt,entryErase nonempty,same]

theorem SameDirectories.move {s : Store} {source target : Key} (fromBelow : source ≠ [])
    (toBelow : target ≠ []) (apart : source ≠ target) (leaf : s.Leaf source)
    (plain : s.isDirectoryAt source = false) (free : s.isDirectoryAt target = false) :
    (s.move source target).SameDirectories s := by
  refine ⟨rfl,fun key => ?_⟩
  by_cases here : key = target
  · subst here
    rw [free,← plain]
    simp [isDirectoryAt,entryMove fromBelow toBelow apart leaf]
  · by_cases there : key = source
    · subst there
      rw [plain]
      simp [isDirectoryAt,entryMove fromBelow toBelow apart leaf,here]
    · simp [isDirectoryAt,entryMove fromBelow toBelow apart leaf,here,there]

end Store

structure Plain (name : String) : Prop where
  piece : Path.ofString name = ⟨false,[name]⟩
  nonempty : name ≠ ""
  notHere : name ≠ "."
  notUp : name ≠ ".."

theorem Plain.step {name : String} (plain : Plain name) {s : Store} {d : Key}
    (isDirectory : s.isDirectoryAt d = true) : s.step d name = some (d ++ [name]) := by
  simp [Store.step,isDirectory,plain.nonempty,plain.notHere,plain.notUp]

theorem toStringNonempty {absolute : Bool} {pieces : List String} {name : String}
    (nonempty : name ≠ "") : (⟨absolute,pieces ++ [name]⟩ : Path).toString.isEmpty = false := by
  rw [Bool.eq_false_iff,ne_eq,String.isEmpty_iff]
  have joined : "/".intercalate (pieces ++ [name]) ≠ "" := by
    by_cases alone : pieces = []
    · simpa [alone] using nonempty
    · rw [String.intercalate_append_of_ne_nil alone (by simp),String.intercalate_singleton]
      simp [nonempty]
  simp [Path.toString,joined]

theorem Store.foldlStepTrimmed {s : Store} {start d : Key} {pieces : List String}
    (place : pieces.foldlM s.step start = some d) (ended : pieces.getLastD "" = "") :
    pieces.dropLast.foldlM s.step start = some d := by
  rcases List.eq_nil_or_concat pieces with rfl | ⟨before,last,rfl⟩
  · exact place
  · obtain rfl : last = "" := by simpa using ended
    rw [List.concat_eq_append] at place ⊢
    rw [List.foldlM_append] at place
    obtain ⟨reached,found,ends⟩ := Option.bind_eq_some_iff.mp place
    have stays : reached = d := by
      simp only [List.foldlM_cons,List.foldlM_nil,Store.step] at ends
      split at ends
      · cases ends
      · simpa using ends
    rw [List.dropLast_concat,found,stays]

theorem Plain.locate {name : String} (plain : Plain name) {s : Store} {dir : Path} {d : Key}
    (place : s.locate? dir = some d) (isDirectory : s.isDirectoryAt d = true) :
    s.locate? (dir.child name) = some (d ++ [name]) := by
  have walked : dir.pieces.foldlM s.step (if dir.isAbsolute then [] else s.current) = some d := by
    unfold Store.locate? at place
    split at place
    · cases place
    · exact place
  have ends {pieces : List String}
      (reached : pieces.foldlM s.step (if dir.isAbsolute then [] else s.current) = some d) :
      s.locate? ⟨dir.isAbsolute,pieces ++ [name]⟩ = some (d ++ [name]) := by
    simp only [Store.locate?,toStringNonempty plain.nonempty,Bool.false_eq_true,if_false,
      List.foldlM_append,reached]
    simpa using plain.step isDirectory
  simp only [Path.child,plain.piece,Path.join,Bool.false_eq_true,if_false]
  split
  · next ended => exact ends (Store.foldlStepTrimmed walked (String.isEmpty_iff.mp ended))
  · exact ends walked

theorem Plain.beside {name : String} (plain : Plain name) {s : Store} {dir : Path} {key : Key}
    (place : s.locate? (dir.child name) = some key) :
    ∃ d, key = d ++ [name] ∧
      ∀ other, Plain other → s.locate? (dir.child other) = some (d ++ [other]) := by
  obtain ⟨pieces,leads⟩ : ∃ pieces, ∀ other, Plain other →
      dir.child other = ⟨dir.isAbsolute,pieces ++ [other]⟩ := by
    by_cases ended : (dir.pieces.getLastD "").isEmpty
    · exact ⟨dir.pieces.dropLast,fun other plain => by
        simp only [Path.child,plain.piece,Path.join,ended,Bool.false_eq_true,if_false,if_true]⟩
    · exact ⟨dir.pieces,fun other plain => by
        simp only [Path.child,plain.piece,Path.join,ended,Bool.false_eq_true,if_false]⟩
  simp only [leads name plain,Store.locate?,toStringNonempty plain.nonempty,Bool.false_eq_true,if_false,
    List.foldlM_append] at place
  obtain ⟨d,walked,last⟩ := Option.bind_eq_some_iff.mp place
  have isDirectory : s.isDirectoryAt d = true := by
    by_contra other
    simp [Store.step,other] at last
  refine ⟨d,?_,?_⟩
  · simpa [plain.step isDirectory] using last.symm
  · intro other plainOther
    simp only [leads other plainOther,Store.locate?,toStringNonempty plainOther.nonempty,
      Bool.false_eq_true,if_false,List.foldlM_append,walked]
    simpa using plainOther.step isDirectory

end ConventionLint.Storage
