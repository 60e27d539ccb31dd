import ConventionLint.Command.Copies
import ConventionLint.Proofs.Storage.Sealed
import ConventionLint.Proofs.Storage.Store

/-! Copies are written into a directory in which a user works too. A copy that is not intact any more is
kept under the name of its backup; nothing but a copy and its backup is touched. -/
namespace ConventionLint.Copy
open ConventionLint.Storage ConventionLint.Text

theorem knownPlain {k : Known} (mem : k ∈ known) : Plain k.name ∧ Plain k.backupName := by
  simp only [known,List.mem_cons,List.not_mem_nil,or_false] at mem
  rcases mem with rfl | rfl | rfl <;>
    exact ⟨⟨by decide,by decide,by decide,by decide⟩,⟨by decide,by decide,by decide,by decide⟩⟩

theorem backupApart {k : Known} (mem : k ∈ known) : k.name ≠ k.backupName := by
  simp only [known,List.mem_cons,List.not_mem_nil,or_false] at mem
  rcases mem with rfl | rfl | rfl <;> decide

theorem knownByName {k : Known} (mem : k ∈ known) : Known.ofName? k.name = some k := by
  simp only [known,List.mem_cons,List.not_mem_nil,or_false] at mem
  rcases mem with rfl | rfl | rfl <;> rfl

theorem ofNameKnown {name : String} {k : Known} (found : Known.ofName? name = some k) :
    k ∈ known ∧ k.name = name := by
  have named := List.find?_some found
  exact ⟨List.mem_of_find?_eq_some found,by simpa using named⟩

theorem knownComment {k : Known} (mem : k ∈ known) :
    ∃ before, k.comment.toList = before ++ Sealed.mark ++ [] ∧ before ∈ ["# ".toList,"-- ".toList] := by
  simp only [known,List.mem_cons,List.not_mem_nil,or_false] at mem
  rcases mem with rfl | rfl | rfl
  · exact ⟨"# ".toList,by decide,by decide⟩
  · exact ⟨"# ".toList,by decide,by decide⟩
  · exact ⟨"-- ".toList,by decide,by decide⟩

theorem knownIntact {k : Known} (mem : k ∈ known) : Sealed.verify k.content = true := by
  obtain ⟨before,comment,among⟩ := knownComment mem
  have short : before.length < 40 ∧ ¬ Sealed.mark <:+: before ∧ '\n' ∉ before ++ [] ∧
      before.getLast? = some ' ' := by
    simp only [List.mem_cons,List.not_mem_nil,or_false] at among
    rcases among with rfl | rfl <;> decide
  obtain ⟨few,first,oneLine,ends⟩ := short
  rw [Known.content,comment]
  refine Sealed.verifyRender first oneLine ?_ ?_ k.body
  · intro run inside size
    have := inside.length_le
    omega
  · intro c last
    rw [ends] at last
    cases last
    decide

def Reaches (s : Store) (steps : List Step) (t : Store) : Prop :=
  (follow s steps).isDone = true ∧ (follow s steps).store = t

section Reaches
variable {s m t : Store} {steps more : List Step}

theorem Reaches.done : Reaches s [] s := ⟨rfl,rfl⟩

theorem Reaches.step {first : Step} (taken : first.apply? s = some m) (rest : Reaches m steps t) :
    Reaches s (first :: steps) t := by
  unfold Reaches follow
  rw [taken]
  exact rest

theorem Reaches.say {line : String} (rest : Reaches s steps t) : Reaches s (.say line :: steps) t :=
  Reaches.step rfl rest

theorem Reaches.append (first : Reaches s steps m) (second : Reaches m more t) :
    Reaches s (steps ++ more) t := by
  induction steps generalizing s with
  | nil =>
    obtain ⟨_,rfl⟩ := first
    exact second
  | cons step steps ih =>
    cases taken : step.apply? s with
    | none => simp [Reaches,follow,taken] at first
    | some next =>
      have rest : Reaches next steps m := by simpa [Reaches,follow,taken] using first
      exact .step taken (ih rest)

end Reaches

structure FilesIn (s : Store) (dir : Path) (d : Key) : Prop where
  place : s.locate? dir = some d
  isDirectory : s.isDirectoryAt d = true
  files : ∀ key e, d <+: key → key ≠ d → s.entry? key = some e →
    ∃ name content, key = d ++ [name] ∧ e = .file content

namespace FilesIn
variable {s t : Store} {dir : Path} {d : Key}

theorem entry (held : FilesIn s dir d) (name : String) :
    s.entry? (d ++ [name]) = none ∨ ∃ content, s.entry? (d ++ [name]) = some (.file content) := by
  cases found : s.entry? (d ++ [name]) with
  | none => exact .inl rfl
  | some e =>
    obtain ⟨_,content,_,rfl⟩ := held.files _ e (List.prefix_append d [name]) (by simp) found
    exact .inr ⟨content,rfl⟩

theorem plain (held : FilesIn s dir d) (name : String) : s.isDirectoryAt (d ++ [name]) = false := by
  rcases held.entry name with absent | ⟨content,there⟩
  · simp [Store.isDirectoryAt,absent]
  · simp [Store.isDirectoryAt,there]

theorem leaf (held : FilesIn s dir d) (name : String) : s.Leaf (d ++ [name]) := by
  intro key below other
  cases found : s.entry? key with
  | none => rfl
  | some e =>
    have within : d <+: key := (List.prefix_append d [name]).trans below
    have deeper : key ≠ d := by
      rintro rfl
      have := below.length_le
      simp at this
    obtain ⟨name',content,rfl,_⟩ := held.files key e within deeper found
    have same := List.append_cancel_left (below.eq_of_length (by simp))
    exact absurd (by rw [same]) other

theorem change (held : FilesIn s dir d) (same : t.SameDirectories s)
    (brought : ∀ key e, t.entry? key = some e → s.entry? key = some e ∨
      ∃ name content, key = d ++ [name] ∧ e = .file content) : FilesIn t dir d := by
  refine ⟨?_,?_,?_⟩
  · rw [same.locate]
    exact held.place
  · rw [same.directories]
    exact held.isDirectory
  · intro key e below other found
    rcases brought key e found with before | new
    · exact held.files key e below other before
    · exact new

theorem insert (held : FilesIn s dir d) (name : String) (content : Bytes) :
    FilesIn (s.insert (d ++ [name]) (.file content)) dir d := by
  refine held.change (.insert (by simp) (held.plain name)) ?_
  intro key e found
  rw [Store.entryInsert (by simp)] at found
  split at found
  · next here => exact .inr ⟨name,content,here,by cases found; rfl⟩
  · exact .inl found

theorem erase (held : FilesIn s dir d) (name : String) : FilesIn (s.erase (d ++ [name])) dir d := by
  refine held.change (.erase (by simp) (held.plain name)) ?_
  intro key e found
  rw [Store.entryErase (by simp)] at found
  split at found
  · cases found
  · exact .inl found

theorem move (held : FilesIn s dir d) {name other : String} (apart : name ≠ other) :
    FilesIn (s.move (d ++ [name]) (d ++ [other])) dir d := by
  have keysApart : d ++ [name] ≠ d ++ [other] := by simpa using apart
  refine held.change (.move (by simp) (by simp) keysApart (held.leaf name) (held.plain name)
    (held.plain other)) ?_
  intro key e found
  rw [Store.entryMove (by simp) (by simp) keysApart (held.leaf name)] at found
  split at found
  · next here =>
    rcases held.entry name with absent | ⟨content,there⟩
    · rw [absent] at found
      cases found
    · rw [there] at found
      exact .inr ⟨other,content,here,by cases found; rfl⟩
  · split at found
    · cases found
    · exact .inl found

theorem reads (held : FilesIn s dir d) {name : String} (plain : Plain name) :
    s.read? (dir.child name) = s.contentAt? (d ++ [name]) := by
  simp [Store.read?,plain.locate held.place held.isDirectory]

theorem writes (held : FilesIn s dir d) {name : String} (plain : Plain name) (content : Bytes) :
    Step.apply? s (.write (dir.child name) content) = some (s.insert (d ++ [name]) (.file content)) := by
  simp [ Step.apply?,Store.write?,plain.locate held.place held.isDirectory,held.plain name]

theorem removes (held : FilesIn s dir d) {name : String} (plain : Plain name) {content : Bytes}
    (found : s.entry? (d ++ [name]) = some (.file content)) :
    Step.apply? s (.remove (dir.child name)) = some (s.erase (d ++ [name])) := by
  simp [ Step.apply?,Store.remove?,plain.locate held.place held.isDirectory,
    Store.contentIff.mpr found]

theorem renames (held : FilesIn s dir d) {name other : String} (plain : Plain name)
    (plainOther : Plain other) (apart : name ≠ other) {content : Bytes}
    (found : s.entry? (d ++ [name]) = some (.file content)) (free : s.entry? (d ++ [other]) = none) :
    Step.apply? s (.rename (dir.child name) (dir.child other)) =
      some (s.move (d ++ [name]) (d ++ [other])) := by
  have notPrefix : ¬ d ++ [name] <+: d ++ [other] := by
    intro within
    exact apart (by simpa using within.eq_of_length (by simp))
  simp [ Step.apply?,Store.rename?,plain.locate held.place held.isDirectory,
    plainOther.locate held.place held.isDirectory,found,free,List.isPrefixOf_iff_prefix,notPrefix]

end FilesIn

theorem statusOfMissing {s : Store} {p : Path} {key : Key} (place : s.locate? p = some key)
    (missing : s.entry? key = none) : status s p = .missing := by
  simp [status,Store.contains,Store.find?,place,missing]

theorem statusOfFile {s : Store} {p : Path} {key : Key} {content : Bytes}
    (place : s.locate? p = some key) (found : s.entry? key = some (.file content)) :
    status s p = if Sealed.verify content then .good else .edited := by
  simp [status,isIntact,isIntact?,Store.contains,Store.find?,Store.read?,place,found,
    Store.contentIff.mpr found]

/-- Between two stores nothing has changed but a copy, and its backup only in so far as it now holds a
copy that was not intact. -/
structure Kept (k : Known) (d : Key) (s t : Store) : Prop where
  backedUp : ∀ old, s.entry? (d ++ [k.name]) = some (.file old) → Sealed.verify old = false →
    t.entry? (d ++ [k.backupName]) = some (.file old)
  backupKept : (∀ old, s.entry? (d ++ [k.name]) = some (.file old) → Sealed.verify old = true) →
    t.entry? (d ++ [k.backupName]) = s.entry? (d ++ [k.backupName])
  others : ∀ key, key ≠ d ++ [k.name] → key ≠ d ++ [k.backupName] → t.entry? key = s.entry? key

section Write
variable {s t : Store} {dir : Path} {d : Key} {k : Known}

theorem Kept.refl (intact : ∀ old, s.entry? (d ++ [k.name]) = some (.file old) →
    Sealed.verify old = true) : Kept k d s s where
  backedUp := fun old found edited => by simp [intact old found] at edited
  backupKept := fun _ => rfl
  others := fun _ _ _ => rfl

theorem Kept.moved {m : Store} {old : Bytes} (mem : k ∈ known) (held : FilesIn m dir d)
    (found : s.entry? (d ++ [k.name]) = some (.file old)) (edited : Sealed.verify old = false)
    (same : ∀ key, key ≠ d ++ [k.backupName] → m.entry? key = s.entry? key) :
    Kept k d s (m.move (d ++ [k.name]) (d ++ [k.backupName])) := by
  have apart : d ++ [k.name] ≠ d ++ [k.backupName] := by simpa using backupApart mem
  have entries (key : Key) := @Store.entryMove m key _ _ (by simp) (by simp) apart (held.leaf k.name)
  refine ⟨?_,?_,?_⟩
  · intro before found' _
    rw [entries,if_pos rfl,same _ apart]
    exact found'
  · intro intact
    simp [intact old found] at edited
  · intro key notTarget notBackup
    rw [entries,if_neg notBackup,if_neg notTarget,same key notBackup]

theorem Kept.written (mem : k ∈ known) (kept : Kept k d s t) (content : Bytes) :
    Kept k d s (t.insert (d ++ [k.name]) (.file content)) := by
  have apart : d ++ [k.backupName] ≠ d ++ [k.name] := by simpa using (backupApart mem).symm
  refine ⟨?_,?_,?_⟩
  · intro old found edited
    rw [Store.entryInsert (by simp),if_neg apart]
    exact kept.backedUp old found edited
  · intro intact
    rw [Store.entryInsert (by simp),if_neg apart]
    exact kept.backupKept intact
  · intro key notTarget notBackup
    rw [Store.entryInsert (by simp),if_neg notTarget]
    exact kept.others key notTarget notBackup

theorem keepingReaches (mem : k ∈ known) (held : FilesIn s dir d) {old : Bytes}
    (found : s.entry? (d ++ [k.name]) = some (.file old)) (edited : Sealed.verify old = false) :
    ∃ t, Reaches s (k.keeping s dir) t ∧ FilesIn t dir d ∧ Kept k d s t := by
  obtain ⟨plain,plainBackup⟩ := knownPlain mem
  have apart := backupApart mem
  have place := plainBackup.locate held.place held.isDirectory
  rcases held.entry k.backupName with absent | ⟨older,there⟩
  · have free : s.contains (k.backup dir) = false := by
      simp [Known.backup,Store.contains,Store.find?,place,absent]
    refine ⟨_,?_,held.move apart,Kept.moved mem held found edited (fun _ _ => rfl)⟩
    simp only [Known.keeping,free,Bool.false_eq_true,if_false]
    exact .say (.step (held.renames plain plainBackup apart found absent) .done)
  · have taken : s.contains (k.backup dir) = true := by
      simp [Known.backup,Store.contains,Store.find?,place,there]
    have cleared := held.erase k.backupName
    have keysApart : d ++ [k.name] ≠ d ++ [k.backupName] := by simpa using apart
    have others : ∀ key, key ≠ d ++ [k.backupName] →
        Store.entry? (s.erase (d ++ [k.backupName])) key = s.entry? key := by
      intro key other
      rw [Store.entryErase (by simp),if_neg other]
    have free : Store.entry? (s.erase (d ++ [k.backupName])) (d ++ [k.backupName]) = none := by
      rw [Store.entryErase (by simp),if_pos rfl]
    refine ⟨_,?_,cleared.move apart,Kept.moved mem cleared found edited others⟩
    simp only [Known.keeping,taken,if_true]
    exact .say (.say (.step (held.removes plainBackup there)
      (.step (cleared.renames plain plainBackup apart ((others _ keysApart).trans found) free) .done)))

theorem clearingReaches (mem : k ∈ known) (held : FilesIn s dir d) :
    ∃ t, Reaches s (k.clearing s dir) t ∧ FilesIn t dir d ∧ Kept k d s t := by
  have place := (knownPlain mem).1.locate held.place held.isDirectory
  rcases held.entry k.name with missing | ⟨old,found⟩
  · have nothing := statusOfMissing place missing
    refine ⟨s,?_,held,.refl (fun old found => by simp [missing] at found)⟩
    unfold Known.clearing Known.target
    rw [nothing]
    exact .done
  · have state := statusOfFile place found
    cases intact : Sealed.verify old with
    | true =>
      rw [intact,if_pos rfl] at state
      refine ⟨s,?_,held,.refl ?_⟩
      · unfold Known.clearing Known.target
        rw [state]
        exact .say .done
      · intro old' found'
        rw [found] at found'
        cases found'
        exact intact
    | false =>
      rw [intact,if_neg (by simp)] at state
      obtain ⟨t,reached,held',kept⟩ := keepingReaches mem held found intact
      refine ⟨t,?_,held',kept⟩
      unfold Known.clearing Known.target
      rw [state]
      exact .say reached

theorem writeReaches (mem : k ∈ known) (held : FilesIn s dir d) :
    ∃ t, Reaches s (k.plan s dir) t ∧ FilesIn t dir d ∧ Kept k d s t ∧
      t.entry? (d ++ [k.name]) = some (.file k.content) := by
  obtain ⟨m,cleared,held',kept⟩ := clearingReaches mem held
  refine ⟨_,cleared.append (.say (.step (held'.writes (knownPlain mem).1 k.content) .done)),
    held'.insert k.name k.content,kept.written mem k.content,?_⟩
  rw [Store.entryInsert (by simp),if_pos rfl]

theorem commandReaches (mem : k ∈ known) (held : FilesIn s dir d) :
    ∃ t, (Command.write s dir k.name).result = .ok 0 ∧ (Command.write s dir k.name).store = t ∧
      FilesIn t dir d ∧ Kept k d s t ∧ t.entry? (d ++ [k.name]) = some (.file k.content) := by
  obtain ⟨t,⟨isDone,reached⟩,rest⟩ := writeReaches mem held
  refine ⟨t,?_,?_,rest⟩
  · simp [Command.write,knownByName mem,Known.write,isDone]
  · simp [Command.write,knownByName mem,Known.write,reached]

end Write

inductive Action where
  | put (name : String) (content : Bytes)
  | delete (name : String)
  | write (name : String)

def Action.apply (dir : Path) (d : Key) (s : Store) : Action → Store
  | .put name content => s.insert (d ++ [name]) (.file content)
  | .delete name => s.erase (d ++ [name])
  | .write name => (Command.write s dir name).store

def run (dir : Path) (d : Key) (s : Store) (actions : List Action) : Store :=
  actions.foldl (Action.apply dir d) s

section Run
variable {s : Store} {dir : Path} {d : Key}

theorem FilesIn.apply (held : FilesIn s dir d) (action : Action) :
    FilesIn (action.apply dir d s) dir d := by
  cases action with
  | put name content => exact held.insert name content
  | delete name => exact held.erase name
  | write name =>
    cases found : Known.ofName? name with
    | none =>
      have unchanged : (Command.write s dir name).store = s := by
        simp only [Command.write,found,Command.Answer.say]
      simp only [Action.apply,unchanged]
      exact held
    | some k =>
      obtain ⟨mem,rfl⟩ := ofNameKnown found
      obtain ⟨t,_,reached,held',_⟩ := commandReaches mem held
      simp only [Action.apply,reached]
      exact held'

theorem FilesIn.run (held : FilesIn s dir d) (actions : List Action) :
    FilesIn (run dir d s actions) dir d := by
  induction actions generalizing s with
  | nil => exact held
  | cons action actions ih => exact ih (held.apply action)

/-- After any run, writing a known copy succeeds and leaves the copy as it is to be. A copy that was
there but not intact becomes the backup; the backup is left alone otherwise, and so is all else. -/
theorem writeInRun (held : FilesIn s dir d) (before : List Action) {k : Known} (mem : k ∈ known) :
    let now := Copy.run dir d s before
    let answer := Command.write now dir k.name
    let again := Command.write answer.store dir k.name
    answer.result = .ok 0 ∧
    (answer.store.read? (dir.child k.name) = some (Utf8.encode
        (Sealed.render (k.header ++ '\n' :: k.master.toList) k.comment.toList)) ∧
      status answer.store (dir.child k.name) = .good ∧
      again.result = .ok 0 ∧ ∀ key, again.store.entry? key = answer.store.entry? key) ∧
    (∀ old, now.read? (dir.child k.name) = some old → Sealed.verify old = false →
      answer.store.read? (dir.child k.backupName) = some old) ∧
    ((∀ old, now.read? (dir.child k.name) = some old → Sealed.verify old = true) →
      answer.store.read? (dir.child k.backupName) = now.read? (dir.child k.backupName)) ∧
    ∀ key, key ≠ d ++ [k.name] → key ≠ d ++ [k.backupName] →
      answer.store.entry? key = now.entry? key := by
  intro now answer again
  have heldNow : FilesIn now dir d := held.run before
  obtain ⟨t,done,reached,heldThen,kept,target⟩ := commandReaches mem heldNow
  obtain ⟨u,doneAgain,reachedAgain,_,keptAgain,targetAgain⟩ := commandReaches mem heldThen
  obtain ⟨plain,plainBackup⟩ := knownPlain mem
  subst reached
  have intact : ∀ old, answer.store.entry? (d ++ [k.name]) = some (.file old) →
      Sealed.verify old = true := by
    intro old found
    have same : k.content = old := Entry.file.inj (Option.some.inj (target.symm.trans found))
    exact same ▸ knownIntact mem
  have unchanged : ∀ key, u.entry? key = answer.store.entry? key := by
    intro key
    by_cases isTarget : key = d ++ [k.name]
    · rw [isTarget,targetAgain,target]
    · by_cases isBackup : key = d ++ [k.backupName]
      · rw [isBackup]
        exact keptAgain.backupKept intact
      · exact keptAgain.others key isTarget isBackup
  have good : status answer.store (dir.child k.name) = .good := by
    rw [statusOfFile (plain.locate heldThen.place heldThen.isDirectory) target,knownIntact mem,if_pos rfl]
  refine ⟨done,⟨?_,good,doneAgain,?_⟩,?_,?_,kept.others⟩
  · rw [heldThen.reads plain]
    exact Store.contentIff.mpr target
  · rw [← reachedAgain] at unchanged
    exact unchanged
  · intro old found edited
    rw [heldNow.reads plain,Store.contentIff] at found
    rw [heldThen.reads plainBackup]
    exact Store.contentIff.mpr (kept.backedUp old found edited)
  · intro fresh
    rw [heldThen.reads plainBackup,heldNow.reads plainBackup]
    refine Store.contentCongr (kept.backupKept ?_)
    intro old found
    refine fresh old ?_
    rw [heldNow.reads plain]
    exact Store.contentIff.mpr found

theorem editedCopyKept :
    let s : Store := ⟨[(["w"],.directory),(["w","just_for_testing.txt"],.file [1]),
      (["w","just_for_testing_backup.txt"],.file [2]),(["w","notes"],.file [3])],["w"]⟩
    let before : List Action := [.delete "notes",.put "just_for_testing.txt" [4,5]]
    let answer := Command.write (Copy.run (.ofString ".") ["w"] s before) (.ofString ".") "just_for_testing.txt"
    FilesIn s (.ofString ".") ["w"] ∧ answer.result = .ok 0 ∧
    status answer.store ((Path.ofString ".").child "just_for_testing.txt") = .good ∧
    answer.store.read? ((Path.ofString ".").child "just_for_testing_backup.txt") = some [4,5] := by
  intro s before answer
  have held : FilesIn s (.ofString ".") ["w"] := by
    refine ⟨by decide,by decide,?_⟩
    intro key e below other found
    have nonempty : key ≠ [] := by
      rintro rfl
      simp at below
    rw [Store.entryOfSome nonempty] at found
    obtain ⟨before,after,split,_⟩ := List.lookup_eq_some_iff.mp found
    have mem : (key,e) ∈ s.entries := by simp [split]
    simp only [s,List.mem_cons,Prod.mk.injEq,List.not_mem_nil,or_false] at mem
    rcases mem with ⟨rfl,_⟩ | ⟨rfl,rfl⟩ | ⟨rfl,rfl⟩ | ⟨rfl,rfl⟩
    · exact absurd rfl other
    · exact ⟨_,_,rfl,rfl⟩
    · exact ⟨_,_,rfl,rfl⟩
    · exact ⟨_,_,rfl,rfl⟩
  obtain ⟨done,⟨_,good,_⟩,backedUp,_⟩ := writeInRun held before (k := known[2]) (by simp [known])
  exact ⟨held,done,good,backedUp [4,5] (by decide) (by decide)⟩

end Run
end ConventionLint.Copy
