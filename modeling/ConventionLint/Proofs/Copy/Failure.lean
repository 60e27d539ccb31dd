import ConventionLint.Proofs.Copy.Writing

/-! A plan whose steps may fail on the way, for whatever reason. What the user has made of a copy is not
lost: up to its renaming nothing touches the copy, from then on nothing touches the backup. -/
namespace ConventionLint.Copy
open ConventionLint.Storage ConventionLint.Text

/-- What a step can leave behind, and whether it reports success. Removing and renaming happen as a whole
or not at all; of a write that fails any bytes may remain. -/
inductive Attempt (s : Store) : Step → Store → Bool → Prop where
  | taken {step : Step} {t : Store} (done : step.apply? s = some t) : Attempt s step t true
  | refused {step : Step} (acts : ∀ line, step ≠ .say line) : Attempt s step s false
  | late {step : Step} {t : Store} (acts : ∀ line, step ≠ .say line) (done : step.apply? s = some t) :
      Attempt s step t false
  | torn {p : Path} {key : Key} {content : Bytes} (left : Bytes) (place : s.locate? p = some key)
      (plain : s.isDirectoryAt key = false) : Attempt s (.write p content) (s.insert key (.file left)) false

inductive Trial : Store → List Step → Store → Bool → Prop where
  | done {s : Store} : Trial s [] s true
  | step {s m t : Store} {first : Step} {rest : List Step} {ok : Bool} (taken : Attempt s first m true)
      (more : Trial m rest t ok) : Trial s (first :: rest) t ok
  | failed {s t : Store} {first : Step} {rest : List Step} (left : Attempt s first t false) :
      Trial s (first :: rest) t false

section Trials
variable {s t : Store} {steps more : List Step} {ok : Bool}

theorem followTrial (s : Store) (steps : List Step) :
    Trial s steps (follow s steps).store (follow s steps).isDone := by
  induction steps generalizing s with
  | nil => exact .done
  | cons first steps ih =>
    unfold follow
    cases taken : first.apply? s with
    | some next => exact .step (.taken taken) (ih next)
    | none =>
      refine .failed (.refused ?_)
      rintro line rfl
      cases taken

theorem Trial.split (trial : Trial s (steps ++ more) t ok) :
    (ok = false ∧ Trial s steps t false) ∨ ∃ m, Trial s steps m true ∧ Trial m more t ok := by
  induction steps generalizing s with
  | nil => exact .inr ⟨s,.done,trial⟩
  | cons first steps ih =>
    cases trial with
    | failed left => exact .inl ⟨rfl,.failed left⟩
    | step taken rest =>
      rcases ih rest with ⟨rfl,stopped⟩ | ⟨m,reached,rest⟩
      · exact .inl ⟨rfl,.step taken stopped⟩
      · exact .inr ⟨m,.step taken reached,rest⟩

theorem Trial.keeps (kept : Store → Prop) (start : kept s) (trial : Trial s steps t ok)
    (each : ∀ first ∈ steps, ∀ u v b, kept u → Attempt u first v b → kept v) : kept t := by
  induction trial with
  | done => exact start
  | step taken _ ih =>
    refine ih (each _ List.mem_cons_self _ _ _ start taken) ?_
    exact fun first mem => each first (List.mem_cons_of_mem _ mem)
  | failed left => exact each _ List.mem_cons_self _ _ _ start left

theorem Attempt.said {line : String} (attempt : Attempt s (.say line) t ok) : t = s := by
  cases attempt with
  | taken done => exact (Option.some.inj done).symm
  | refused acts => exact absurd rfl (acts line)
  | late acts _ => exact absurd rfl (acts line)

theorem Attempt.removed {p : Path} (attempt : Attempt s (.remove p) t ok) :
    t = s ∨ s.remove? p = some t := by
  cases attempt with
  | taken done => exact .inr done
  | refused _ => exact .inl rfl
  | late _ done => exact .inr done

theorem Attempt.renamed {source target : Path} (attempt : Attempt s (.rename source target) t ok) :
    (t = s ∧ ok = false) ∨ s.rename? source target = some t := by
  cases attempt with
  | taken done => exact .inr done
  | refused _ => exact .inl ⟨rfl,rfl⟩
  | late _ done => exact .inr done

theorem Attempt.written {p : Path} {content : Bytes} (attempt : Attempt s (.write p content) t ok) :
    (t = s ∧ ok = false) ∨ ∃ key left, s.locate? p = some key ∧ s.isDirectoryAt key = false ∧
      t = s.insert key (.file left) ∧ (ok = true → left = content) := by
  have whole {u : Store} (done : s.write? p content = some u) : ∃ key, s.locate? p = some key ∧
      s.isDirectoryAt key = false ∧ u = s.insert key (.file content) := by
    obtain ⟨key,place,rest⟩ := Option.bind_eq_some_iff.mp done
    split at rest
    · cases rest
    · next plain => exact ⟨key,place,by simpa using plain,(Option.some.inj rest).symm⟩
  cases attempt with
  | taken done =>
    obtain ⟨key,place,plain,same⟩ := whole done
    exact .inr ⟨key,content,place,plain,same,fun _ => rfl⟩
  | refused _ => exact .inl ⟨rfl,rfl⟩
  | late _ done =>
    obtain ⟨key,place,plain,same⟩ := whole done
    exact .inr ⟨key,content,place,plain,same,nofun⟩
  | torn left place plain => exact .inr ⟨_,left,place,plain,rfl,nofun⟩

end Trials

structure Holds (s : Store) (dir : Path) (d : Key) (name : String) (content : Bytes) : Prop where
  names : ∀ other, Plain other → s.locate? (dir.child other) = some (d ++ [other])
  file : s.entry? (d ++ [name]) = some (.file content)

section Holds
variable {s t : Store} {dir : Path} {d : Key} {name other : String} {content : Bytes} {ok : Bool}

theorem Holds.ofRead (plain : Plain name) (found : s.read? (dir.child name) = some content) :
    ∃ d, Holds s dir d name content := by
  obtain ⟨key,place,there⟩ := Option.bind_eq_some_iff.mp found
  obtain ⟨d,rfl,names⟩ := plain.beside place
  exact ⟨d,names,Store.contentIff.mp there⟩

theorem Holds.reads (holds : Holds s dir d name content) (plain : Plain name) :
    s.read? (dir.child name) = some content := by
  simp [Store.read?,holds.names name plain,Store.contentIff.mpr holds.file]

theorem Holds.change (holds : Holds s dir d name content) (same : t.SameDirectories s)
    (kept : t.entry? (d ++ [name]) = s.entry? (d ++ [name])) : Holds t dir d name content := by
  refine ⟨fun other plain => ?_,kept.trans holds.file⟩
  rw [same.locate]
  exact holds.names other plain

theorem Holds.removed (holds : Holds s dir d name content) (leaf : s.Leaf (d ++ [name]))
    (plain : Plain other) (apart : name ≠ other)
    (attempt : Attempt s (.remove (dir.child other)) t ok) :
    Holds t dir d name content ∧ t.Leaf (d ++ [name]) := by
  rcases attempt.removed with rfl | done
  · exact ⟨holds,leaf⟩
  · simp only [Store.remove?,holds.names other plain,Option.bind_some,Option.map_eq_some_iff] at done
    obtain ⟨older,found,rfl⟩ := done
    rw [Store.contentIff] at found
    have noDirectory : s.isDirectoryAt (d ++ [other]) = false := by simp [Store.isDirectoryAt,found]
    refine ⟨holds.change (.erase (by simp) noDirectory) ?_,?_⟩
    · rw [Store.entryErase (by simp),if_neg (by simpa using apart)]
    · intro key below deeper
      rw [Store.entryErase (by simp),leaf key below deeper,ite_self]

theorem Holds.renamed (holds : Holds s dir d name content) (leaf : s.Leaf (d ++ [name]))
    (plain : Plain name) (plainOther : Plain other) (apart : name ≠ other)
    (attempt : Attempt s (.rename (dir.child name) (dir.child other)) t ok) :
    (ok = false ∧ Holds t dir d name content) ∨ Holds t dir d other content := by
  rcases attempt.renamed with ⟨rfl,failed⟩ | done
  · exact .inl ⟨failed,holds⟩
  · have keysApart : d ++ [name] ≠ d ++ [other] := by simpa using apart
    have noDirectory : s.isDirectoryAt (d ++ [name]) = false := by simp [Store.isDirectoryAt,holds.file]
    have moved : s.isDirectoryAt (d ++ [other]) = false ∧ t = s.move (d ++ [name]) (d ++ [other]) := by
      simp only [Store.rename?,holds.names name plain,holds.names other plainOther,
        Option.bind_eq_bind,Option.bind_some,holds.file] at done
      cases beside : s.entry? (d ++ [other]) with
      | none =>
        simp only [beside] at done
        split at done
        · cases done
        · exact ⟨by simp [Store.isDirectoryAt,beside],(Option.some.inj done).symm⟩
      | some e =>
        cases e with
        | directory => simp [beside] at done
        | file older =>
          simp only [beside,keysApart,if_false] at done
          exact ⟨by simp [Store.isDirectoryAt,beside],(Option.some.inj done).symm⟩
    obtain ⟨free,rfl⟩ := moved
    refine .inr ⟨fun name plain => ?_,?_⟩
    · rw [(Store.SameDirectories.move (by simp) (by simp) keysApart leaf noDirectory free).locate]
      exact holds.names name plain
    · rw [Store.entryMove (by simp) (by simp) keysApart leaf,if_pos rfl,holds.file]

theorem Holds.written (holds : Holds s dir d name content) (plain : Plain other) (apart : name ≠ other)
    {new : Bytes} (attempt : Attempt s (.write (dir.child other) new) t ok) :
    Holds t dir d name content ∧ (ok = true → Holds t dir d other new) := by
  rcases attempt.written with ⟨rfl,failed⟩ | ⟨key,left,place,noDirectory,rfl,whole⟩
  · exact ⟨holds,by simp [failed]⟩
  · obtain rfl : d ++ [other] = key := Option.some.inj ((holds.names other plain).symm.trans place)
    have same : (s.insert (d ++ [other]) (.file left)).SameDirectories s := .insert (by simp) noDirectory
    have kept := holds.change same (by rw [Store.entryInsert (by simp),if_neg (by simpa using apart)])
    refine ⟨kept,fun done => ⟨kept.names,?_⟩⟩
    rw [Store.entryInsert (by simp),if_pos rfl,whole done]

end Holds

section Edited
variable {s t : Store} {dir : Path} {d : Key} {k : Known} {content : Bytes} {ok : Bool}

theorem planOfEdited (place : s.locate? (k.target dir) = some (d ++ [k.name]))
    (file : s.entry? (d ++ [k.name]) = some (.file content)) (edited : Sealed.verify content = false) :
    ∃ before, (∀ first ∈ before, (∃ line, first = .say line) ∨ first = .remove (k.backup dir)) ∧
      k.plan s dir = before ++ (.rename (k.target dir) (k.backup dir) ::
        [.say ("Writing " ++ k.name),.write (k.target dir) k.content]) := by
  have state : status s (k.target dir) = .edited := by simp [statusOfFile place file,edited]
  simp only [Known.plan,Known.clearing,state,Known.keeping]
  split
  · refine ⟨[.say _,.say _,.say _,.remove (k.backup dir)],?_,rfl⟩
    simp
  · refine ⟨[.say _,.say _],?_,rfl⟩
    simp

theorem backupSurvives (mem : k ∈ known) (holds : Holds s dir d k.backupName content)
    (trial : Trial s [.say ("Writing " ++ k.name),.write (k.target dir) k.content] t ok) :
    Holds t dir d k.backupName content ∧ (ok = true → Holds t dir d k.name k.content) := by
  cases trial with
  | failed left =>
    obtain rfl := left.said
    exact ⟨holds,nofun⟩
  | step said rest =>
    obtain rfl := said.said
    have plain := (knownPlain mem).1
    cases rest with
    | failed left => exact holds.written plain (backupApart mem).symm left
    | step written more =>
      cases more
      exact holds.written plain (backupApart mem).symm written

theorem commandTrial (mem : k ∈ known) (s : Store) (dir : Path) :
    ∃ ok, Trial s (k.plan s dir) (Command.write s dir k.name).store ok ∧
      (Command.write s dir k.name).result = if ok then .ok 0 else .error .storage := by
  refine ⟨(k.write s dir).isDone,?_,?_⟩
  · simpa only [Command.write,knownByName mem,Known.write] using followTrial s (k.plan s dir)
  · simp only [Command.write,knownByName mem]

theorem trialSurvives (mem : k ∈ known) (leaves : s.FilesAreLeaves)
    (found : s.read? (k.target dir) = some content) (edited : Sealed.verify content = false)
    (trial : Trial s (k.plan s dir) t ok) :
    (ok = false → t.read? (k.target dir) = some content ∨ t.read? (k.backup dir) = some content) ∧
    (ok = true → t.read? (k.target dir) = some k.content ∧ t.read? (k.backup dir) = some content) := by
  obtain ⟨plain,plainBackup⟩ := knownPlain mem
  have apart := backupApart mem
  obtain ⟨d,holds⟩ := Holds.ofRead plain found
  obtain ⟨before,harmless,plan⟩ := planOfEdited (holds.names k.name plain) holds.file edited
  -- up to the renaming the copy stays where it is
  have clears {u : Store} {b : Bool} (trial : Trial s before u b) :
      Holds u dir d k.name content ∧ u.Leaf (d ++ [k.name]) := by
    have start : Holds s dir d k.name content ∧ s.Leaf (d ++ [k.name]) :=
      ⟨holds,leaves _ _ holds.file⟩
    refine Trial.keeps (fun u => Holds u dir d k.name content ∧ u.Leaf (d ++ [k.name])) start trial ?_
    rintro first inside u v b ⟨holds,leaf⟩ attempt
    rcases harmless first inside with ⟨line,rfl⟩ | rfl
    · rw [attempt.said]
      exact ⟨holds,leaf⟩
    · exact holds.removed leaf plainBackup apart attempt
  rw [plan] at trial
  rcases trial.split with ⟨rfl,stopped⟩ | ⟨m,cleared,trial⟩
  · exact ⟨fun _ => .inl ((clears stopped).1.reads plain),nofun⟩
  · obtain ⟨holds,leaf⟩ := clears cleared
    cases trial with
    | failed left =>
      refine ⟨fun _ => ?_,nofun⟩
      rcases holds.renamed leaf plain plainBackup apart left with ⟨_,stays⟩ | moved
      · exact .inl (stays.reads plain)
      · exact .inr (moved.reads plainBackup)
    | step renamed trial =>
      have moved := (holds.renamed leaf plain plainBackup apart renamed).resolve_left nofun
      obtain ⟨kept,written⟩ := backupSurvives mem moved trial
      exact ⟨fun _ => .inr (kept.reads plainBackup),
        fun done => ⟨(written done).reads plain,kept.reads plainBackup⟩⟩

/-- Wherever writing over an edited copy fails, the edited copy is where it was or is the backup. -/
theorem editedCopySurvives (mem : k ∈ known) (leaves : s.FilesAreLeaves)
    (found : s.read? (k.target dir) = some content) (edited : Sealed.verify content = false) :
    (∃ ok, Trial s (k.plan s dir) (Command.write s dir k.name).store ok ∧
      (Command.write s dir k.name).result = if ok then .ok 0 else .error .storage) ∧
    ∀ t ok, Trial s (k.plan s dir) t ok →
      (ok = false →
        t.read? (k.target dir) = some content ∨ t.read? (k.backup dir) = some content) ∧
      (ok = true →
        t.read? (k.target dir) = some k.content ∧ t.read? (k.backup dir) = some content) :=
  ⟨commandTrial mem s dir,fun _ _ trial => trialSurvives mem leaves found edited trial⟩

theorem editedCopyAfterTornWrite :
    let s : Store := ⟨[(["w"],.directory),(["w","pylintrc"],.file [4,5]),
      (["w","pylintrc_backup"],.file [2])],["w"]⟩
    let t : Store := ⟨[(["w"],.directory),(["w","pylintrc_backup"],.file [4,5]),
      (["w","pylintrc"],.file [35])],["w"]⟩
    let dir := Path.ofString "."
    let k := known[0]
    s.FilesAreLeaves ∧ s.read? (k.target dir) = some [4,5] ∧ Sealed.verify [4,5] = false ∧
    Trial s (k.plan s dir) t false ∧
    (t.read? (k.target dir) = some [4,5] ∨ t.read? (k.backup dir) = some [4,5]) := by
  intro s t dir k
  have leaves : s.FilesAreLeaves := Store.leavesOfEntries (by decide)
  have names : k.target dir = ⟨false,[".","pylintrc"]⟩ ∧
      k.backup dir = ⟨false,[".","pylintrc_backup"]⟩ := by decide +kernel
  have trial : Trial s (k.plan s dir) t false := by
    have state : status s (k.target dir) = .edited := by decide +kernel
    have older : s.contains (k.backup dir) = true := by decide +kernel
    simp only [Known.plan,Known.clearing,state,Known.keeping,older,if_true]
    rw [names.1,names.2]
    refine .step (.taken rfl) (.step (.taken rfl) (.step (.taken rfl) (.step (.taken rfl)
      (.step (.taken rfl) (.step (.taken rfl) (.failed ?_))))))
    exact @Attempt.torn _ _ ["w","pylintrc"] _ [35] rfl rfl
  have found : s.read? (k.target dir) = some [4,5] := by decide
  have edited : Sealed.verify [4,5] = false := by decide
  have mem : k ∈ known := by simp [k,known]
  exact ⟨leaves,found,edited,trial,((editedCopySurvives mem leaves found edited).2 t false trial).1 rfl⟩

end Edited

end ConventionLint.Copy
