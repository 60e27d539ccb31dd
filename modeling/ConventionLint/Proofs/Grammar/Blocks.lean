import ConventionLint.Proofs.Grammar.OnwardProgram

/-! Blocks in the layout of a text. The layout as a trace of its steps shows that a block has the indentation
of its first line of code, and that no line of code within it is indented less. -/
namespace ConventionLint.Grammar

def closing (pending : Bool) (m : Nat) (last : Position) : List Token :=
  (if pending then [layoutToken .newline last] else []) ++ List.replicate m (layoutToken .dedent last)

inductive Laid : List Nat → Bool → List Token → List Token → Prop where
  | ended {levels : List Nat} {pending : Bool} (last : Position) :
      Laid levels pending [] (closing pending levels.length last)
  | stays {levels : List Nat} {pending : Bool} {t : Token} {ts us : List Token} (lead : t.lead = none)
      (rest : Laid levels (!t.isComment || pending) ts us) : Laid levels pending (t :: ts) (t :: us)
  | opens {levels : List Nat} {t : Token} {i : Nat} {ts us : List Token} (last : Position)
      (lead : t.lead = some i) (deeper : levels.head?.getD 0 < codeIndent (t :: ts))
      (rest : Laid (codeIndent (t :: ts) :: levels) (!t.isComment) ts us) :
      Laid levels true (t :: ts) (layoutToken .indent last :: t :: us)
  | closes {levels : List Nat} {pending : Bool} {t : Token} {i : Nat} {ts us : List Token}
      (last : Position) (m : Nat) (lead : t.lead = some i)
      (closed : ∀ level ∈ levels.take m, codeIndent (t :: ts) < level)
      (left : t.isComment = false → ∀ level, (levels.drop m).head? = some level →
        level ≤ codeIndent (t :: ts))
      (rest : Laid (levels.drop m) (!t.isComment) ts us) :
      Laid levels pending (t :: ts) (closing pending m last ++ t :: us)

theorem closeBlocksSpec (last : Position) (code : Nat) (comment : Option Nat) (levels : List Nat) :
    ∃ m, closeBlocks last code comment levels =
        (List.replicate m (layoutToken .dedent last),levels.drop m) ∧
      (∀ level ∈ levels.take m, code < level) ∧
      (comment = none → ∀ level, (levels.drop m).head? = some level → level ≤ code) := by
  induction levels with
  | nil => exact ⟨0,rfl,by simp,by simp⟩
  | cons top levels ih =>
    unfold closeBlocks
    split
    · next deeper =>
      obtain ⟨m,same,closed,left⟩ := ih
      refine ⟨m + 1,by rw [same]; rfl,?_,left⟩
      simpa using ⟨deeper.1,closed⟩
    · next stops =>
      refine ⟨0,rfl,by simp,fun noComment level first => ?_⟩
      rw [List.drop_zero,List.head?_cons,Option.some.injEq] at first
      subst noComment first
      simpa using stops

theorem layoutFromLaid (levels : List Nat) (pending header : Bool) (last : Position) (ts : List Token) :
    Laid levels pending ts (layoutFrom levels pending header last ts) := by
  induction ts generalizing levels pending header last with
  | nil =>
    rw [layoutFrom,List.map_const']
    exact .ended last
  | cons t ts ih =>
    unfold layoutFrom
    extract_lets resume code ended
    have goesOn (levels : List Nat) (pending : Bool) :
        ∃ us, resume levels pending = t :: us ∧ Laid levels (!t.isComment || pending) ts us := by
      dsimp only [resume]
      split
      · next comment => exact ⟨_,rfl,by simpa [comment] using ih _ _ _ _⟩
      · next code => exact ⟨_,rfl,by simpa [code] using ih _ _ _ _⟩
    split
    · next lead =>
      obtain ⟨us,same,rest⟩ := goesOn levels pending
      rw [same]
      exact .stays lead rest
    · next i lead =>
      dsimp only
      split
      · next opens =>
        obtain ⟨us,same,rest⟩ := goesOn (codeIndent (t :: ts) :: levels) false
        rw [same,opens.1]
        exact .opens last lead opens.2.2 (by simpa using rest)
      · obtain ⟨m,same,closed,left⟩ := closeBlocksSpec last (codeIndent (t :: ts))
          (if t.isComment then some i else none) levels
        obtain ⟨us,same',rest⟩ := goesOn (levels.drop m) false
        rw [same]
        dsimp only
        rw [same']
        exact .closes last m lead closed (fun code => left (by simp [code])) (by simpa using rest)

def depthAfter (depth : Nat) (t : Token) : Option Nat :=
  match t.lexeme with
  | .indent => some (depth + 1)
  | .dedent => if depth = 0 then none else some (depth - 1)
  | _ => some depth

def depth? (depth : Nat) (ts : List Token) : Option Nat := ts.foldlM depthAfter depth

section Depth
variable {levels upper lower : List Nat} {level code depth : Nat} {pending : Bool} {t : Token} {i m : Nat}
  {ts us front behind : List Token} {last : Position}

theorem depthCons : depth? depth (t :: ts) = (depthAfter depth t).bind fun depth => depth? depth ts := rfl

theorem depthAppend : depth? depth (ts ++ us) = (depth? depth ts).bind fun depth => depth? depth us :=
  List.foldlM_append

theorem depthPlain (plain : t.lexeme.isLayout = false) : depthAfter depth t = some depth := by
  unfold depthAfter
  split <;> simp_all [Lexeme.isLayout]

theorem depthDedents (counted : (depth? depth (List.replicate m (layoutToken .dedent last))).isSome) :
    m ≤ depth ∧ depth? depth (List.replicate m (layoutToken .dedent last)) = some (depth - m) := by
  induction m generalizing depth with
  | zero => exact ⟨Nat.zero_le depth,rfl⟩
  | succ m ih =>
    rw [List.replicate_succ,depthCons] at counted ⊢
    cases depth with
    | zero => cases counted
    | succ depth =>
      have deeper : (depth? depth (List.replicate m (layoutToken .dedent last))).isSome := counted
      obtain ⟨le,same⟩ := ih deeper
      refine ⟨Nat.succ_le_succ le,same.trans ?_⟩
      rw [Nat.add_sub_add_right]

theorem depthHead (counted : (depth? depth (ts ++ us)).isSome) : (depth? depth ts).isSome := by
  rw [depthAppend] at counted
  exact Option.isSome_of_isSome_bind counted

theorem headAbove (above : ∀ l ∈ upper, level ≤ l) : level ≤ (upper ++ level :: lower).head?.getD 0 := by
  cases upper with
  | nil => exact Nat.le_refl level
  | cons top upper => exact above top List.mem_cons_self

theorem codeIndentOfCode (code : t.isComment = false) (lead : t.lead = some i) : codeIndent (t :: ts) = i := by
  simp [codeIndent,code,lead]

theorem behindMarks (other : t ∉ ts) (split : ts ++ us = front ++ t :: behind) :
    ∃ more, front = ts ++ more ∧ us = more ++ t :: behind := by
  rcases List.append_eq_append_iff.mp split with ⟨more,rfl,same⟩ | ⟨more,rfl,same⟩
  · exact ⟨more,rfl,same⟩
  · cases more with
    | nil => exact ⟨[],by simp,same.symm⟩
    | cons u more =>
      obtain ⟨rfl,_⟩ := List.cons.inj same
      exact absurd (by simp) other

theorem closingMarks : ∀ u ∈ closing pending m last, u.lead = none ∧ u.lexeme ≠ .indent := by
  intro u mem
  rcases List.mem_append.mp mem with newline | dedent
  · cases pending with
    | false => cases newline
    | true =>
      rw [List.mem_singleton.mp newline]
      exact ⟨rfl,nofun⟩
  · rw [List.eq_of_mem_replicate dedent]
    exact ⟨rfl,nofun⟩

theorem depthClosing (counted : (depth? depth (closing pending m last ++ us)).isSome) :
    m ≤ depth ∧ (depth? (depth - m) us).isSome := by
  have ended : depth? depth (if pending then [layoutToken .newline last] else []) = some depth := by
    cases pending <;> rfl
  rw [closing,List.append_assoc,depthAppend,ended,Option.bind_some] at counted
  obtain ⟨le,closed⟩ := depthDedents (depthHead counted)
  rw [depthAppend,closed] at counted
  exact ⟨le,counted⟩

theorem Laid.withinBlock (laid : Laid levels pending ts us) (plain : ∀ t ∈ ts, t.lexeme.isLayout = false)
    (stacked : levels = upper ++ level :: lower) (above : ∀ l ∈ upper, level ≤ l)
    (split : us = front ++ t :: behind) (inside : (depth? upper.length front).isSome)
    (code : t.isComment = false) (lead : t.lead = some i) : level ≤ i := by
  -- the blocks that have been opened within the block stand in front of it, and none is indented less
  induction laid generalizing upper front with
  | ended last =>
    have mark := (closingMarks t (split ▸ List.mem_append_right front List.mem_cons_self)).1
    rw [lead] at mark
    cases mark
  | @stays levels pending t' ts us noLead rest ih =>
    rw [List.forall_mem_cons] at plain
    cases front with
    | nil =>
      rw [(List.cons.inj split).1,lead] at noLead
      cases noLead
    | cons x front =>
      obtain ⟨rfl,later⟩ := List.cons.inj split
      rw [depthCons,depthPlain plain.1] at inside
      exact ih plain.2 stacked above later inside
  | @opens levels t' i' ts us last lead' deeper rest ih =>
    rw [List.forall_mem_cons] at plain
    have deeper : level < codeIndent (t' :: ts) := Nat.lt_of_le_of_lt (headAbove above) (stacked ▸ deeper)
    have other : t ∉ [layoutToken .indent last] := by
      rw [List.mem_singleton]
      rintro rfl
      cases lead
    obtain ⟨more,rfl,same⟩ := behindMarks other (List.singleton_append.trans split)
    cases more with
    | nil =>
      obtain ⟨rfl,_⟩ := List.cons.inj same
      rw [codeIndentOfCode code lead] at deeper
      exact Nat.le_of_lt deeper
    | cons y more =>
      obtain ⟨rfl,later⟩ := List.cons.inj same
      have inner : (depth? (codeIndent (t' :: ts) :: upper).length (t' :: more)).isSome := inside
      rw [depthCons,depthPlain plain.1] at inner
      have opened : codeIndent (t' :: ts) :: levels =
          (codeIndent (t' :: ts) :: upper) ++ level :: lower := by rw [stacked,List.cons_append]
      exact ih plain.2 opened (List.forall_mem_cons.mpr ⟨Nat.le_of_lt deeper,above⟩) later inner
  | @closes levels pending t' i' ts us last m lead' closed left rest ih =>
    rw [List.forall_mem_cons] at plain
    have other : t ∉ closing pending m last := fun mem => by
      rw [(closingMarks t mem).1] at lead
      cases lead
    obtain ⟨more,rfl,same⟩ := behindMarks other split
    obtain ⟨le,inner⟩ := depthClosing inside
    have kept : levels.drop m = upper.drop m ++ level :: lower := by rw [stacked,List.drop_append_of_le_length le]
    have above : ∀ l ∈ upper.drop m, level ≤ l := fun l mem => above l (List.mem_of_mem_drop mem)
    cases more with
    | nil =>
      obtain ⟨rfl,_⟩ := List.cons.inj same
      obtain ⟨top,first⟩ : ∃ top, (levels.drop m).head? = some top := by
        rw [kept]
        cases upper.drop m <;> simp
      have high : level ≤ (levels.drop m).head?.getD 0 := kept ▸ headAbove above
      rw [first,Option.getD_some] at high
      have low := left code top first
      rw [codeIndentOfCode code lead] at low
      exact Nat.le_trans high low
    | cons y more =>
      obtain ⟨rfl,later⟩ := List.cons.inj same
      rw [depthCons,depthPlain plain.1,← List.length_drop] at inner
      exact ih plain.2 kept above later inner

theorem codeIndentNone (noLeads : ∀ t ∈ ts, t.lead = none) : codeIndent ts = 0 := by
  induction ts with
  | nil => rfl
  | cons t ts ih =>
    rw [List.forall_mem_cons] at noLeads
    rw [codeIndent,noLeads.1,ih noLeads.2]
    split <;> rfl

theorem Laid.blockIndent (laid : Laid (code :: levels) false ts us) (own : codeIndent ts = code) :
    codeIndent us = code := by
  generalize stack : code :: levels = opened at laid
  generalize idle : false = pending at laid
  induction laid with
  | ended last =>
    rw [← own,codeIndentNone fun t mem => (closingMarks t mem).1]
    rfl
  | @stays opened pending t ts us lead rest ih =>
    rw [codeIndent] at own ⊢
    split
    · next comment =>
      rw [if_pos comment] at own
      exact ih own stack (by simp [comment,idle])
    · next other => rwa [if_neg other] at own
  | opens => cases idle
  | @closes opened pending t i ts us last m lead closed left rest ih =>
    subst stack idle
    have stays : m = 0 := by
      cases m with
      | zero => rfl
      | succ m => exact absurd (closed code (by simp)) (by rw [own]; exact Nat.lt_irrefl code)
    subst stays
    show codeIndent (t :: us) = code
    rw [codeIndent] at own ⊢
    split
    · next comment =>
      rw [if_pos comment] at own
      exact ih own rfl (by simp [comment])
    · next other => rwa [if_neg other] at own

theorem Laid.opening (laid : Laid levels pending ts us) (plain : ∀ t ∈ ts, t.lexeme.isLayout = false)
    (split : us = front ++ t :: behind) (opens : t.lexeme = .indent) :
    ∃ u ts' us' levels', behind = u :: us' ∧ u ∈ ts ∧ (∀ t ∈ ts', t ∈ ts) ∧
      Laid (codeIndent (u :: ts') :: levels') (!u.isComment) ts' us' := by
  have notFirst {u : Token} (own : u.lexeme.isLayout = false) : u ≠ t := by
    rintro rfl
    rw [opens] at own
    cases own
  induction laid generalizing front with
  | ended last =>
    have mark := (closingMarks t (split ▸ List.mem_append_right front List.mem_cons_self)).2
    exact absurd opens mark
  | stays noLead rest ih =>
    rw [List.forall_mem_cons] at plain
    cases front with
    | nil => exact absurd (List.cons.inj split).1 (notFirst plain.1)
    | cons x front =>
      obtain ⟨u,ts',us',levels',same,own,sub,laid⟩ := ih plain.2 (List.cons.inj split).2
      exact ⟨u,ts',us',levels',same,.tail _ own,fun t mem => .tail _ (sub t mem),laid⟩
  | @opens levels t' i' ts us last lead' deeper rest ih =>
    rw [List.forall_mem_cons] at plain
    match front with
    | [] =>
      obtain ⟨_,rfl⟩ := List.cons.inj split
      exact ⟨t',ts,us,levels,rfl,.head _,fun t mem => .tail _ mem,rest⟩
    | [x] => exact absurd (List.cons.inj (List.cons.inj split).2).1 (notFirst plain.1)
    | x :: y :: front =>
      obtain ⟨u,ts',us',levels',same,own,sub,laid⟩ := ih plain.2 (List.cons.inj (List.cons.inj split).2).2
      exact ⟨u,ts',us',levels',same,.tail _ own,fun t mem => .tail _ (sub t mem),laid⟩
  | @closes levels pending t' i' ts us last m lead' closed left rest ih =>
    rw [List.forall_mem_cons] at plain
    have other : t ∉ closing pending m last := fun mem => (closingMarks t mem).2 opens
    obtain ⟨more,rfl,same⟩ := behindMarks other split
    cases more with
    | nil => exact absurd (List.cons.inj same).1 (notFirst plain.1)
    | cons y more =>
      obtain ⟨u,ts',us',levels',same,own,sub,laid⟩ := ih plain.2 (List.cons.inj same).2
      exact ⟨u,ts',us',levels',same,.tail _ own,fun t mem => .tail _ (sub t mem),laid⟩

/-- The lines of code of a block are indented at least as far as its first one, also those of blocks in
it, up to the end of the block. -/
theorem blockIndented {text : List Char} {before inside after : List Token} {opening : Token}
    (laid : layout (scan text) = before ++ opening :: (inside ++ t :: after))
    (opens : opening.lexeme = .indent) (within : (depth? 0 inside).isSome) (code : t.isComment = false)
    (lead : t.lead = some i) : codeIndent (inside ++ t :: after) ≤ i := by
  have plain : ∀ t ∈ scan text, t.lexeme.isLayout = false := fun _ => scanNotLayout
  obtain ⟨u,ts,us,levels,block,own,sub,rest⟩ :=
    (layoutFromLaid [] false false .initial (scan text)).opening plain laid opens
  have first : codeIndent (u :: us) = codeIndent (u :: ts) := by
    rw [codeIndent,codeIndent]
    split
    · next comment =>
      rw [codeIndent,if_pos comment,comment] at rest
      exact rest.blockIndent rfl
    · rfl
  rw [block,first]
  cases inside with
  | nil =>
    obtain ⟨rfl,_⟩ := List.cons.inj block
    exact Nat.le_of_eq (codeIndentOfCode code lead)
  | cons x inside =>
    obtain ⟨rfl,split⟩ := List.cons.inj block
    rw [depthCons,depthPlain (plain x own)] at within
    have outermost : codeIndent (x :: ts) :: levels = [] ++ codeIndent (x :: ts) :: levels := rfl
    exact rest.withinBlock (fun t mem => plain t (sub t mem)) outermost (List.forall_mem_nil _) split.symm
      within code lead

end Depth

end ConventionLint.Grammar
