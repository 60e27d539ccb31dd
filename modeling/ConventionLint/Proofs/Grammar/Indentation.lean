import ConventionLint.Proofs.Grammar.Lines
import ConventionLint.Proofs.Grammar.Scan

/-! Indentations of tokens and of lines. Of the blanks before a token only those behind the last line break
count. If they are spaces, their number is the column of the token, unless the line before is joined to it
by a backslash. -/
namespace ConventionLint.Grammar
open Text (numberedLines segments)
open Text.Utf8 (size)

def StartsLine (text line : List Char) (t : Token) : Prop :=
  t.lead.isSome ∧ List.replicate t.span.start.column ' ' <+: line ∧
    ∀ e ∈ numberedLines text, e.1 + 1 = t.span.start.line → ¬ ['\\'] <:+ e.2

instance (text line : List Char) (t : Token) : Decidable (StartsLine text line t) := by
  unfold StartsLine
  infer_instance

variable {text line cs ds es rest rest' mark : List Char} {p : Position} {k n i : Nat} {t : Token}

theorem segmentsFirst (free : '\n' ∉ ds) :
    segments (ds ++ '\n' :: rest) = (ds ++ ['\n']) :: segments rest := by
  induction ds with
  | nil => rfl
  | cons c ds ih =>
    rw [List.mem_cons,not_or] at free
    rw [List.cons_append,segments,if_neg (Ne.symm free.1),ih free.2]
    rfl

theorem lineEnd (rest : List Char) (free : '\n' ∉ mark) (ends : mark <:+ ds) (p : Position) :
    ∃ n piece, (p.advanceAll ds).line = p.line + n ∧ (segments (ds ++ '\n' :: rest))[n]? = some piece ∧
      mark ++ ['\n'] <:+ piece := by
  induction ds generalizing p with
  | nil =>
    rw [List.suffix_nil.mp ends]
    exact ⟨0,['\n'],rfl,rfl,List.suffix_refl _⟩
  | cons c ds ih =>
    rcases List.suffix_cons_iff.mp ends with rfl | later
    · refine ⟨0,_,?_,by rw [segmentsFirst free]; rfl,List.suffix_refl _⟩
      rw [advanceWithin p free]
      rfl
    · obtain ⟨n,piece,own,found,last⟩ := ih later (p.advance c)
      by_cases feed : c = '\n'
      · subst feed
        rw [advanceBreak] at own
        rw [advanceCons,advanceBreak,own]
        exact ⟨n + 1,piece,Nat.succ_add_eq_add_succ _ _,found,last⟩
      · rw [advanceOther p feed] at own
        rw [advanceCons,advanceOther p feed,List.cons_append,segments,if_neg feed]
        cases lines : segments (ds ++ '\n' :: rest) with
        | nil => simp [lines] at found
        | cons first pieces =>
          rw [lines] at found
          cases n with
          | zero =>
            cases found
            exact ⟨0,_,own,rfl,last.trans (List.suffix_cons c piece)⟩
          | succ n => exact ⟨n + 1,piece,own,found,last⟩

def Joins (cs : List Char) : Prop := ['\\'] <:+ cs ∨ ['\\','\r'] <:+ cs

theorem joinedLine (rest : List Char) (joins : Joins ds) : ∃ l, ((Position.initial.advanceAll ds).line,l) ∈
    numberedLines (ds ++ '\n' :: rest) ∧ ['\\'] <:+ l := by
  have inLine {mark : List Char} (free : '\n' ∉ mark) (ends : mark <:+ ds)
      (kept : ∀ w, ['\\'] <:+ Text.withoutBreak (w ++ (mark ++ ['\n']))) :
      ∃ l, ((Position.initial.advanceAll ds).line,l) ∈ numberedLines (ds ++ '\n' :: rest) ∧ ['\\'] <:+ l := by
    obtain ⟨n,piece,own,found,w,rfl⟩ := lineEnd rest free ends .initial
    refine ⟨_,Text.numberedIff.mpr ⟨?_,?_⟩,kept w⟩
    · rw [own]
      exact Nat.le_add_right 1 n
    · have index : Position.initial.line + n - 1 = n := Nat.add_sub_cancel_left 1 n
      rw [own,index,Text.lines,List.getElem?_map,found]
      rfl
  rcases joins with slash | slash
  · exact inLine (by decide) slash fun w => by simp [Text.withoutBreak]
  · exact inLine (by decide) slash fun w => by simp [Text.withoutBreak]

theorem headByPlace (same : ds ++ rest = es ++ rest')
    (own : (Position.initial.advanceAll ds).line = (Position.initial.advanceAll es).line)
    (across : (Position.initial.advanceAll ds).column = (Position.initial.advanceAll es).column) : ds = es := by
  have place : PlaceOf (ds ++ rest) (Position.initial.advanceAll ds) := ⟨rest,ds,rfl,rfl⟩
  have place' : PlaceOf (ds ++ rest) (Position.initial.advanceAll es) := ⟨rest',es,same,rfl⟩
  have first := (offsetByLine place).2.1
  rw [own,across,← (offsetByLine place').2.1,offsetOf,offsetOf] at first
  have forth := Text.Utf8.prefixBySize same (Nat.le_of_eq first)
  have back := Text.Utf8.prefixBySize same.symm (Nat.le_of_eq first.symm)
  exact forth.eq_of_length_le back.length_le

theorem sizeSpaces (spaces : ∀ c ∈ cs, c = ' ') : size cs = cs.length := by
  induction cs with
  | nil => rfl
  | cons c cs ih =>
    rw [List.forall_mem_cons] at spaces
    rw [size,ih spaces.2,spaces.1,List.length_cons]
    exact Nat.add_comm 1 _

/-- How far blanks indent what comes behind them, as far as the spaces among them tell it. -/
def Indents (broken : Bool) (indent : Nat) (blanks : List Char) (i : Nat) : Prop :=
  (broken = true ∧ '\n' ∉ blanks ∧ ((∀ c ∈ blanks, c = ' ') → i = indent + blanks.length)) ∨
    ∃ before behind, blanks = before ++ '\n' :: behind ∧ '\n' ∉ behind ∧
      ((∀ c ∈ behind, c = ' ') → ¬ Joins before → i = behind.length)

def Gap.Takes (g : Gap) (taken : Nat) (broken : Bool) (indent : Nat) (cs : List Char) : Prop :=
  ∃ n, g.length = taken + n ∧ ∀ i, g.lead = some i → cs.drop n ≠ [] → Indents broken indent (cs.take n) i

section Blanks
variable {g : Gap} {taken indent indent' : Nat} {broken broken' : Bool}

theorem Gap.Takes.behind (w : List Char) (takes : g.Takes (taken + w.length) broken' indent' cs)
    (begun : ∀ blanks i, broken' = true → '\n' ∉ blanks →
      ((∀ c ∈ blanks, c = ' ') → i = indent' + blanks.length) → Indents broken indent (w ++ blanks) i) :
    g.Takes taken broken indent (w ++ cs) := by
  obtain ⟨n,length,all⟩ := takes
  refine ⟨w.length + n,by omega,fun i lead remains => ?_⟩
  rw [List.drop_length_add_append] at remains
  rw [List.take_length_add_append]
  rcases all i lead remains with ⟨broken,free,count⟩ | ⟨before,behind,same,free,count⟩
  · exact begun _ i broken free count
  · refine .inr ⟨w ++ before,behind,by rw [same,List.append_assoc],free,fun spaces apart => ?_⟩
    refine count spaces fun joins => apart ?_
    exact joins.imp (·.trans (List.suffix_append w before)) (·.trans (List.suffix_append w before))

theorem gapFromTakes (taken : Nat) (broken : Bool) (indent : Nat) (cs : List Char) :
    (gapFrom taken broken indent cs).Takes taken broken indent cs := by
  have within {taken indent indent' : Nat} {broken : Bool} {g : Gap} {cs : List Char} {c : Char}
      (other : c ≠ '\n') (counts : c = ' ' → indent' = indent + 1)
      (takes : g.Takes (taken + 1) broken indent' cs) : g.Takes taken broken indent (c :: cs) := by
    refine takes.behind [c] fun blanks i hasBroken free count => .inl ⟨hasBroken,?_,fun spaces => ?_⟩
    · simp [free,other.symm]
    rw [List.singleton_append,List.forall_mem_cons] at spaces
    rw [count spaces.2,counts spaces.1,List.singleton_append,List.length_cons]
    omega
  -- a backslash before a break is taken together with it, which is why its line says nothing about the next
  fun_induction gapFrom taken broken indent cs with
  | case1 => exact ⟨0,rfl,fun _ _ remains => absurd rfl remains⟩
  | case2 taken broken indent cs ih =>
    exact ih.behind ['\\','\r','\n'] fun blanks i _ free _ =>
      .inr ⟨['\\','\r'],blanks,rfl,free,fun _ apart => absurd (.inr (List.suffix_refl _)) apart⟩
  | case3 taken broken indent cs ih =>
    exact ih.behind ['\\','\n'] fun blanks i _ free _ =>
      .inr ⟨['\\'],blanks,rfl,free,fun _ apart => absurd (.inl (List.suffix_refl _)) apart⟩
  | case4 taken broken indent cs _ _ ih =>
    exact ih.behind ['\n'] fun blanks i _ free count =>
      .inr ⟨[],blanks,rfl,free,fun spaces _ => (count spaces).trans (Nat.zero_add _)⟩
  | case5 taken broken indent cs _ _ other ih => exact within other (fun _ => rfl) ih
  | case6 taken broken indent cs _ _ other space ih => exact within other (absurd · space) ih
  | case7 taken broken indent c cs _ _ other space _ _ ih => exact within other (absurd · space) ih
  | case8 taken broken indent c cs _ _ other space _ _ _ ih => exact within other (absurd · space) ih
  | case9 taken broken indent c cs =>
    refine ⟨0,rfl,fun i lead _ => .inl ?_⟩
    cases broken with
    | false => cases lead
    | true =>
      cases lead
      exact ⟨rfl,List.not_mem_nil,fun _ => rfl⟩

theorem gapIndents (lead : (gap cs).lead = some i) (remains : cs.drop (gap cs).length ≠ []) :
    ∃ before behind, cs.take (gap cs).length = before ++ '\n' :: behind ∧ '\n' ∉ behind ∧
      ((∀ c ∈ behind, c = ' ') → ¬ Joins before → i = behind.length) := by
  obtain ⟨n,length,all⟩ := gapFromTakes 0 false 0 cs
  rw [Nat.zero_add] at length
  rw [gap,length] at remains ⊢
  rcases all i lead remains with ⟨broken,_⟩ | counted
  · cases broken
  · exact counted

end Blanks

theorem advanceBehindBreak (p : Position) (ds : List Char) (free : '\n' ∉ cs) :
    (p.advanceAll (ds ++ '\n' :: cs)).line = (p.advanceAll ds).line + 1 ∧
      (p.advanceAll (ds ++ '\n' :: cs)).column = size cs := by
  rw [advanceAppend,advanceCons,advanceBreak,advanceWithin _ free]
  exact ⟨rfl,Nat.zero_add _⟩

theorem spacesOfLine (there : ((Position.initial.advanceAll ds).line + 1,line) ∈
    numberedLines (ds ++ '\n' :: cs ++ rest)) (spaces : List.replicate (size cs) ' ' <+: line) :
    ∀ c ∈ cs, c = ' ' := by
  obtain ⟨before,behind,whole,_,first,zero⟩ := lineAt there
  obtain ⟨more,rfl⟩ := spaces
  obtain ⟨broken,_⟩ := advanceBehindBreak .initial ds List.not_mem_nil
  have cut : before ++ (List.replicate (size cs) ' ' ++ more ++ behind) = ds ++ ['\n'] ++ (cs ++ rest) := by
    rw [← whole]
    simp
  obtain rfl : before = ds ++ ['\n'] := by
    refine headByPlace cut (by rw [first,broken]) ?_
    rw [zero,advanceAppend]
    rfl
  have same : cs ++ rest = List.replicate (size cs) ' ' ++ (more ++ behind) := by
    simpa using cut.symm
  have size : size (List.replicate (size cs) ' ') = size cs :=
    (sizeSpaces fun c mem => List.eq_of_mem_replicate mem).trans List.length_replicate
  have kept := Text.Utf8.prefixBySize same (Nat.le_of_eq size.symm)
  exact fun c mem => List.eq_of_mem_replicate (kept.subset mem)

theorem leadOfSpaces (mem : t ∈ scan text) (valid : t.lexeme ≠ .invalid)
    (there : (t.span.start.line,line) ∈ numberedLines text) (starts : StartsLine text line t) :
    t.lead = some t.span.start.column := by
  obtain ⟨indented,spaces,apart⟩ := starts
  obtain ⟨i,lead⟩ := Option.isSome_iff_exists.mp indented
  rw [lead]
  congr 1
  obtain ⟨s,cs,n,c,lead',⟨pre,rfl,place⟩,step,own,rfl⟩ := scanOrigin mem valid
  cases step with
  | literal | holeOpen | holeClose => cases lead
  | code inside cut =>
    have counted : (gap cs).lead = some i := by
      change (if s.stack.isEmpty then (gap cs).lead else none) = some i at lead
      split at lead
      · exact lead
      · cases lead
    obtain ⟨front,behind,taken,free,count⟩ := gapIndents counted inside
    obtain ⟨own,column⟩ := advanceBehindBreak .initial (pre ++ front) free
    have whole : pre ++ cs = pre ++ front ++ '\n' :: behind ++ cs.drop (gap cs).length := by
      rw [List.append_assoc pre front,← taken,List.append_assoc,List.take_append_drop]
    simp only [stepToken,place,← advanceAppend,taken,← List.append_assoc] at there spaces apart ⊢
    rw [own] at apart
    rw [own,whole] at there
    rw [column] at spaces ⊢
    have blank := spacesOfLine there spaces
    rw [sizeSpaces blank]
    refine count blank fun joins => ?_
    obtain ⟨l,numbered,slash⟩ := joinedLine (behind ++ cs.drop (gap cs).length)
      (joins.imp (·.trans (List.suffix_append pre front)) (·.trans (List.suffix_append pre front)))
    refine apart (_,l) ?_ rfl slash
    rw [whole]
    simpa using numbered

end ConventionLint.Grammar
